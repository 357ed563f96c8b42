import Uncaught.Check.Session
import Uncaught.Proofs.FileChecks

/-!
What the counters of a file say.

The walk bumps counters in many places, but each of them has a meaning that does not mention the
walk. The sites of a file are its throws and calls within routines (`SourceFile.sites`), and those
of a kind that is handled are judged once each (`SourceFile.map_invocations`). So the counters of
sites are numbers of throws and calls (`Program.sum_tally`, by induction over sites), and those of
unknown types and abstentions say how many of them the program cannot resolve. The counter of
diagnostics is the only one that is kept beside the list it counts; a report `CountsRecords` if the
two agree, and every step of a check preserves that.
-/
namespace Uncaught

/-! ## Records are counted -/

/-- The counter of diagnostics is the number of diagnostics. -/
def Report.CountsRecords (a : Report) : Prop := a.stats.diagnostics = a.diagnostics.length

/-- A handler that changes the counter of diagnostics only by reporting some. -/
def Handler.CountsRecords (handler : Handler) : Prop :=
  ∀ input site, (handler input site).log.CountsRecords

def Handlers.CountRecords (handlers : Handlers) : Prop :=
  ∀ kind handler, handlers.handler? kind = some handler → handler.CountsRecords

namespace Report

theorem CountsRecords.append {a b : Report} (first : a.CountsRecords) (second : b.CountsRecords) :
    (a ++ b).CountsRecords := by
  show a.stats.diagnostics + b.stats.diagnostics = (a.diagnostics ++ b.diagnostics).length
  rw [first, second, List.length_append]

theorem countsRecords_concat {parts : List Report} (each : ∀ part ∈ parts, part.CountsRecords) :
    (concat parts).CountsRecords := by
  induction parts with
  | nil => rfl
  | cons part rest ih =>
    have rest := ih fun part member => each part (List.mem_cons_of_mem _ member)
    exact (each part List.mem_cons_self).append rest

end Report

section

variable {input : CheckInput} {site : Site}

theorem countsRecords_forM {α : Type} {xs : List α} {check : α → Check Unit}
    (each : ∀ x, (check x).log.CountsRecords) : (xs.forM check).log.CountsRecords := by
  rw [Check.log_forM]
  apply Report.countsRecords_concat
  intro part member
  obtain ⟨x, -, rfl⟩ := List.mem_map.1 member
  exact each x

theorem countsRecords_reportType (function : Callable) (contract : Contract)
    (invoked : Option Callable) (t : NamedType) :
    (reportType input site function contract invoked t).log.CountsRecords := by
  rw [reportType, Logged.log_bind]
  refine Report.CountsRecords.append rfl ?_
  split
  · split <;> rfl
  · rfl

theorem countsRecords_reportThrown (candidates : TypeSet) (invoked : Option Callable) :
    (reportThrown input site candidates invoked).log.CountsRecords := by
  rw [reportThrown, Logged.log_bind]
  refine Report.CountsRecords.append rfl ?_
  rw [reportEscaping]
  split
  · rfl
  · rw [Logged.log_bind]
    refine Report.CountsRecords.append rfl ?_
    exact countsRecords_forM fun t => countsRecords_reportType _ _ _ t

theorem countsRecords_checkTarget (target : Callable) :
    (checkTarget input site target).log.CountsRecords := by
  rw [checkTarget]
  split
  · rfl
  · exact countsRecords_reportThrown _ _

theorem countsRecords_checkMethod (found : Except Abstention Callable) :
    (checkMethod input site found).log.CountsRecords := by
  cases found with
  | error reason => rfl
  | ok target => exact countsRecords_checkTarget target

end

theorem SiteKind.countsRecords_check (kind : SiteKind) : kind.check.CountsRecords := by
  intro input site
  cases kind with
  | throw =>
    show (checkThrow input site).log.CountsRecords
    rw [checkThrow]
    split
    · simp only [Logged.log_bind]
      refine .append rfl (.append rfl ?_)
      split
      · rfl
      · exact countsRecords_reportThrown _ _
    · rfl
  | call =>
    show (checkCall input site).log.CountsRecords
    rw [checkCall]
    split
    · rw [Logged.log_bind]
      refine .append rfl ?_
      split
      · exact countsRecords_forM countsRecords_checkTarget
      · rfl
    · rfl
  | methodCall =>
    show (checkMethodCall input site).log.CountsRecords
    rw [checkMethodCall]
    split
    · rw [Logged.log_bind]
      refine .append rfl ?_
      split
      · rfl
      · exact .append rfl (countsRecords_checkMethod _)
    · rfl
  | staticCall =>
    show (checkStaticCall input site).log.CountsRecords
    rw [checkStaticCall]
    split
    · rw [Logged.log_bind]
      exact .append rfl (.append rfl (countsRecords_checkMethod _))
    · rfl

theorem Handlers.countRecords_ofConfig (config : Config) : (ofConfig config).CountRecords := by
  intro kind handler found
  rw [eq_check_of_ofConfig found]
  exact kind.countsRecords_check

theorem countsRecords_reportFile {handlers : Handlers} (counts : handlers.CountRecords)
    (input : CheckInput) (file : SourceFile) : (reportFile input handlers file).CountsRecords := by
  rw [reportFile_eq]
  refine Report.CountsRecords.append rfl (Report.countsRecords_concat fun part member => ?_)
  obtain ⟨i, called, rfl⟩ := List.mem_map.1 member
  exact counts _ _ (SourceFile.handler?_of_mem_invocations called) input i.2

/-! ## The sites of a file -/

def Action.thrown? : Action → Option Expr
  | .throw thrown => some thrown
  | .call _ => none

def Action.call? : Action → Option Call
  | .throw _ => none
  | .call c => some c

/-- The thrown expressions of those sites that are throws, each with its routine. -/
def Site.throws (sites : List Site) : List (Routine × Expr) :=
  sites.filterMap fun site => site.action.thrown?.map (site.routine, ·)

/-- The calls of those sites that are calls, each with its routine. -/
def Site.calls (sites : List Site) : List (Routine × Call) :=
  sites.filterMap fun site => site.action.call?.map (site.routine, ·)

namespace SourceFile

/-- The throws and calls within the routines of a file, in the order of a walk. -/
def sites (file : SourceFile) : List Site := file.occurrences.filterMap (·.site? file.path)

/-- The sites of a kind that is handled are judged, once each and in their order. -/
theorem map_invocations (handlers : Handlers) (file : SourceFile) :
    (file.invocations handlers).map (·.2) =
      file.sites.filter fun site => handlers.handles site.kind := by
  rw [invocations_eq, sites, List.map_filterMap, List.filter_filterMap]
  apply List.filterMap_congr
  intro o _
  rw [Occurrence.invocation?, Occurrence.site?, Node.siteKind?_eq]
  cases o.node.event? with
  | none => rfl
  | some event =>
    obtain ⟨position, action⟩ := event
    simp only [Option.map_some, Option.bind_eq_bind, Option.bind_some]
    cases o.enclosing? with
    | none => cases handlers.handler? action.kind <;> rfl
    | some f =>
      simp only [Option.bind_some, Option.pure_def, Option.filter_some, Site.kind,
        Handlers.handles]
      cases handlers.handler? action.kind <;> rfl

end SourceFile

theorem Handlers.handles_ofConfig (config : Config) (kind : SiteKind) :
    (ofConfig config).handles kind = (config.checksCalls || kind == .throw) := by
  rw [ofConfig]
  cases config.checksCalls <;> cases kind <;> rfl

/-- The sites of a file that are judged under a configuration: its throws, and its calls if they are
checked. -/
def SourceFile.judged (config : Config) (file : SourceFile) : List Site :=
  file.sites.filter fun site => config.checksCalls || site.kind == .throw

theorem Site.exists_thrown {site : Site} (throws : (site.kind == .throw) = true) :
    ∃ thrown, site.action = .throw thrown := by
  rw [Site.kind] at throws
  cases action : site.action with
  | throw thrown => exact ⟨thrown, rfl⟩
  | call c =>
    rw [action] at throws
    cases c <;> cases throws

section

variable {config : Config} {file : SourceFile}

theorem SourceFile.map_invocations_ofConfig :
    (file.invocations (Handlers.ofConfig config)).map (·.2) = file.judged config := by
  rw [map_invocations, judged]
  exact List.filter_congr fun site _ => Handlers.handles_ofConfig config site.kind

theorem Site.throws_judged : throws (file.judged config) = throws file.sites := by
  rw [throws, SourceFile.judged, List.filterMap_filter]
  apply List.filterMap_congr
  intro site _
  rw [Site.kind]
  cases site.action with
  | throw thrown => exact if_pos (Bool.or_true _)
  | call c => exact ite_self _

theorem Site.calls_judged :
    calls (file.judged config) = if config.checksCalls then calls file.sites else [] := by
  rw [calls, SourceFile.judged]
  cases config.checksCalls with
  | true => simp only [Bool.true_or, List.filter_true, if_true, calls]
  | false =>
    rw [if_neg Bool.false_ne_true, List.filterMap_eq_nil_iff]
    intro site member
    obtain ⟨-, throws⟩ := List.mem_filter.1 member
    obtain ⟨thrown, action⟩ := exists_thrown throws
    rw [action]
    rfl

end

/-! ## The counters of sites -/

/-- A call that is not resolved is counted for its reason and for no other. -/
theorem Program.get_tally_call (p : Program) (scope : Routine) (c : Call) (reason : Abstention) :
    (p.tally scope (.call c)).abstentions.get reason =
      if p.resolution scope c = .error reason then 1 else 0 := by
  rw [tally]
  cases p.resolution scope c with
  | ok targets =>
    rw [if_neg (by simp)]
    cases reason <;> rfl
  | error given => cases given <;> cases reason <;> rfl

/-- What is counted at sites is how many throws and calls they are, and how many of these the
program cannot resolve. -/
theorem Program.sum_tally (p : Program) (sites : List Site) :
    let counted := Stats.sum (sites.map fun site => p.tally site.routine site.action)
    counted.filesChecked = 0 ∧ counted.functionsVisited = 0 ∧
    counted.throwSites = (Site.throws sites).length ∧
    counted.unknownTypes =
      (Site.throws sites).countP (fun (scope, thrown) => (p.typesOf scope thrown).value.isEmpty) ∧
    counted.callSites = (Site.calls sites).length ∧
    ∀ reason, counted.abstentions.get reason =
      (Site.calls sites).countP fun (scope, call) => p.resolution scope call = .error reason := by
  induction sites with
  | nil => exact ⟨rfl, rfl, rfl, rfl, rfl, fun reason => by cases reason <;> rfl⟩
  | cons site rest ih =>
    rw [List.map_cons, Stats.sum, List.foldr_cons, ← Stats.sum]
    generalize Stats.sum (rest.map fun site => p.tally site.routine site.action) = counted at ih ⊢
    obtain ⟨files, functions, throws, unknown, calls, abstentions⟩ := ih
    cases action : site.action with
    | throw thrown =>
      have front : Site.throws (site :: rest) = (site.routine, thrown) :: Site.throws rest := by
        simp [Site.throws, action, Action.thrown?]
      have same : Site.calls (site :: rest) = Site.calls rest := by
        simp [Site.calls, action, Action.call?]
      rw [front, same, List.length_cons, List.countP_cons]
      refine ⟨(Nat.zero_add _).trans files, (Nat.zero_add _).trans functions, ?_, ?_,
        (Nat.zero_add _).trans calls, fun reason => ?_⟩
      · show 1 + counted.throwSites = _
        rw [throws, Nat.add_comm]
      · show (if _ then 1 else 0) + counted.unknownTypes = _
        rw [unknown, Nat.add_comm]
      · show (AbstentionCounts.zero.merge counted.abstentions).get reason = _
        rw [AbstentionCounts.zero_merge, abstentions]
    | call c =>
      have same : Site.throws (site :: rest) = Site.throws rest := by
        simp [Site.throws, action, Action.thrown?]
      have front : Site.calls (site :: rest) = (site.routine, c) :: Site.calls rest := by
        simp [Site.calls, action, Action.call?]
      rw [same, front, List.length_cons]
      refine ⟨(Nat.zero_add _).trans files, (Nat.zero_add _).trans functions,
        (Nat.zero_add _).trans throws, (Nat.zero_add _).trans unknown, ?_, fun reason => ?_⟩
      · show 1 + counted.callSites = _
        rw [calls, Nat.add_comm]
      · show (AbstentionCounts.merge _ counted.abstentions).get reason = _
        rw [AbstentionCounts.get_merge, get_tally_call, abstentions, List.countP_cons, Nat.add_comm]
        simp only [decide_eq_true_eq]

/-- A call whose target is not known has no targets. -/
theorem Program.targets_of_resolution {p : Program} {scope : Routine} {call : Call}
    {reason : Abstention} (unknown : p.resolution scope call = .error reason) :
    p.targets scope call = [] := by
  cases call with
  | function callee =>
    rw [resolution] at unknown
    rw [targets, unknown]
    rfl
  | method receiver method =>
    rw [resolution] at unknown
    rw [targets]
    cases known : method.known? with
    | none => rfl
    | some name =>
      simp only [known] at unknown ⊢
      cases found : (p.methodTarget scope receiver name .object).value with
      | error other => rfl
      | ok target =>
        rw [found] at unknown
        cases unknown
  | static className name =>
    rw [resolution] at unknown
    rw [targets]
    cases found : (p.methodTarget scope className name (.static true)).value with
    | error other => rfl
    | ok target =>
      rw [found] at unknown
      cases unknown

/-- A site that is counted as not judged leaves no record. -/
theorem diagnostics_check_of_totalAbstentions {input : CheckInput} {site : Site}
    (notJudged : (site.kind.check input site).log.stats.totalAbstentions ≠ 0) :
    (site.kind.check input site).log.diagnostics = [] := by
  have counted : (site.kind.check input site).log.stats.totalAbstentions =
      (input.program.tally site.routine site.action).totalAbstentions := by
    rw [← tally_check]
    rfl
  rw [counted] at notJudged
  rw [diagnostics_check]
  cases action : site.action with
  | throw thrown =>
    rw [action, Program.tally] at notJudged
    have empty : (input.program.typesOf site.routine thrown).value.isEmpty = true := by
      by_contra known
      rw [if_neg known] at notJudged
      exact notJudged rfl
    rw [Program.sources, List.flatMap_singleton, violations_of_isEmpty empty]
  | call c =>
    rw [action, Program.tally] at notJudged
    cases found : input.program.resolution site.routine c with
    | ok targets =>
      rw [found] at notJudged
      exact absurd rfl notJudged
    | error reason =>
      rw [Program.sources, Program.targets_of_resolution found]
      rfl

/-! ## Files -/

theorem tally_reportFile_ofConfig (config : Config) (input : CheckInput) (file : SourceFile) :
    (reportFile input (Handlers.ofConfig config) file).tally =
      (Stats.ofFile file.routineCount).merge (Stats.sum
        ((file.judged config).map fun site => input.program.tally site.routine site.action)) := by
  rw [← SourceFile.map_invocations_ofConfig, List.map_map]
  exact tally_reportFile (Handlers.areChecks_ofConfig config)

/-- The counters of a file apart from that of diagnostics. -/
theorem counters_reportFile (config : Config) (input : CheckInput) (file : SourceFile) :
    let counted := (reportFile input (Handlers.ofConfig config) file).stats
    counted.filesChecked = 1 ∧
    counted.functionsVisited = file.routineCount ∧
    counted.throwSites = (Site.throws file.sites).length ∧
    counted.unknownTypes =
      (Site.throws file.sites).countP (fun (scope, thrown) =>
        (input.program.typesOf scope thrown).value.isEmpty) ∧
    counted.callSites = (if config.checksCalls then (Site.calls file.sites).length else 0) ∧
    ∀ reason, counted.abstentions.get reason =
      if config.checksCalls then
        (Site.calls file.sites).countP fun (scope, call) =>
          input.program.resolution scope call = .error reason
      else 0 := by
  intro counted
  have tally : counted.tally = _ := tally_reportFile_ofConfig config input file
  obtain ⟨files, functions, throws, unknown, calls, abstentions⟩ :=
    input.program.sum_tally (file.judged config)
  generalize Stats.sum _ = sites at tally files functions throws unknown calls abstentions
  rw [Site.throws_judged] at throws unknown
  rw [Site.calls_judged] at calls abstentions
  -- Every one of these counters is read off the two parts.
  have read {α : Type} (field : Stats → α) : field counted.tally = field (.merge _ sites) :=
    congrArg field tally
  refine ⟨?_, ?_, ?_, ?_, ?_, fun reason => ?_⟩
  · exact (read (·.filesChecked)).trans (congrArg (1 + ·) files)
  · exact (read (·.functionsVisited)).trans (congrArg (file.routineCount + ·) functions)
  · exact ((read (·.throwSites)).trans (Nat.zero_add _)).trans throws
  · exact ((read (·.unknownTypes)).trans (Nat.zero_add _)).trans unknown
  · refine ((read (·.callSites)).trans (Nat.zero_add _)).trans (calls.trans ?_)
    exact apply_ite List.length _ _ _
  · refine (read (·.abstentions.get reason)).trans ?_
    show (AbstentionCounts.zero.merge sites.abstentions).get reason = _
    rw [AbstentionCounts.zero_merge, abstentions, apply_ite (List.countP _), List.countP_nil]

/-- **Every counter has a meaning.** A check of a file counts one file, its routines, and the throws
and, if they are checked, the calls within routines. Of the throws it counts those as unknown whose
expressions have no known types, and of the calls, if they are checked, it counts for each reason
those that the program does not resolve for this reason. The counter of diagnostics is the number of
records. The records come from the handlers that are called for the sites, and one that counts its
site as not judged leaves none. -/
theorem counters_count (p : Program) (config : Config) (file : SourceFile) :
    let session := Session.ofConfig config
    let found := (session.check p file).value.1
    found.stats.filesChecked = 1 ∧
    found.stats.functionsVisited = file.routineCount ∧
    found.stats.throwSites = (Site.throws file.sites).length ∧
    found.stats.unknownTypes =
      (Site.throws file.sites).countP (fun (scope, thrown) =>
        (p.typesOf scope thrown).value.isEmpty) ∧
    found.stats.callSites = (if config.checksCalls then (Site.calls file.sites).length else 0) ∧
    (∀ reason, found.stats.abstentions.get reason =
      if config.checksCalls then
        (Site.calls file.sites).countP fun (scope, call) => p.resolution scope call = .error reason
      else 0) ∧
    found.stats.diagnostics = found.diagnostics.length ∧
    found.diagnostics = ((file.invocations session.handlers).flatMap fun i =>
      (i.1 (session.input p) i.2).log.diagnostics) ∧
    ∀ i ∈ file.invocations session.handlers,
      (i.1 (session.input p) i.2).log.stats.totalAbstentions ≠ 0 →
        (i.1 (session.input p) i.2).log.diagnostics = [] := by
  intro session found
  obtain ⟨files, functions, throws, unknown, calls, abstentions⟩ :=
    counters_reportFile config (session.input p) file
  refine ⟨files, functions, throws, unknown, calls, abstentions, ?_, ?_, ?_⟩
  · exact countsRecords_reportFile (Handlers.countRecords_ofConfig config) _ file
  · show (reportFile _ _ file).diagnostics = _
    rw [reportFile_eq, Report.diagnostics_append, Report.diagnostics_concat, List.flatMap_map]
    rfl
  · intro i called notJudged
    rw [SourceFile.eq_check_of_mem_invocations (Handlers.areChecks_ofConfig config) called]
      at notJudged ⊢
    exact diagnostics_check_of_totalAbstentions notJudged

/-- A throw outside every routine is not a site, one of unknown types is. -/
example : ((Session.ofConfig ⟨some true, []⟩).check Program.empty ⟨"a",
    [.throw ⟨1, 0⟩ .unknown, .routine ⟨"f", .function, none⟩
      [.throw ⟨2, 0⟩ .unknown, .call ⟨3, 0⟩ (.method .unknown (.dynamic .unknown)) []]]⟩).value.1 =
    ⟨"a", [], ⟨1, 1, 1, 1, 0, 1, ⟨none, none, none, some 1⟩⟩⟩ := by decide +kernel

end Uncaught
