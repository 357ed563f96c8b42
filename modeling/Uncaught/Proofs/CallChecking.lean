import Uncaught.Codebase
import Uncaught.Proofs.Counting

/-!
Calls are checked beside the throws.

With calls checked, their handlers run in between those of the throws, ask the same questions and
write into the same report. They cannot be seen in what the throws leave: what is left at a site
depends on the site alone, records for a callee are told by their kind
(`isForCall_of_mem_violations`), and every site has records of one sort only. So taking the records
for callees out of a file gives the records of its throws, and the counters of throws do not depend
on the calls at all.
-/
namespace Uncaught

section

variable {input : CheckInput} {site : Site}

/-- The records of a source are for a callee if the source is one. -/
theorem isForCall_of_mem_violations {source : TypeSet × Option Callable} {d : Diagnostic}
    (member : d ∈ site.violations input source) : d.kind.isForCall = source.2.isSome := by
  rw [Site.violations] at member
  obtain ⟨t, -, rfl⟩ := List.mem_map.1 member
  cases input.program.contract (input.program.callableOf site.routine).value with
  | undeclared => cases source.2 <;> rfl
  | declared types => cases source.2 <;> rfl

/-- The sources of a call are callees, that of a throw is not. -/
theorem isSome_of_mem_sources {p : Program} {scope : Routine} {action : Action}
    {source : TypeSet × Option Callable} (member : source ∈ p.sources scope action) :
    source.2.isSome = !(action.kind == .throw) := by
  cases action with
  | throw thrown => rw [List.mem_singleton.1 member]; rfl
  | call c =>
    obtain ⟨target, -, rfl⟩ := List.mem_map.1 member
    cases c <;> rfl

/-- The records of a site. -/
def Site.records (input : CheckInput) (site : Site) : List Diagnostic :=
  (input.program.sources site.routine site.action).flatMap (site.violations input)

/-- The records that are not for a callee are all those of a throw, and none of those of a call. -/
theorem Site.filter_records :
    (site.records input).filter (!·.kind.isForCall) =
      if site.kind == .throw then site.records input else [] := by
  have sort : ∀ d ∈ site.records input, (!d.kind.isForCall) = (site.kind == .throw) := by
    intro d member
    obtain ⟨source, offered, violation⟩ := List.mem_flatMap.1 member
    rw [isForCall_of_mem_violations violation, isSome_of_mem_sources offered, Bool.not_not]
    rfl
  rw [List.filter_congr sort]
  cases site.kind == .throw with
  | true => exact List.filter_true _
  | false => exact List.filter_false _

/-- Of the records of sites, those not for a callee are the records of the throws. -/
theorem Site.filter_flatMap_records (sites : List Site) :
    (sites.flatMap (records input)).filter (!·.kind.isForCall) =
      (sites.filter (·.kind == .throw)).flatMap (records input) := by
  induction sites with
  | nil => rfl
  | cons site rest ih =>
    rw [List.flatMap_cons, List.filter_append, ih, filter_records, List.filter_cons]
    cases site.kind == .throw with
    | true => rfl
    | false => rfl

end

theorem diagnostics_reportFile_ofConfig (config : Config) (input : CheckInput) (file : SourceFile) :
    (reportFile input (Handlers.ofConfig config) file).diagnostics =
      (file.judged config).flatMap (Site.records input) := by
  rw [diagnostics_reportFile_of_checks (Handlers.areChecks_ofConfig config),
    ← SourceFile.map_invocations_ofConfig, List.flatMap_map]
  rfl

theorem Stats.abstentions_sum {parts : List Stats}
    (none : ∀ part ∈ parts, part.abstentions = AbstentionCounts.zero) :
    (sum parts).abstentions = AbstentionCounts.zero := by
  induction parts with
  | nil => rfl
  | cons part rest ih =>
    have rest := ih fun s member => none s (List.mem_cons_of_mem part member)
    show part.abstentions.merge (sum _).abstentions = _
    rw [none part List.mem_cons_self, rest]
    rfl

/-- If only throws are checked no reason has an entry. -/
theorem abstentions_reportFile_of_off {config : Config} (isOff : config.checksCalls = false)
    (input : CheckInput) (file : SourceFile) :
    (reportFile input (Handlers.ofConfig config) file).stats.abstentions =
      AbstentionCounts.zero := by
  show (reportFile input (Handlers.ofConfig config) file).tally.abstentions = _
  have none : ∀ part ∈ (file.judged config).map fun site =>
      input.program.tally site.routine site.action, part.abstentions = AbstentionCounts.zero := by
    intro part member
    obtain ⟨site, judged, rfl⟩ := List.mem_map.1 member
    rw [SourceFile.judged, isOff] at judged
    obtain ⟨thrown, action⟩ := Site.exists_thrown (List.mem_filter.1 judged).2
    rw [action]
    rfl
  rw [tally_reportFile_ofConfig]
  exact congrArg (AbstentionCounts.merge _) (Stats.abstentions_sum none)

/-- **Checking calls only adds records for callees.** Take two configurations with the same ignored
types, of which the second also has calls checked. The records under the first are those under the
second that are not for a callee, in the same order. Routines, throws and throws of unknown types
are counted alike; and under the first no call is counted, and no reason not to judge one has an
entry. -/
theorem call_checks_add_call_records (p : Program) (off on : Config)
    (isOff : off.checksCalls = false) (isOn : on.checksCalls = true)
    (sameIgnored : off.ignoredExceptionTypes = on.ignoredExceptionTypes) (file : SourceFile) :
    let throwsOnly := ((Session.ofConfig off).check p file).value.1
    let withCalls := ((Session.ofConfig on).check p file).value.1
    throwsOnly.diagnostics = withCalls.diagnostics.filter (!·.kind.isForCall) ∧
    throwsOnly.stats.functionsVisited = withCalls.stats.functionsVisited ∧
    throwsOnly.stats.throwSites = withCalls.stats.throwSites ∧
    throwsOnly.stats.unknownTypes = withCalls.stats.unknownTypes ∧
    throwsOnly.stats.callSites = 0 ∧ throwsOnly.stats.abstentions = AbstentionCounts.zero := by
  intro throwsOnly withCalls
  -- Both runs are given the same input, so they differ in their handlers only.
  let input := (Session.ofConfig on).input p
  have sameInput : (Session.ofConfig off).input p = input := by
    show CheckInput.mk p (IgnoredTypes.types (.ofTexts _)) = _
    rw [sameIgnored]
    rfl
  have offReport : throwsOnly =
      Session.fileReport file (reportFile input (Handlers.ofConfig off) file) := by
    rw [← sameInput]
    rfl
  have onReport : withCalls =
      Session.fileReport file (reportFile input (Handlers.ofConfig on) file) := rfl
  have judgedOn : file.judged on = file.sites := by
    rw [SourceFile.judged, isOn]
    exact List.filter_true _
  have judgedOff : file.judged off = file.sites.filter (·.kind == .throw) := by
    rw [SourceFile.judged, isOff]
    rfl
  obtain ⟨-, functions, throws, unknown, calls, -⟩ := counters_reportFile off input file
  obtain ⟨-, functions', throws', unknown', -, -⟩ := counters_reportFile on input file
  rw [isOff, if_neg Bool.false_ne_true] at calls
  rw [offReport, onReport]
  refine ⟨?_, functions.trans functions'.symm, throws.trans throws'.symm,
    unknown.trans unknown'.symm, calls, abstentions_reportFile_of_off isOff input file⟩
  show (reportFile input _ file).diagnostics = (reportFile input _ file).diagnostics.filter _
  rw [diagnostics_reportFile_ofConfig, diagnostics_reportFile_ofConfig, judgedOff, judgedOn,
    Site.filter_flatMap_records]

namespace CallBeforeThrow

def program : Program := (Codebase.ofDeclarations [.function "callee" (some "Other|Quiet")]).program

/-- The call comes between two throws, and stands in the same routine. -/
def source : SourceFile where
  path := "a"
  items := [.routine ⟨"caller", .function, none⟩
    [.throw ⟨2, 0⟩ (.new "Quiet"), .call ⟨3, 0⟩ (.function (.name "callee")) [],
      .throw ⟨4, 0⟩ (.new "Base")]]

def off : Config := ⟨none, ["Quiet"]⟩

def on : Config := ⟨some true, ["Quiet"]⟩

def found (config : Config) : FileResult :=
  ((Session.ofConfig config).check program source).value.1

theorem call_record_is_added :
    off.checksCalls = false ∧ on.checksCalls = true ∧
    off.ignoredExceptionTypes = on.ignoredExceptionTypes ∧
    (found on).diagnostics =
      [⟨.absentForCall, "a", 3, 0, "caller", "Other", some "callee", none⟩,
        ⟨.absent, "a", 4, 0, "caller", "Base", none, none⟩] ∧
    (found off).diagnostics = [⟨.absent, "a", 4, 0, "caller", "Base", none, none⟩] ∧
    (found off).stats.throwSites = 2 := by
  obtain ⟨records, -, throws, -⟩ := call_checks_add_call_records program off on rfl rfl rfl source
  refine ⟨rfl, rfl, rfl, ?_, records.trans ?_, throws.trans ?_⟩
  · decide +kernel
  · decide +kernel
  · decide +kernel

end CallBeforeThrow

end Uncaught
