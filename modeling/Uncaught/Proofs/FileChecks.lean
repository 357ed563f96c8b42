import Uncaught.Proofs.Violations
import Uncaught.Proofs.Walk

/-!
What the contract checks leave of a file, site by site.

The check of a site counts the site and, if there is one, the reason not to judge it; everything
after that only emits diagnostics. So apart from the number of diagnostics, what is counted at a
site follows from how the program resolves its expressions (`Program.tally`), and neither the
ignored types nor any type hierarchy have a part in it (`tally_check`). Together with the list of
visits this gives one equation each for the diagnostics of a file
(`diagnostics_reportFile_of_checks`) and for its counters (`tally_reportFile`).
-/
namespace Uncaught

/-! ## Counters apart from diagnostics -/

namespace Stats

/-- Statistics added up. -/
def sum (parts : List Stats) : Stats := parts.foldr merge zero

/-- What is counted of a file with some number of routines before any site is judged. -/
def ofFile (routines : Nat) : Stats :=
  { zero with filesChecked := 1, functionsVisited := routines }

/-- Statistics without the number of diagnostics. -/
def tally (s : Stats) : Stats := { s with diagnostics := 0 }

theorem get_tally {s t : Stats} (same : s.tally = t.tally) {counter : Counter}
    (other : counter ≠ .diagnostics) : s.get counter = t.get counter := by
  have same : s.tally.get counter = t.tally.get counter := by rw [same]
  cases counter with
  | diagnostics => exact absurd rfl other
  | _ => exact same

theorem abstentions_tally {s t : Stats} (same : s.tally = t.tally) :
    s.abstentions = t.abstentions :=
  congrArg (·.abstentions) same

end Stats

namespace Report

/-- What a report has counted apart from diagnostics. -/
def tally (a : Report) : Stats := a.stats.tally

theorem tally_append (a b : Report) : (a ++ b).tally = a.tally.merge b.tally := rfl

theorem tally_concat (parts : List Report) :
    (concat parts).tally = Stats.sum (parts.map tally) := by
  induction parts with
  | nil => rfl
  | cons part rest ih => rw [concat_cons, tally_append, ih]; rfl

end Report

namespace Check

variable {α : Type}

theorem tally_lift (answer : Noted α) :
    (liftM answer : Check α).log.tally = Stats.zero := rfl

theorem tally_isReportable (input : CheckInput) (lineage : TypeSet) :
    (input.isReportable lineage).log.tally = Stats.zero := rfl

theorem tally_forM {xs : List α} {check : α → Check Unit}
    (each : ∀ x ∈ xs, (check x).log.tally = Stats.zero) :
    (xs.forM check).log.tally = Stats.zero := by
  induction xs with
  | nil => rfl
  | cons x xs ih =>
    show (check x).log.tally.merge (xs.forM check).log.tally = _
    rw [each x List.mem_cons_self, ih fun y hy => each y (List.mem_cons_of_mem x hy)]
    rfl

end Check

/-! ## Sites -/

namespace Program

/-- The callables that a call may reach, or why they are not known. -/
def resolution (p : Program) (scope : Routine) : Call → Except Abstention (List Callable)
  | .function callee => p.callTargets scope callee
  | .method receiver method =>
    match method.known? with
    | none => .error .unresolvable
    | some name => (p.methodTarget scope receiver name .object).value.map ([·])
  | .static className name => (p.methodTarget scope className name (.static true)).value.map ([·])

/-- What the check of a site counts: the site, and whether it is not judged. -/
def tally (p : Program) (scope : Routine) : Action → Stats
  | .throw thrown =>
    { Stats.zero with
      throwSites := 1
      unknownTypes := if (p.typesOf scope thrown).value.isEmpty then 1 else 0 }
  | .call call =>
    { Stats.zero with
      callSites := 1
      abstentions :=
        match p.resolution scope call with
        | .ok _ => AbstentionCounts.zero
        | .error reason => AbstentionCounts.zero.record reason }

end Program

section

variable {input : CheckInput} {site : Site}

theorem tally_reportType (function : Callable) (contract : Contract) (invoked : Option Callable)
    (t : NamedType) :
    (reportType input site function contract invoked t).log.tally = Stats.zero := by
  rw [reportType]
  simp only [Logged.log_bind, Report.tally_append, Check.tally_isReportable, Stats.zero_merge]
  split
  · split <;> rfl
  · rfl

theorem tally_reportThrown (candidates : TypeSet) (invoked : Option Callable) :
    (reportThrown input site candidates invoked).log.tally = Stats.zero := by
  rw [reportThrown]
  simp only [Logged.log_bind, Report.tally_append, Check.tally_lift, Stats.zero_merge]
  rw [reportEscaping]
  split
  · rfl
  · simp only [Logged.log_bind, Report.tally_append, Check.tally_lift, Stats.zero_merge]
    exact Check.tally_forM fun t _ => tally_reportType _ _ _ t

theorem tally_checkTarget (target : Callable) :
    (checkTarget input site target).log.tally = Stats.zero := by
  rw [checkTarget]
  split
  · rfl
  · exact tally_reportThrown _ _

/-- What is counted at a call of a method once it has been looked up. -/
theorem tally_checkMethod (found : Except Abstention Callable) :
    ((Check.count .callSites).log ++ (checkMethod input site found).log).tally =
      { Stats.zero with
        callSites := 1
        abstentions :=
          match found.map ([·]) with
          | .ok _ => AbstentionCounts.zero
          | .error reason => AbstentionCounts.zero.record reason } := by
  cases found with
  | error reason => cases reason <;> rfl
  | ok target =>
    rw [Report.tally_append, checkMethod, tally_checkTarget]
    rfl

/-- What the check of a site counts follows from what the program resolves. -/
theorem tally_check (input : CheckInput) (site : Site) :
    (site.kind.check input site).log.tally = input.program.tally site.routine site.action := by
  rw [Site.kind]
  cases action : site.action with
  | throw thrown =>
    show (checkThrow input site).log.tally = _
    rw [checkThrow, action, Program.tally]
    simp only [Logged.log_bind, Report.tally_append, Check.tally_lift, Stats.zero_merge,
      Check.value_lift]
    split
    · rfl
    · rw [tally_reportThrown]
      rfl
  | call c =>
    cases c with
    | function callee =>
      show (checkCall input site).log.tally = _
      rw [checkCall, action, Program.tally, Program.resolution]
      simp only [Logged.log_bind, Report.tally_append]
      cases input.program.callTargets site.routine callee with
      | error reason => cases reason <;> rfl
      | ok targets =>
        show Stats.merge _ (targets.forM (checkTarget input site)).log.tally = _
        rw [Check.tally_forM fun target _ => tally_checkTarget target]
        rfl
    | method receiver method =>
      show (checkMethodCall input site).log.tally = _
      rw [checkMethodCall, action, Program.tally, Program.resolution]
      simp only [Logged.log_bind, Report.tally_append]
      cases method.known? with
      | none => rfl
      | some name =>
        simp only [Logged.log_bind, Report.tally_append, Check.tally_lift, Stats.zero_merge,
          Check.value_lift]
        exact tally_checkMethod _
    | static className name =>
      show (checkStaticCall input site).log.tally = _
      rw [checkStaticCall, action, Program.tally, Program.resolution]
      simp only [Logged.log_bind, Report.tally_append, Check.tally_lift, Stats.zero_merge,
        Check.value_lift]
      exact tally_checkMethod _

end

/-! ## Files -/

/-- The sites of a kind that is handled are checked by the check of their kind. -/
def Handlers.AreChecks (handlers : Handlers) : Prop :=
  ∀ kind handler, handlers.handler? kind = some handler → handler = kind.check

theorem Handlers.areChecks_ofConfig (config : Config) : (ofConfig config).AreChecks :=
  fun _ _ found => eq_check_of_ofConfig found

section

variable {input : CheckInput} {handlers : Handlers} {file : SourceFile}

theorem SourceFile.eq_check_of_mem_invocations (checks : handlers.AreChecks) {i : Handler × Site}
    (called : i ∈ file.invocations handlers) : i.1 = i.2.kind.check :=
  checks _ _ (handler?_of_mem_invocations called)

/-- The diagnostics of a file: site by site, source by source and member by member. -/
theorem diagnostics_reportFile_of_checks (checks : handlers.AreChecks) :
    (reportFile input handlers file).diagnostics =
      (file.invocations handlers).flatMap fun i =>
        (input.program.sources i.2.routine i.2.action).flatMap (i.2.violations input) := by
  rw [reportFile_eq, Report.diagnostics_append, Report.diagnostics_concat, List.flatMap_map]
  show [] ++ _ = _
  rw [List.nil_append]
  apply List.flatMap_congr
  intro i called
  rw [SourceFile.eq_check_of_mem_invocations checks called]
  exact diagnostics_check input i.2

/-- What is counted in a file: the file, its routines, and site by site what the program resolves.
-/
theorem tally_reportFile (checks : handlers.AreChecks) :
    (reportFile input handlers file).tally =
      (Stats.ofFile file.routineCount).merge
        (Stats.sum ((file.invocations handlers).map fun i =>
          input.program.tally i.2.routine i.2.action)) := by
  have sites : ((file.invocations handlers).map fun i => (i.1 input i.2).log).map Report.tally =
      (file.invocations handlers).map fun i => input.program.tally i.2.routine i.2.action := by
    rw [List.map_map]
    apply List.map_congr_left
    intro i called
    show (i.1 input i.2).log.tally = _
    rw [SourceFile.eq_check_of_mem_invocations checks called]
    exact tally_check input i.2
  have counted : (Report.ofStats (Stats.zero.add .filesChecked 1) ++
      Report.routines file.routineCount).tally = Stats.ofFile file.routineCount := by
    simp [Report.tally, Report.routines, Report.ofStats, Stats.tally, Stats.merge, Stats.add,
      Stats.ofFile, Stats.zero]
  rw [reportFile_eq, Report.tally_append, Report.tally_concat, sites, counted]

end

end Uncaught
