import Uncaught.Check.Probe
import Uncaught.Check.Session
import Uncaught.Proofs.Violations
import Uncaught.Proofs.Walk

/-!
What checks learn of the ignored types.

A handler is not shown the ignored types. It may ask of a type whether it is still to be reported,
and go by the answer. An `Inquiry` is the tree of such questions with what is written on the way,
and a handler `Inquires` if it is the run of one. This holds of the contract checks and of the
probes, and it has two consequences. What such a handler finds depends on the ignored types
themselves, and not on the names that were spelled out to come by them
(`Inquiry.findings_run_congr`). And it makes no difference whether the types are there from the
start or come out of a list that is parsed at the first question, wherever in a file that is, and
kept for the next ones (`Inquiry.findings_runFrom`).
-/
namespace Uncaught

/-! ## Findings -/

namespace Report

/-- What a report says of the files, apart from the names that were spelled out. -/
def findings (a : Report) : Report := { a with mentions := [] }

/-- A report without the mark that the ignored types were asked for. -/
def unasked (a : Report) : Report := { a with askedIgnored := false }

theorem findings_append (a b : Report) : (a ++ b).findings = a.findings ++ b.findings := rfl

theorem askedIgnored_append (a b : Report) :
    (a ++ b).askedIgnored = (a.askedIgnored || b.askedIgnored) := rfl

theorem askedIgnored_concat (parts : List Report) :
    (concat parts).askedIgnored = parts.any (·.askedIgnored) := by
  induction parts with
  | nil => rfl
  | cons part rest ih => rw [concat_cons, askedIgnored_append, ih, List.any_cons]

end Report

namespace Check

variable {α β γ : Type}

theorem pure_bind (a : α) (f : α → Check β) : (pure a >>= f) = f a := by
  show Logged.mk (f a).value (∅ ++ (f a).log) = f a
  rw [Report.empty_append]

theorem bind_pure (x : Check α) : (x >>= pure) = x := by
  show Logged.mk x.value (x.log ++ ∅) = x
  rw [Report.append_empty]

theorem bind_assoc (x : Check α) (f : α → Check β) (g : β → Check γ) :
    (x >>= f >>= g) = (x >>= fun a => f a >>= g) := by
  show Logged.mk (g (f x.value).value).value
      (x.log ++ (f x.value).log ++ (g (f x.value).value).log) =
    Logged.mk (g (f x.value).value).value
      (x.log ++ ((f x.value).log ++ (g (f x.value).value).log))
  rw [Report.append_assoc]

end Check

/-! ## Inquiries -/

/-- What a check does as far as the ignored types matter to it: it comes to an end, writes a part of
its report without a question, or asks whether a type, given with its ancestors, is to be reported.
-/
inductive Inquiry (α : Type) where
  | done (result : α)
  | write (part : Report) (next : Inquiry α)
  | ask (lineage : TypeSet) (next : Bool → Inquiry α)

namespace Inquiry

variable {α β : Type} {p : Program}

def bind : Inquiry α → (α → Inquiry β) → Inquiry β
  | done result, f => f result
  | write part next, f => write part (next.bind f)
  | ask lineage next, f => ask lineage fun answer => (next answer).bind f

/-- The check that an inquiry makes when it may ask about some ignored types. -/
def run (input : CheckInput) : Inquiry α → Check α
  | done result => pure result
  | write part next => do
    Logged.write part.unasked
    next.run input
  | ask lineage next => do
    let answer ← input.isReportable lineage
    (next answer).run input

/-- The check that an inquiry makes with a list of ignored types: the first question has the list
parsed, and the types are kept. -/
def runFrom (p : Program) : Inquiry α → IgnoredTypes → Check α × IgnoredTypes
  | done result, list => (pure result, list)
  | write part next, list =>
    let (rest, list) := next.runFrom p list
    ((do Logged.write part.unasked; rest), list)
  | ask lineage next, list =>
    let answer := CheckInput.isReportable ⟨p, list.types⟩ lineage
    let (rest, list) := (next answer.value).runFrom p list.initialized
    ((do let _ ← answer; rest), list)

theorem run_bind (input : CheckInput) (inquiry : Inquiry α) (f : α → Inquiry β) :
    (inquiry.bind f).run input = (inquiry.run input >>= fun a => (f a).run input) := by
  induction inquiry with
  | done result => exact (Check.pure_bind result fun a => (f a).run input).symm
  | write part next ih =>
    rw [bind, run, run, ih, Check.bind_assoc]
  | ask lineage next ih =>
    rw [bind, run, run, Check.bind_assoc]
    exact congrArg _ (funext fun answer => ih answer)

/-- What an inquiry comes to depends on the ignored types and not on how they were come by. -/
theorem findings_run_congr {a b : Noted TypeSet} (same : a.value = b.value) (inquiry : Inquiry α) :
    (inquiry.run ⟨p, a⟩).value = (inquiry.run ⟨p, b⟩).value ∧
      (inquiry.run ⟨p, a⟩).log.findings = (inquiry.run ⟨p, b⟩).log.findings := by
  induction inquiry with
  | done result => exact ⟨rfl, rfl⟩
  | write part next ih =>
    obtain ⟨value, log⟩ := ih
    refine ⟨value, ?_⟩
    simp only [run, Logged.log_bind, Report.findings_append, log]
  | ask lineage next ih =>
    -- The question is answered alike in both runs, so they take the same branch.
    have answer : (CheckInput.isReportable ⟨p, a⟩ lineage).value =
        (CheckInput.isReportable ⟨p, b⟩ lineage).value := by
      show (a.value.isEmpty || !lineage.castable a.value) = _
      rw [same]
      rfl
    obtain ⟨value, log⟩ := ih (CheckInput.isReportable ⟨p, b⟩ lineage).value
    constructor
    · simp only [run, Logged.value_bind, answer, value]
    · simp only [run, Logged.log_bind, Report.findings_append, answer, log]
      rfl

/-- Having the list parsed at the first question comes to the same as having its types from the
start, and afterwards the list is parsed exactly if there was a question. -/
theorem findings_runFrom (inquiry : Inquiry α) (list : IgnoredTypes) :
    ((inquiry.runFrom p list).1.value = (inquiry.run ⟨p, list.types⟩).value ∧
      (inquiry.runFrom p list).1.log.findings = (inquiry.run ⟨p, list.types⟩).log.findings) ∧
    (inquiry.runFrom p list).2 =
      if (inquiry.run ⟨p, list.types⟩).log.askedIgnored then list.initialized else list := by
  induction inquiry generalizing list with
  | done result => exact ⟨⟨rfl, rfl⟩, rfl⟩
  | write part next ih =>
    obtain ⟨⟨value, log⟩, kept⟩ := ih list
    refine ⟨⟨value, ?_⟩, kept⟩
    show part.unasked.findings ++ Report.findings _ = part.unasked.findings ++ Report.findings _
    rw [log]
  | ask lineage next ih =>
    -- From here on the list is parsed, which changes its names and not its types.
    let answer := CheckInput.isReportable ⟨p, list.types⟩ lineage
    obtain ⟨⟨value, log⟩, kept⟩ := ih answer.value list.initialized
    obtain ⟨value', log'⟩ := findings_run_congr (p := p) (a := list.initialized.types)
      (b := list.types) rfl (next answer.value)
    refine ⟨⟨value.trans value', ?_⟩, ?_⟩
    · show answer.log.findings ++ Report.findings _ = answer.log.findings ++ Report.findings _
      rw [log, log']
    · show ((next answer.value).runFrom p list.initialized).2 = list.initialized
      rw [kept]
      exact ite_self _

end Inquiry

/-! ## Handlers that inquire -/

/-- A check that learns of the ignored types only by asking whether types are to be reported. -/
def Inquires {α : Type} (p : Program) (check : Noted TypeSet → Check α) : Prop :=
  ∃ inquiry : Inquiry α, ∀ ignored, check ignored = inquiry.run ⟨p, ignored⟩

def Handler.Inquires (handler : Handler) : Prop :=
  ∀ p site, Uncaught.Inquires p fun ignored => handler ⟨p, ignored⟩ site

def Handlers.Inquire (handlers : Handlers) : Prop :=
  ∀ kind handler, handlers.handler? kind = some handler → handler.Inquires

namespace Inquires

variable {α β : Type} {p : Program}

/-- A check that does not ask. -/
theorem const (check : Check α) (unasked : check.log.askedIgnored = false) :
    Inquires p fun _ => check := by
  refine ⟨.write check.log (.done check.value), fun _ => ?_⟩
  have same : check.log.unasked = check.log := Report.ext rfl rfl rfl unasked.symm
  show check = Logged.mk check.value (check.log.unasked ++ ∅)
  rw [same, Report.append_empty]

theorem isReportable (lineage : TypeSet) :
    Inquires p fun ignored => CheckInput.isReportable ⟨p, ignored⟩ lineage :=
  ⟨.ask lineage .done, fun _ => (Check.bind_pure _).symm⟩

theorem bind {check : Noted TypeSet → Check α} {next : Noted TypeSet → α → Check β}
    (first : Inquires p check) (rest : ∀ a, Inquires p fun ignored => next ignored a) :
    Inquires p fun ignored => check ignored >>= next ignored := by
  obtain ⟨inquiry, runs⟩ := first
  choose others run_others using rest
  refine ⟨inquiry.bind others, fun ignored => ?_⟩
  rw [Inquiry.run_bind, ← runs]
  exact congrArg _ (funext fun a => run_others a ignored)

/-- A check that asks of each member of a list in turn. -/
theorem forM {ι : Type} (xs : List ι) {check : Noted TypeSet → ι → Check Unit}
    (each : ∀ x ∈ xs, Inquires p fun ignored => check ignored x) :
    Inquires p fun ignored => xs.forM (check ignored) := by
  induction xs with
  | nil => exact const (pure ()) rfl
  | cons x xs ih =>
    have rest := ih fun y hy => each y (List.mem_cons_of_mem x hy)
    exact bind (each x List.mem_cons_self) fun _ => rest

end Inquires

section

variable {p : Program} {site : Site}

theorem inquires_reportType (function : Callable) (contract : Contract) (invoked : Option Callable)
    (t : NamedType) :
    Inquires p fun ignored => reportType ⟨p, ignored⟩ site function contract invoked t := by
  unfold reportType
  dsimp only
  refine Inquires.bind (Inquires.isReportable _) fun reportable => ?_
  cases reportable with
  | false => exact Inquires.const (pure ()) rfl
  | true =>
    cases contract.admits (p.hierarchy.withAncestors t) with
    | false => exact Inquires.const (Check.emit _) rfl
    | true => exact Inquires.const (pure ()) rfl

theorem inquires_reportThrown (candidates : TypeSet) (invoked : Option Callable) :
    Inquires p fun ignored => reportThrown ⟨p, ignored⟩ site candidates invoked := by
  unfold reportThrown
  refine Inquires.bind (Inquires.const (liftM (p.hierarchy.escaping _ _)) rfl) fun escaping => ?_
  unfold reportEscaping
  dsimp only
  cases escaping.isEmpty with
  | true => exact Inquires.const (pure ()) rfl
  | false =>
    refine Inquires.bind (Inquires.const (liftM (p.callableOf site.routine)) rfl) fun function => ?_
    exact Inquires.forM _ fun t _ => inquires_reportType _ _ _ t

theorem inquires_checkTarget (target : Callable) :
    Inquires p fun ignored => checkTarget ⟨p, ignored⟩ site target := by
  unfold checkTarget
  dsimp only
  cases (p.contract target).candidates.isEmpty with
  | true => exact Inquires.const (pure ()) rfl
  | false => exact inquires_reportThrown _ _

theorem inquires_checkMethod (found : Except Abstention Callable) :
    Inquires p fun ignored => checkMethod ⟨p, ignored⟩ site found := by
  cases found with
  | error reason => exact Inquires.const (Check.abstain reason) rfl
  | ok target => exact inquires_checkTarget target

end

theorem inquires_checkThrow : checkThrow.Inquires := by
  intro p site
  unfold checkThrow
  cases site.action with
  | call c => exact Inquires.const (pure ()) rfl
  | throw thrown =>
    refine Inquires.bind (Inquires.const (Check.count .throwSites) rfl) fun _ => ?_
    refine Inquires.bind (Inquires.const (liftM (p.typesOf site.routine thrown)) rfl) fun types => ?_
    cases types.isEmpty with
    | true => exact Inquires.const Check.unknownType rfl
    | false => exact inquires_reportThrown _ _

theorem inquires_checkCall : checkCall.Inquires := by
  intro p site
  unfold checkCall
  split
  next callee _ =>
    refine Inquires.bind (Inquires.const (Check.count .callSites) rfl) fun _ => ?_
    dsimp only
    cases p.callTargets site.routine callee with
    | ok targets => exact Inquires.forM _ fun target _ => inquires_checkTarget target
    | error reason => exact Inquires.const (Check.abstain reason) rfl
  next => exact Inquires.const (pure ()) rfl

theorem inquires_checkMethodCall : checkMethodCall.Inquires := by
  intro p site
  unfold checkMethodCall
  split
  next receiver method _ =>
    refine Inquires.bind (Inquires.const (Check.count .callSites) rfl) fun _ => ?_
    cases method.known? with
    | none => exact Inquires.const (Check.abstain .unresolvable) rfl
    | some name =>
      exact Inquires.bind (Inquires.const (liftM (p.methodTarget _ _ _ _)) rfl)
        inquires_checkMethod
  next => exact Inquires.const (pure ()) rfl

theorem inquires_checkStaticCall : checkStaticCall.Inquires := by
  intro p site
  unfold checkStaticCall
  split
  next className name _ =>
    refine Inquires.bind (Inquires.const (Check.count .callSites) rfl) fun _ => ?_
    exact Inquires.bind (Inquires.const (liftM (p.methodTarget _ _ _ _)) rfl) inquires_checkMethod
  next => exact Inquires.const (pure ()) rfl

theorem inquires_countNotIgnored : countNotIgnored.Inquires := by
  intro p site
  unfold countNotIgnored
  cases site.action with
  | call c => exact Inquires.const (pure ()) rfl
  | throw thrown =>
    refine Inquires.bind (Inquires.const (liftM (p.typesOf site.routine thrown)) rfl) fun types => ?_
    refine Inquires.forM _ fun t _ => ?_
    unfold countUnlessIgnored
    dsimp only
    refine Inquires.bind (Inquires.isReportable _) fun reportable => ?_
    cases reportable with
    | false => exact Inquires.const (pure ()) rfl
    | true => exact Inquires.const (Check.count .callSites) rfl

theorem inquires_showSite : showSite.Inquires := fun p site =>
  Inquires.bind (Inquires.const (liftM (p.callableOf site.routine)) rfl) fun _ =>
    Inquires.const (Check.emit _) rfl

theorem SiteKind.inquires_check (kind : SiteKind) : kind.check.Inquires := by
  cases kind with
  | throw => exact inquires_checkThrow
  | call => exact inquires_checkCall
  | methodCall => exact inquires_checkMethodCall
  | staticCall => exact inquires_checkStaticCall

theorem Handlers.inquire_ofConfig (config : Config) : (ofConfig config).Inquire := by
  intro kind handler found
  rw [eq_check_of_ofConfig found]
  exact kind.inquires_check

/-! ## Files -/

section

variable {p : Program} {handlers : Handlers}

/-- The check of a file is an inquiry if its handlers inquire. -/
theorem inquires_reportFile (inquire : handlers.Inquire) (file : SourceFile) :
    Inquires p fun ignored => Logged.write (reportFile ⟨p, ignored⟩ handlers file) := by
  have calls : Inquires p fun ignored =>
      (file.invocations handlers).forM fun i => i.1 ⟨p, ignored⟩ i.2 :=
    Inquires.forM _ fun i called =>
      inquire _ _ (SourceFile.handler?_of_mem_invocations called) p i.2
  have counts : Inquires p fun _ => Logged.write
      (Report.ofStats (Stats.zero.add .filesChecked 1) ++ Report.routines file.routineCount) :=
    Inquires.const _ rfl
  obtain ⟨inquiry, runs⟩ := Inquires.bind counts fun _ => calls
  refine ⟨inquiry, fun ignored => Eq.trans ?_ (runs ignored)⟩
  show Logged.write (reportFile ⟨p, ignored⟩ handlers file) =
    Logged.write (_ ++ (List.forM _ fun i : Handler × Site => i.1 ⟨p, ignored⟩ i.2).log)
  rw [Check.log_forM, reportFile_eq]
  rfl

/-- A file asks about the ignored types if one of the handlers that are called for it does. -/
theorem askedIgnored_reportFile {input : CheckInput} (file : SourceFile) :
    (reportFile input handlers file).askedIgnored = true ↔
      ∃ i ∈ file.invocations handlers, (i.1 input i.2).log.askedIgnored = true := by
  rw [reportFile_eq, Report.askedIgnored_append, Report.askedIgnored_concat, List.any_map,
    Bool.or_eq_true, List.any_eq_true]
  exact or_iff_right Bool.false_ne_true

end

end Uncaught
