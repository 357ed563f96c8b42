import Uncaught.Proofs.Ancestors
import Uncaught.Proofs.Occurrence
import Uncaught.Proofs.Report

/-!
What the contract check finds at a site, as one list.

The check goes through clauses, ignored types and contracts one after the other, and stops early
wherever nothing is left. None of this is seen in the end. A site has sources: the types of the
thrown expression, or the declared types of every target of the call. The diagnostics of the site
are the violations by the members of the sources in their order (`diagnostics_check`), and a type
violates the contract if no clause catches it, it is not ignored, and the contract does not admit it
(`CheckInput.violates`).
-/
namespace Uncaught

variable {input : CheckInput} {site : Site} {contract : Contract} {t : NamedType}

/-! ## Sources -/

namespace Program

/-- The callables that a call may reach, in their order. -/
def targets (p : Program) (scope : Routine) : Call → List Callable
  | .function callee => (p.callTargets scope callee).toOption.getD []
  | .method receiver method =>
    match method.known? with
    | none => []
    | some name => (p.methodTarget scope receiver name .object).value.toOption.toList
  | .static className name =>
    (p.methodTarget scope className name (.static true)).value.toOption.toList

/-- The sets of types that may be thrown by an action, each with the callee that declares it. -/
def sources (p : Program) (scope : Routine) : Action → List (TypeSet × Option Callable)
  | .throw thrown => [((p.typesOf scope thrown).value, none)]
  | .call call =>
    (p.targets scope call).map fun target => ((p.contract target).candidates, some target)

end Program

/-- Whether no clause catches a type. -/
def Hierarchy.uncaught (h : Hierarchy) (clauses : List (List String)) (t : NamedType) : Bool :=
  clauses.all fun clause => !h.covers (TypeSet.parseAll TypeSet.empty clause).value t

/-- Whether a type violates the contract around a site where it may be thrown. -/
def CheckInput.violates (input : CheckInput) (site : Site) (contract : Contract)
    (t : NamedType) : Bool :=
  input.program.hierarchy.uncaught (ScopePath.clauses site.scopes) t &&
    (!input.program.hierarchy.covers input.ignored.value t &&
      !contract.admits (input.program.hierarchy.withAncestors t))

/-- The violations at a site by the members of one source. -/
def Site.violations (input : CheckInput) (site : Site) (source : TypeSet × Option Callable) :
    List Diagnostic :=
  let function := (input.program.callableOf site.routine).value
  let contract := input.program.contract function
  (source.1.members.filter (input.violates site contract)).map
    (site.violation function contract source.2)

/-- The check of the sites of a kind. -/
def SiteKind.check : SiteKind → Handler
  | .throw => checkThrow
  | .call => checkCall
  | .methodCall => checkMethodCall
  | .staticCall => checkStaticCall

/-! ## From the clauses to the contract -/

/-- Stopping when nothing is left to catch leaves out nothing. -/
theorem Hierarchy.members_escaping (h : Hierarchy) (types : TypeSet) (clauses : List (List String)) :
    (h.escaping types clauses).value.members = types.members.filter (h.uncaught clauses) := by
  induction clauses generalizing types with
  | nil => exact (List.filter_eq_self.2 fun _ _ => rfl).symm
  | cons clause rest ih =>
    rw [escaping]
    split
    next empty =>
      have none : types.members = [] := List.isEmpty_iff.1 empty
      rw [Logged.value_pure, none, List.filter_nil]
    next =>
      rw [Logged.value_bind, ih, TypeSet.filter, List.filter_filter]
      apply List.filter_congr
      intro t _
      rw [uncaught, uncaught, List.all_cons, Bool.and_comm]

/-- Skipping the test when no types are ignored changes nothing. -/
theorem CheckInput.value_isReportable :
    (input.isReportable (input.program.hierarchy.withAncestors t)).value =
      !input.program.hierarchy.covers input.ignored.value t := by
  show (input.ignored.value.isEmpty || !input.program.hierarchy.covers input.ignored.value t) = _
  cases empty : input.ignored.value.isEmpty with
  | false => rfl
  | true =>
    have none : input.ignored.value.members = [] := List.isEmpty_iff.1 empty
    simp [Hierarchy.covers, TypeSet.castable, none]

theorem diagnostics_reportType (function : Callable) (invoked : Option Callable) :
    (reportType input site function contract invoked t).log.diagnostics =
      if !input.program.hierarchy.covers input.ignored.value t &&
          !contract.admits (input.program.hierarchy.withAncestors t) then
        [site.violation function contract invoked t]
      else [] := by
  rw [reportType]
  simp only [Logged.log_bind, Report.diagnostics_append, CheckInput.value_isReportable]
  show [] ++ _ = _
  rw [List.nil_append]
  cases input.program.hierarchy.covers input.ignored.value t with
  | true => rfl
  | false => cases contract.admits (input.program.hierarchy.withAncestors t) <;> rfl

theorem flatMap_ite_singleton {α β : Type} (xs : List α) (test : α → Bool) (found : α → β) :
    (xs.flatMap fun x => if test x then [found x] else []) = (xs.filter test).map found := by
  induction xs with
  | nil => rfl
  | cons x xs ih =>
    rw [List.flatMap_cons, ih, List.filter_cons]
    cases test x <;> rfl

theorem diagnostics_reportEscaping (escaping : TypeSet) (invoked : Option Callable) :
    (reportEscaping input site escaping invoked).log.diagnostics =
      let function := (input.program.callableOf site.routine).value
      let contract := input.program.contract function
      (escaping.members.filter fun t => !input.program.hierarchy.covers input.ignored.value t &&
          !contract.admits (input.program.hierarchy.withAncestors t)).map
        (site.violation function contract invoked) := by
  rw [reportEscaping]
  split
  next empty =>
    have none : escaping.members = [] := List.isEmpty_iff.1 empty
    simp only [none, List.filter_nil, List.map_nil]
    rfl
  next =>
    simp only [Logged.log_bind, Report.diagnostics_append, Check.diagnostics_lift,
      Check.value_lift, List.nil_append, Check.log_forM, Report.diagnostics_concat,
      List.flatMap_map, diagnostics_reportType]
    exact flatMap_ite_singleton _ _ _

/-- What is left of a source are the violations by its members. -/
theorem diagnostics_reportThrown (candidates : TypeSet) (invoked : Option Callable) :
    (reportThrown input site candidates invoked).log.diagnostics =
      site.violations input (candidates, invoked) := by
  -- First what no clause catches is kept, then of this what is neither ignored nor admitted.
  rw [reportThrown]
  simp only [Logged.log_bind, Report.diagnostics_append, Check.diagnostics_lift, Check.value_lift,
    List.nil_append, diagnostics_reportEscaping, Hierarchy.members_escaping, List.filter_filter]
  rw [Site.violations]
  refine congrArg (List.map _) (List.filter_congr fun t _ => ?_)
  rw [CheckInput.violates, Bool.and_comm]

/-- An empty source is passed over, and would have left nothing. -/
theorem violations_of_isEmpty {types : TypeSet} (empty : types.isEmpty = true)
    (invoked : Option Callable) : site.violations input (types, invoked) = [] := by
  have none : types.members = [] := List.isEmpty_iff.1 empty
  rw [Site.violations]
  simp only [none, List.filter_nil, List.map_nil]

theorem diagnostics_checkTarget (target : Callable) :
    (checkTarget input site target).log.diagnostics =
      site.violations input ((input.program.contract target).candidates, some target) := by
  cases empty : (input.program.contract target).candidates.isEmpty with
  | true =>
    rw [checkTarget, if_pos empty, violations_of_isEmpty empty]
    rfl
  | false =>
    rw [checkTarget, if_neg (ne_true_of_eq_false empty)]
    exact diagnostics_reportThrown _ _

theorem diagnostics_checkMethod (found : Except Abstention Callable) :
    (checkMethod input site found).log.diagnostics =
      (found.toOption.toList.map fun target =>
        ((input.program.contract target).candidates, some target)).flatMap
          (site.violations input) := by
  cases found with
  | error reason => rfl
  | ok target =>
    show (checkTarget input site target).log.diagnostics = site.violations input _ ++ []
    rw [diagnostics_checkTarget, List.append_nil]

theorem diagnostics_checkThrow {thrown : Expr} (throws : site.action = .throw thrown) :
    (checkThrow input site).log.diagnostics =
      site.violations input ((input.program.typesOf site.routine thrown).value, none) := by
  rw [checkThrow, throws]
  simp only [Logged.log_bind, Report.diagnostics_append, Check.diagnostics_count,
    Check.diagnostics_lift, Check.value_lift, List.nil_append]
  split
  next empty => rw [Check.diagnostics_unknownType, violations_of_isEmpty empty]
  next => exact diagnostics_reportThrown _ _

theorem diagnostics_checkCall {callee : Expr} (calls : site.action = .call (.function callee)) :
    (checkCall input site).log.diagnostics =
      ((input.program.targets site.routine (.function callee)).map fun target =>
        ((input.program.contract target).candidates, some target)).flatMap
          (site.violations input) := by
  rw [checkCall, calls]
  simp only [Logged.log_bind, Report.diagnostics_append, Check.diagnostics_count, List.nil_append]
  rw [Program.targets]
  cases input.program.callTargets site.routine callee with
  | error reason => rfl
  | ok targets =>
    show (targets.forM (checkTarget input site)).log.diagnostics = _
    rw [Check.log_forM, Report.diagnostics_concat, List.flatMap_map, List.flatMap_map]
    exact congrArg (List.flatMap · targets) (funext fun _ => diagnostics_checkTarget _)

theorem diagnostics_checkMethodCall {receiver : Expr} {method : MethodSelector}
    (calls : site.action = .call (.method receiver method)) :
    (checkMethodCall input site).log.diagnostics =
      ((input.program.targets site.routine (.method receiver method)).map fun target =>
        ((input.program.contract target).candidates, some target)).flatMap
          (site.violations input) := by
  rw [checkMethodCall, calls]
  simp only [Logged.log_bind, Report.diagnostics_append, Check.diagnostics_count, List.nil_append]
  rw [Program.targets]
  cases method.known? with
  | none => rfl
  | some name =>
    simp only [Logged.log_bind, Report.diagnostics_append, Check.diagnostics_lift,
      Check.value_lift, List.nil_append]
    exact diagnostics_checkMethod _

theorem diagnostics_checkStaticCall {className : Expr} {name : String}
    (calls : site.action = .call (.static className name)) :
    (checkStaticCall input site).log.diagnostics =
      ((input.program.targets site.routine (.static className name)).map fun target =>
        ((input.program.contract target).candidates, some target)).flatMap
          (site.violations input) := by
  rw [checkStaticCall, calls]
  simp only [Logged.log_bind, Report.diagnostics_append, Check.diagnostics_count,
    Check.diagnostics_lift, Check.value_lift, List.nil_append]
  exact diagnostics_checkMethod _

/-- **What is found at a site.** The check of a site leaves the violations by the members of its
sources, source by source and member by member. -/
theorem diagnostics_check (input : CheckInput) (site : Site) :
    (site.kind.check input site).log.diagnostics =
      (input.program.sources site.routine site.action).flatMap (site.violations input) := by
  rw [Site.kind]
  cases action : site.action with
  | throw thrown =>
    show (checkThrow input site).log.diagnostics = site.violations input _ ++ []
    rw [diagnostics_checkThrow action, List.append_nil]
  | call c =>
    cases c with
    | function callee => exact diagnostics_checkCall action
    | method receiver method => exact diagnostics_checkMethodCall action
    | static className name => exact diagnostics_checkStaticCall action

theorem Handlers.eq_check_of_ofConfig {config : Config} {kind : SiteKind} {handler : Handler}
    (h : (ofConfig config).handler? kind = some handler) : handler = kind.check := by
  -- Each table has the check of a kind in its place, and the smaller one has only one.
  rw [ofConfig] at h
  split at h
  · cases kind <;> simp_all [withCalls, throwsOnly, register, SiteKind.check]
  · cases kind <;> simp_all [throwsOnly, register, empty, SiteKind.check]

/-- What the walk leaves at a site in a routine that is handled by the check of its kind. -/
theorem diagnostics_reportSite {handlers : Handlers} {path : String} {o : Occurrence}
    {f : Definition} {position : Position} {action : Action} (rooted : o.Rooted)
    (enclosed : o.enclosing? = some f)
    (checked : handlers.handler? action.kind = some action.kind.check) :
    (reportSite input handlers path o.scopes position action).diagnostics =
      (input.program.sources f.routine action).flatMap
        (Site.violations input ⟨action, o.scopes, path, f.routine, position⟩) := by
  have routine : ScopePath.routine? o.scopes = some f.routine := by
    rw [Occurrence.routine?_scopes rooted, enclosed, Option.map_some]
  rw [reportSite, checked, routine]
  exact diagnostics_check input ⟨action, o.scopes, path, f.routine, position⟩

end Uncaught
