import Uncaught.Check.Session
import Uncaught.Proofs.DeclaredEdges
import Uncaught.Proofs.Violations
import Uncaught.Proofs.Walk

/-!
What is reported, said by the declarations.

`IsViolation` says when a type has to be reported, and knows neither the search for ancestors nor
the filters of the check: only which types can be reached along declared pairs of child and parent.
`violationsAt` lists the records of a site. The check of a site leaves this list, and the check of a
file the lists of its sites, with nothing in between.
-/
namespace Uncaught

/-- A type that no clause catches, that is not ignored, and that no declared contract admits. -/
def IsViolation (ds : List Declaration) (clauses : List (List String)) (ignored : TypeSet)
    (contract : Contract) (t : NamedType) : Prop :=
  (∀ clause ∈ clauses, ¬ CoveredBy ds (TypeSet.parseAll TypeSet.empty clause).value t) ∧
    ¬ CoveredBy ds ignored t ∧
    ∀ declared ∈ contract.declared?, ¬ CoveredBy ds declared t

instance (ds : List Declaration) (clauses : List (List String)) (ignored : TypeSet)
    (contract : Contract) (t : NamedType) : Decidable (IsViolation ds clauses ignored contract t) :=
  inferInstanceAs (Decidable (_ ∧ _ ∧ _))

/-- The record of a type that violates the contract of a function at a position of a file. -/
def violationRecord (path : String) (position : Position) (function : Callable) (contract : Contract)
    (callee : Option Callable) (t : NamedType) : Diagnostic where
  kind :=
    match contract, callee with
    | .undeclared, none => .absent
    | .undeclared, some _ => .absentForCall
    | .declared _, none => .mismatch
    | .declared _, some _ => .mismatchForCall
  file := path
  line := position.line
  column := position.column
  function := function.name
  thrownType := t.text
  invoked := callee.map (·.name)
  declared := contract.declared?.map TypeSet.render

/-- The records of a site in a routine: one for each type of each of its sources that is a
violation. -/
def violationsAt (ds : List Declaration) (config : Config) (path : String)
    (clauses : List (List String)) (routine : Routine) (position : Position) (action : Action) :
    List Diagnostic :=
  let program := (Codebase.ofDeclarations ds).program
  let ignored := (parseIgnored TypeSet.empty config.ignoredExceptionTypes).value
  let function := (program.callableOf routine).value
  let contract := program.contract function
  (program.sources routine action).flatMap fun source =>
    (source.1.members.filter (IsViolation ds clauses ignored contract ·)).map
      (violationRecord path position function contract source.2)

/-- The records of an occurrence, if it is a site in a routine that is handled. -/
def Occurrence.violations (ds : List Declaration) (config : Config) (path : String)
    (o : Occurrence) : List Diagnostic :=
  match o.node.event?, o.enclosing? with
  | some (position, action), some f =>
    if (Handlers.ofConfig config).handles action.kind then
      violationsAt ds config path o.clauses f.routine position action
    else []
  | _, _ => []

section

variable {ds : List Declaration} {t : NamedType}

theorem uncaught_ofDeclarations (clauses : List (List String)) :
    (Codebase.ofDeclarations ds).program.hierarchy.uncaught clauses t = true ↔
      ∀ clause ∈ clauses, ¬ CoveredBy ds (TypeSet.parseAll TypeSet.empty clause).value t := by
  rw [Hierarchy.uncaught, List.all_eq_true]
  apply forall₂_congr
  intro clause _
  rw [← Codebase.covers_ofDeclarations, Bool.not_eq_true', Bool.not_eq_true]

theorem admits_ofDeclarations (contract : Contract) :
    contract.admits ((Codebase.ofDeclarations ds).program.hierarchy.withAncestors t) = true ↔
      ∃ declared ∈ contract.declared?, CoveredBy ds declared t := by
  cases contract with
  | undeclared => simp [Contract.admits, Contract.declared?]
  | declared types =>
    show Hierarchy.covers _ types t = true ↔ _
    rw [Codebase.covers_ofDeclarations]
    simp [Contract.declared?]

theorem violates_iff {input : CheckInput} {site : Site} {contract : Contract}
    (program : input.program = (Codebase.ofDeclarations ds).program) :
    input.violates site contract t = true ↔
      IsViolation ds (ScopePath.clauses site.scopes) input.ignored.value contract t := by
  rw [CheckInput.violates, program, Bool.and_eq_true, Bool.and_eq_true, Bool.not_eq_true',
    Bool.not_eq_true', ← Bool.not_eq_true, ← Bool.not_eq_true, uncaught_ofDeclarations,
    Codebase.covers_ofDeclarations, admits_ofDeclarations, IsViolation]
  simp only [not_exists, not_and]

end

theorem TypeSet.render_singleton (t : NamedType) : (TypeSet.singleton t).render = t.text := by
  rw [TypeSet.render, TypeSet.singleton, TypeSet.members_insert]
  show String.ofList t.text.toList = t.text
  exact String.ofList_toList

/-! ## The report of a site and of a file -/

section

variable {ds : List Declaration} {config : Config} {path : String} {o : Occurrence}

theorem Site.violation_eq (site : Site) (function : Callable) (contract : Contract)
    (callee : Option Callable) :
    site.violation function contract callee =
      violationRecord site.file site.position function contract callee := by
  funext t
  unfold violation violationRecord
  rw [TypeSet.render_singleton]
  cases contract <;> cases callee <;> rfl

theorem violations_eq_violationsAt (site : Site) :
    ((Codebase.ofDeclarations ds).program.sources site.routine site.action).flatMap
        (site.violations ((Session.ofConfig config).input (Codebase.ofDeclarations ds).program)) =
      violationsAt ds config site.file (ScopePath.clauses site.scopes) site.routine site.position
        site.action := by
  rw [violationsAt]
  refine congrArg (List.flatMap · _) (funext fun source => ?_)
  rw [Site.violations, Site.violation_eq]
  -- The records agree, so it is left to see that the same members are reported.
  refine congrArg (List.map _) (List.filter_congr fun t _ => ?_)
  rw [Bool.eq_iff_iff, decide_eq_true_eq]
  exact violates_iff rfl

theorem diagnostics_site {position : Position} {action : Action} {f : Definition}
    (rooted : o.Rooted) (enclosed : o.enclosing? = some f)
    (handled : (Handlers.ofConfig config).handles action.kind = true) :
    (reportSite ((Session.ofConfig config).input (Codebase.ofDeclarations ds).program)
        (Handlers.ofConfig config) path o.scopes position action).diagnostics =
      violationsAt ds config path o.clauses f.routine position action := by
  obtain ⟨handler, found⟩ := Option.isSome_iff_exists.1 handled
  have checked : (Handlers.ofConfig config).handler? action.kind = some action.kind.check := by
    rw [found, Handlers.eq_check_of_ofConfig found]
  rw [diagnostics_reportSite rooted enclosed checked, ← Occurrence.clauses_scopes rooted]
  exact violations_eq_violationsAt ⟨action, o.scopes, path, f.routine, position⟩

theorem Occurrence.diagnostics_siteReport (rooted : o.Rooted) :
    (o.node.siteReport ((Session.ofConfig config).input (Codebase.ofDeclarations ds).program)
        (Handlers.ofConfig config) path o.scopes).diagnostics =
      o.violations ds config path := by
  rw [Node.siteReport, violations]
  cases o.node.event? with
  | none => rfl
  | some event =>
    obtain ⟨position, action⟩ := event
    cases enclosed : o.enclosing? with
    | none =>
      have outside : ScopePath.routine? o.scopes = none := by
        rw [routine?_scopes rooted, enclosed, Option.map_none]
      simp only [reportSite, outside]
      cases (Handlers.ofConfig config).handler? action.kind <;> rfl
    | some f =>
      simp only
      by_cases handled : (Handlers.ofConfig config).handles action.kind = true
      · rw [if_pos handled]
        exact diagnostics_site rooted enclosed handled
      · rw [if_neg handled]
        have unhandled : (Handlers.ofConfig config).handler? action.kind = none :=
          Option.not_isSome_iff_eq_none.1 handled
        rw [reportSite, unhandled]
        rfl

end

/-- **What is reported is exactly what the declarations make a violation.** The check of a site in a
routine leaves a record for each type of its sources that no clause around it catches, that is not
ignored, and that the contract of the routine does not admit, all of this said by the declared pairs
of child and parent; and the check of a file leaves the records of its sites and no others. -/
theorem reported_exactly (ds : List Declaration) (config : Config) (file : SourceFile) :
    (∀ place o position action f, file.at? place = some o →
      o.node.event? = some (position, action) → o.enclosing? = some f →
      (Handlers.ofConfig config).handles action.kind = true →
      (reportSite ((Session.ofConfig config).input (Codebase.ofDeclarations ds).program)
          (Handlers.ofConfig config) file.path o.scopes position action).diagnostics =
        violationsAt ds config file.path o.clauses f.routine position action) ∧
    ((Session.ofConfig config).check (Codebase.ofDeclarations ds).program file).value.1.diagnostics =
      file.occurrences.flatMap (Occurrence.violations ds config file.path) := by
  constructor
  · intro place o position action f stands _ enclosed handled
    exact diagnostics_site (SourceFile.at?_rooted stands) enclosed handled
  · show (reportFile _ _ file).diagnostics = _
    rw [diagnostics_reportFile]
    apply List.flatMap_congr
    intro o ho
    obtain ⟨place, stands⟩ := SourceFile.mem_occurrences.1 ho
    exact Occurrence.diagnostics_siteReport (SourceFile.at?_rooted stands)

namespace CallInTry

/-- What the callee throws is in part caught by its parent class, in part ignored. -/
def declarations : List Declaration :=
  [.classLike "Child" ["Base"], .function "callee" (some "Child|Other|Quiet"),
    .function "caller" (some "Else")]

def config : Config := ⟨some true, ["Quiet"]⟩

def caller : Routine := ⟨"caller", .function, none⟩

def source : SourceFile where
  path := "a"
  items := [.routine caller
    [.tryCatch [.call ⟨2, 4⟩ (.function (.name "callee")) []] [.mk ["Base"] []] none]]

def report : List Diagnostic :=
  [⟨.mismatchForCall, "a", 2, 4, "caller", "Other", some "callee", some "Else"⟩]

theorem call_reported_exactly :
    ∃ o, source.at? [0, 0, 0] = some o ∧
      (reportSite ((Session.ofConfig config).input (Codebase.ofDeclarations declarations).program)
          (Handlers.ofConfig config) "a" o.scopes ⟨2, 4⟩
          (.call (.function (.name "callee")))).diagnostics = report ∧
      ((Session.ofConfig config).check
        (Codebase.ofDeclarations declarations).program source).value.1.diagnostics = report := by
  have stands : source.at? [0, 0, 0] = some _ := rfl
  have exactly := reported_exactly declarations config source
  refine ⟨_, stands, ?_, ?_⟩
  · refine (exactly.1 _ _ _ _ ⟨caller, _⟩ stands rfl rfl rfl).trans ?_
    decide +kernel
  · rw [exactly.2]
    decide +kernel

end CallInTry

end Uncaught
