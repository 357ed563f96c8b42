import Uncaught.Proofs.Ignoring
import Uncaught.Proofs.Unqualified

/-!
Sites without nullable qualifiers.

Two sites that differ in qualifiers only resolve to the same callables, or fail to for the same
reason, and they have the same sources without qualifiers (`sources_eq`). A type violates the
contract around one of them if and only if it does so around the other without its qualifier
(`violates_eq`): clauses, ignored types and contracts cover a type by its name. What is left to
compare are the records. They name types as written, so they are compared by their *outlines*,
which leave out the qualifier of the type and what the function declares. A source and the same
source without qualifiers have the same outlines (`outlines_violations_nonNull`).
-/
namespace Uncaught

/-! ## Expressions and calls -/

/-- An expression is another one without the qualifiers of the types it writes. -/
inductive Expr.Unqualified : Expr → Expr → Prop
  | new {className plain : String} :
      Uncaught.Unqualified className plain → Unqualified (.new className) (.new plain)
  | var (name : String) : Unqualified (.var name) (.var name)
  | stringLiteral (value : String) : Unqualified (.stringLiteral value) (.stringLiteral value)
  | name (name : String) : Unqualified (.name name) (.name name)
  | classRef {name plain : String} :
      Uncaught.Unqualified name plain → Unqualified (.classRef name) (.classRef plain)
  | unknown : Unqualified .unknown .unknown

inductive MethodSelector.Unqualified : MethodSelector → MethodSelector → Prop
  | literal (name : String) : Unqualified (.literal name) (.literal name)
  | dynamic {value plain : Expr} :
      value.Unqualified plain → Unqualified (.dynamic value) (.dynamic plain)

inductive Call.Unqualified : Call → Call → Prop
  | function {callee plain : Expr} :
      callee.Unqualified plain → Unqualified (.function callee) (.function plain)
  | method {receiver plain : Expr} {name plainName : MethodSelector} :
      receiver.Unqualified plain → name.Unqualified plainName →
      Unqualified (.method receiver name) (.method plain plainName)
  | static {className plain : Expr} (name : String) :
      className.Unqualified plain → Unqualified (.static className name) (.static plain name)

inductive Action.Unqualified : Action → Action → Prop
  | throw {thrown plain : Expr} :
      thrown.Unqualified plain → Unqualified (.throw thrown) (.throw plain)
  | call {c plain : Call} : c.Unqualified plain → Unqualified (.call c) (.call plain)

theorem MethodSelector.Unqualified.known?_eq {method plain : MethodSelector}
    (same : method.Unqualified plain) : plain.known? = method.known? := by
  cases same with
  | literal name => rfl
  | dynamic value => cases value <;> rfl

theorem Action.Unqualified.kind_eq {action plain : Action} (same : action.Unqualified plain) :
    plain.kind = action.kind := by
  cases same with
  | throw => rfl
  | call c => cases c <;> rfl

namespace Program.Unqualified

variable {p plain : Program} (same : p.Unqualified plain) (scope : Routine)

include same

theorem typesOf_eq {e e' : Expr} (expr : e.Unqualified e') :
    (plain.typesOf scope e').value = (p.typesOf scope e).value.nonNull := by
  cases expr with
  | new written => exact written
  | var name =>
    show (plain.variableTypes? _ _).getD _ = ((p.variableTypes? _ _).getD _).nonNull
    rw [same.variableTypes?_eq]
    cases p.variableTypes? scope.fullName name <;> rfl
  | _ => rfl

theorem receiverTypes_eq {e e' : Expr} (expr : e.Unqualified e') :
    (plain.receiverTypes scope e').value = (p.receiverTypes scope e).value.nonNull := by
  cases expr with
  | classRef written => exact written
  | new written => exact written
  | var name => exact same.typesOf_eq scope (.var name)
  | _ => rfl

theorem methodTarget_eq {receiver receiver' : Expr} (expr : receiver.Unqualified receiver')
    (method : String) (lookup : LookupMode) :
    (plain.methodTarget scope receiver' method lookup).value =
      (p.methodTarget scope receiver method lookup).value := by
  rw [methodTarget, methodTarget, Logged.value_bind, Logged.value_bind,
    same.receiverTypes_eq scope expr]
  exact same.methodTargetOn_eq _ method lookup

theorem callTargets_eq {callee callee' : Expr} (expr : callee.Unqualified callee') :
    plain.callTargets scope callee' = p.callTargets scope callee := by
  cases expr with
  | name name | stringLiteral name => rw [callTargets, callTargets, same.callableNamed?_eq]
  | var name =>
    rw [callTargets, callTargets, variableCallables?, variableCallables?, same.variableCallables,
      funext same.callable?_eq]
  | new | classRef | unknown => rfl

theorem targets_eq {c c' : Call} (call : c.Unqualified c') :
    plain.targets scope c' = p.targets scope c := by
  cases call with
  | function callee => rw [targets, targets, same.callTargets_eq scope callee]
  | method receiver name =>
    rw [targets, targets, name.known?_eq]
    simp only [same.methodTarget_eq scope receiver]
  | static name className => rw [targets, targets, same.methodTarget_eq scope className]

theorem resolution_eq {c c' : Call} (call : c.Unqualified c') :
    plain.resolution scope c' = p.resolution scope c := by
  cases call with
  | function callee => exact same.callTargets_eq scope callee
  | method receiver name =>
    rw [resolution, resolution, name.known?_eq]
    simp only [same.methodTarget_eq scope receiver]
  | static name className => rw [resolution, resolution, same.methodTarget_eq scope className]

/-- The sources of a site are the same sets without qualifiers. -/
theorem sources_eq {action action' : Action} (written : action.Unqualified action') :
    plain.sources scope action' =
      (p.sources scope action).map fun source => (source.1.nonNull, source.2) := by
  cases written with
  | throw thrown =>
    rw [sources, sources, same.typesOf_eq scope thrown]
    rfl
  | call c =>
    rw [sources, sources, same.targets_eq scope c, List.map_map]
    refine List.map_congr_left fun target _ => ?_
    rw [same.contract_eq, Contract.candidates_nonNull]
    rfl

theorem tally_eq {action action' : Action} (written : action.Unqualified action') :
    plain.tally scope action' = p.tally scope action := by
  cases written with
  | throw thrown => rw [tally, tally, same.typesOf_eq scope thrown, TypeSet.isEmpty_nonNull]
  | call c => rw [tally, tally, same.resolution_eq scope c]

end Program.Unqualified

/-! ## Violations -/

/-- Clauses of try statements without the qualifiers of the types they name. -/
abbrev Catches.Unqualified (clauses plain : List (List String)) : Prop :=
  List.Forall₂ (List.Forall₂ Uncaught.Unqualified) clauses plain

/-- A site is another one without qualifiers, as far as its check may ask. -/
structure Site.Unqualified (site plain : Site) : Prop where
  action : site.action.Unqualified plain.action
  clauses : Catches.Unqualified (ScopePath.clauses site.scopes) (ScopePath.clauses plain.scopes)
  file : plain.file = site.file
  routine : plain.routine = site.routine
  position : plain.position = site.position

/-- What a check may ask is the same without qualifiers; of the ignored types only the names count. -/
structure CheckInput.Unqualified (input plain : CheckInput) : Prop where
  program : input.program.Unqualified plain.program
  ignored : input.ignored.value.SameNames plain.ignored.value

theorem TypeSet.sameNames_parseAll {texts plainTexts : List String}
    (written : List.Forall₂ Unqualified texts plainTexts) {s s' : TypeSet}
    (same : s.SameNames s') :
    (parseAll s texts).value.SameNames (parseAll s' plainTexts).value := by
  induction written generalizing s s' with
  | nil => exact same
  | @cons text plain _ _ first _ ih =>
    have parsed : (parse text).value.SameNames (parse plain).value := by
      rw [first]
      exact sameNames_nonNull _
    exact ih (same.union parsed)

theorem Hierarchy.uncaught_eq {h : Hierarchy} {clauses plain : List (List String)}
    (same : Catches.Unqualified clauses plain) (t : NamedType) :
    h.uncaught plain t.nonNull = h.uncaught clauses t := by
  induction same with
  | nil => rfl
  | cons first _ ih =>
    have names := TypeSet.sameNames_parseAll first (s := TypeSet.empty) fun _ => Iff.rfl
    have named : t.name = t.nonNull.name := rfl
    rw [uncaught, uncaught, List.all_cons, List.all_cons, covers_congr_names names named]
    exact congrArg (_ && ·) ih

theorem Contract.admits_nonNull (contract : Contract) (h : Hierarchy) (t : NamedType) :
    contract.nonNull.admits (h.withAncestors t.nonNull) =
      contract.admits (h.withAncestors t) := by
  cases contract with
  | undeclared => rfl
  | declared types =>
    have named : t.nonNull.name = t.name := rfl
    show h.covers types.nonNull t.nonNull = h.covers types t
    rw [← Hierarchy.covers_congr_names types.sameNames_nonNull named.symm]

section

variable {input plainInput : CheckInput} {site plain : Site}

/-- A type is a violation if and only if it is one without its qualifier when nothing has one. -/
theorem violates_eq (inputs : input.Unqualified plainInput) (sites : site.Unqualified plain)
    (contract : Contract) (t : NamedType) :
    plainInput.violates plain contract.nonNull t.nonNull = input.violates site contract t := by
  have ignored : input.program.hierarchy.covers input.ignored.value t =
      input.program.hierarchy.covers plainInput.ignored.value t.nonNull :=
    Hierarchy.covers_congr_names inputs.ignored rfl
  rw [CheckInput.violates, CheckInput.violates, inputs.program.hierarchy,
    Hierarchy.uncaught_eq sites.clauses, Contract.admits_nonNull, ignored]

end

/-! ## Outlines -/

/-- A record without the qualifier of its type and without what the function declares. -/
structure Outline where
  kind : IssueKind
  file : String
  line : UInt32
  column : UInt32
  function : String
  /-- The name of the type that escapes. -/
  typeName : String
  invoked : Option String
deriving DecidableEq, Repr

def Diagnostic.outline (d : Diagnostic) : Outline :=
  ⟨d.kind, d.file, d.line, d.column, d.function, Text.stripLeading '?' d.thrownType, d.invoked⟩

def Report.outlines (report : Report) : List Outline :=
  report.diagnostics.map Diagnostic.outline

/-- A path has no qualifier in front, so the qualifier can be told from the name. -/
theorem NamedType.stripLeading_text {t : NamedType} (valid : t.name.IsPath) :
    Text.stripLeading '?' t.text = t.name.text := by
  have stop : t.name.text.toList.dropWhile (· == '?') = t.name.text.toList := by
    cases start : t.name.text.toList with
    | nil => rfl
    | cons c cs =>
      have first : c ∈ t.name.text.toList := by
        rw [start]
        exact List.mem_cons_self
      have other : (c == '?') = false := by
        rw [beq_eq_false_iff_ne]
        rintro rfl
        exact absurd (isNameChar_of_isTypePath valid.1 first) (by decide +kernel)
      rw [List.dropWhile_cons, other]
      rfl
  refine String.toList_injective ?_
  rw [Text.toList_stripLeading, toList_text]
  split
  · exact (List.dropWhile_cons_of_pos rfl).trans stop
  · exact stop

section

variable {input plainInput : CheckInput} {site plain : Site} {t : NamedType}
  {source : TypeSet × Option Callable}

theorem outline_violation (valid : t.name.IsPath) (function : Callable) (contract : Contract)
    (invoked : Option Callable) :
    (site.violation function contract invoked t).outline =
      ⟨(site.violation function contract invoked t).kind, site.file, site.position.line,
        site.position.column, function.name, t.name.text, invoked.map (·.name)⟩ := by
  have named : Text.stripLeading '?' (TypeSet.singleton t).render = t.name.text := by
    rw [TypeSet.render_singleton, NamedType.stripLeading_text valid]
  rw [← named]
  rfl

/-- A record of a type and one of the type without its qualifier have the same outline. -/
theorem outline_violation_nonNull (valid : t.name.IsPath) (sites : site.Unqualified plain)
    (function : Callable) (contract : Contract) (invoked : Option Callable) :
    (plain.violation function contract.nonNull invoked t.nonNull).outline =
      (site.violation function contract invoked t).outline := by
  have valid' : t.nonNull.name.IsPath := valid
  rw [outline_violation valid', outline_violation valid, sites.file, sites.position]
  cases contract <;> rfl

theorem mem_outlines_violations {outline : Outline} :
    outline ∈ (site.violations input source).map Diagnostic.outline ↔
      let function := (input.program.callableOf site.routine).value
      let contract := input.program.contract function
      ∃ t ∈ source.1, input.violates site contract t = true ∧
        (site.violation function contract source.2 t).outline = outline := by
  rw [Site.violations, List.map_map, List.mem_map]
  simp only [List.mem_filter, and_assoc, TypeSet.mem_def, Function.comp_apply]

/-- A source has the same outlines without qualifiers. -/
theorem outlines_violations_nonNull (readable : source.1.IsReadable)
    (inputs : input.Unqualified plainInput) (sites : site.Unqualified plain) (outline : Outline) :
    outline ∈ (site.violations input source).map Diagnostic.outline ↔
      outline ∈ (plain.violations plainInput (source.1.nonNull, source.2)).map
        Diagnostic.outline := by
  rw [mem_outlines_violations, mem_outlines_violations]
  simp only [sites.routine, inputs.program.callableOf_eq, inputs.program.contract_eq]
  constructor
  · intro found
    obtain ⟨t, member, violates, rfl⟩ := found
    refine ⟨t.nonNull, TypeSet.mem_nonNull.2 ⟨t, member, rfl⟩, ?_, ?_⟩
    · rw [violates_eq inputs sites]
      exact violates
    · exact outline_violation_nonNull (readable t member) sites _ _ _
  · intro found
    obtain ⟨u, member, violates, rfl⟩ := found
    obtain ⟨t, original, rfl⟩ := TypeSet.mem_nonNull.1 member
    refine ⟨t, original, ?_, ?_⟩
    · rw [← violates_eq inputs sites]
      exact violates
    · exact (outline_violation_nonNull (readable t original) sites _ _ _).symm

end

end Uncaught
