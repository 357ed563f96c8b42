import Uncaught.Proofs.MethodLookup
import Uncaught.Proofs.Registrations

/-!
References between the tables of a program.

Only the table of callables says what is declared of a callable. The index of names, the methods of
the classes and the variables hold no more than its identity, and the methods name their class
besides. None of these references ever dangles (`IsLinked`). A declaration writes an identity only
together with the callable itself, except that a variable copies what it finds in the index, and no
declaration takes anything away; so each one keeps the references intact (`IsLinked.declare`). What
a look-up comes by is therefore always there: no look-up of a method ends with a callable that is
not found, and a call of a variable reaches everything that the variable holds
(`references_resolve`).
-/
namespace Uncaught

/-- The variable that a declaration binds to callables, and their names. -/
def Declaration.callees? : Declaration → Option (VariableKey × List String)
  | .variableCallables scope name callees => some (VariableKey.ofNames scope name, callees)
  | _ => none

/-- What is found in a table after a declaration was written by it or was there before. -/
theorem Table.written_or_get? {α κ ν : Type} [DecidableEq κ] {t : Table κ ν} {written? : Option α}
    {key : α → κ} {content : α → ν} {k : κ} {v : ν}
    (found : (written?.elim t fun a => t.insert (key a) (content a)).get? k = some v) :
    (∃ a, written? = some a ∧ k = key a ∧ v = content a) ∨ t.get? k = some v := by
  cases written? with
  | none => exact .inr found
  | some a =>
    rw [Option.elim_some] at found
    rcases eq_or_get?_of_get?_insert found with ⟨same, rfl⟩ | found
    · exact .inl ⟨a, rfl, same, rfl⟩
    · exact .inr found

namespace Hierarchy

variable {h : Hierarchy} {t u : TypeName}

theorem contains_insertType : (h.insertType t).contains u = true ↔ h.contains u = true ∨ u = t := by
  rw [contains, contains, decide_eq_true_eq, decide_eq_true_eq]
  by_cases known : t ∈ h.types
  · rw [insertType, dif_pos known]
    exact ⟨.inl, fun hu => hu.elim id fun hu => hu ▸ known⟩
  · rw [insertType, dif_neg known, List.mem_cons, or_comm]

theorem contains_insertParent {child parent : TypeName} (known : h.contains u = true) :
    (h.insertParent child parent).contains u = true := by
  have known : ((h.insertType child).insertType parent).contains u = true :=
    contains_insertType.2 (.inl (contains_insertType.2 (.inl known)))
  rw [insertParent]
  split <;> exact known

end Hierarchy

namespace Program

variable {p : Program} {t : TypeName} {id : CallableName}

/-! ## What a declaration keeps and what it adds -/

/-- A callable of this identity is declared. -/
def IsRegistered (p : Program) (id : CallableName) : Prop :=
  ∃ info, p.callables.get? id = some info

theorem IsRegistered.declare (registered : p.IsRegistered id) (d : Declaration) :
    (p.declare d).value.IsRegistered id := by
  rw [IsRegistered, callables_declare]
  cases d.registration? with
  | none => exact registered
  | some r =>
    rw [Option.elim_some, Table.get?_insert]
    split
    · exact ⟨_, rfl⟩
    · exact registered

theorem isRegistered_of_registration? {d : Declaration} {r : Registration}
    (registers : d.registration? = some r) : (p.declare d).value.IsRegistered r.id := by
  refine ⟨r.toCallableInfo, ?_⟩
  rw [callables_declare, registers, Option.elim_some, Table.get?_insert_self]

theorem contains_declareParents {h : Hierarchy} {child : TypeName} (parents : List String)
    (known : h.contains t = true) : (declareParents h child parents).value.contains t = true := by
  induction parents generalizing h with
  | nil => exact known
  | cons parent rest ih => exact ih (Hierarchy.contains_insertParent known)

/-- A type stays known. -/
theorem contains_declare (known : p.hierarchy.contains t = true) (d : Declaration) :
    (p.declare d).value.hierarchy.contains t = true := by
  have more (u : TypeName) : (p.hierarchy.insertType u).contains t = true :=
    Hierarchy.contains_insertType.2 (.inl known)
  cases d with
  | classLike name parents => exact contains_declareParents parents (more _)
  | method className name throws => exact more _
  | staticMethod className name throws => exact more _
  | _ => exact known

/-- A class that is given a method is known. -/
theorem contains_of_method? {d : Declaration} {entry : MethodKey × MethodInfo}
    (declares : d.method? = some entry) :
    (p.declare d).value.hierarchy.contains entry.1.owner = true := by
  cases d with
  | method className name throws =>
    obtain rfl := Option.some.inj declares
    exact Hierarchy.contains_insertType.2 (.inr rfl)
  | staticMethod className name throws =>
    obtain rfl := Option.some.inj declares
    exact Hierarchy.contains_insertType.2 (.inr rfl)
  | _ => exact absurd declares (Option.some_ne_none entry).symm

theorem variableCallables_declare (p : Program) (d : Declaration) :
    (p.declare d).value.variableCallables =
      d.callees?.elim p.variableCallables fun entry =>
        p.variableCallables.insert entry.1 (p.boundCallables entry.2) := by
  cases d <;> rfl

/-! ## The references -/

/-- Whatever the tables of a program refer to is there. -/
structure IsLinked (p : Program) : Prop where
  /-- A name leads to a callable that is declared. -/
  index : ∀ key id, p.index.get? key = some id → p.IsRegistered id
  /-- A method is declared as a callable as well. -/
  methods : ∀ key info, p.methods.get? key = some info → p.IsRegistered info.id
  /-- A class that has a method is known to the hierarchy. -/
  owners : ∀ key info, p.methods.get? key = some info → p.hierarchy.contains key.owner = true
  /-- A variable holds callables that are declared. -/
  bindings : ∀ key ids, p.variableCallables.get? key = some ids → ∀ id ∈ ids, p.IsRegistered id

theorem isLinked_empty : empty.IsLinked := by
  constructor <;> exact fun _ _ found => absurd found.symm (Option.some_ne_none _)

/-- Names that a variable is bound to lead to declared callables. -/
theorem IsLinked.boundCallables (linked : p.IsLinked) {callees : List String}
    (bound : id ∈ p.boundCallables callees) : p.IsRegistered id := by
  obtain ⟨name, -, found⟩ := List.mem_filterMap.1 bound
  exact linked.index _ id found

/-- A declaration leaves no reference without what it refers to. -/
theorem IsLinked.declare (linked : p.IsLinked) (d : Declaration) :
    (p.declare d).value.IsLinked where
  index := by
    intro key id found
    rw [index_declare] at found
    rcases Table.written_or_get? found with ⟨r, registers, -, rfl⟩ | found
    · exact isRegistered_of_registration? registers
    · exact (linked.index key id found).declare d
  methods := by
    intro key info found
    rw [methods_declare] at found
    rcases Table.written_or_get? found with ⟨entry, declares, -, rfl⟩ | found
    · obtain ⟨r, registers, same⟩ := Declaration.exists_registration?_of_method? declares
      rw [← same]
      exact isRegistered_of_registration? registers
    · exact (linked.methods key info found).declare d
  owners := by
    intro key info found
    rw [methods_declare] at found
    rcases Table.written_or_get? found with ⟨entry, declares, rfl, -⟩ | found
    · exact contains_of_method? declares
    · exact contains_declare (linked.owners key info found) d
  bindings := by
    intro key ids found id member
    rw [variableCallables_declare] at found
    rcases Table.written_or_get? found with ⟨entry, -, -, rfl⟩ | found
    · exact (linked.boundCallables member).declare d
    · exact (linked.bindings key ids found id member).declare d

theorem isLinked_ofDeclarations (ds : List Declaration) :
    (Codebase.ofDeclarations ds).program.IsLinked :=
  Codebase.holds_ofDeclarations isLinked_empty (fun _ d linked => linked.declare d) ds

/-! ## Look-ups -/

theorem IsRegistered.exists_callable? (registered : p.IsRegistered id) :
    ∃ callable, p.callable? id = some callable ∧ callable.id = id := by
  obtain ⟨info, entered⟩ := registered
  exact ⟨⟨id, info.name⟩, by rw [callable?, entered, Option.map_some], rfl⟩

/-- What is looked up by identities that are all registered is complete and in their order. -/
theorem map_id_filterMap_callable? {ids : List CallableName}
    (registered : ∀ id ∈ ids, p.IsRegistered id) : (ids.filterMap p.callable?).map (·.id) = ids := by
  induction ids with
  | nil => rfl
  | cons id ids ih =>
    obtain ⟨callable, entered, same⟩ := (registered id List.mem_cons_self).exists_callable?
    rw [List.filterMap_cons_some entered, List.map_cons, same,
      ih fun id member => registered id (List.mem_cons_of_mem _ member)]

theorem IsLinked.methodTargetOn_ne_notFound (linked : p.IsLinked) (types : TypeSet)
    (method : String) (lookup : LookupMode) :
    p.methodTargetOn types method lookup ≠ .error .notFound := by
  rw [methodTargetOn_eq]
  cases chosen : p.chosenMethod types method lookup with
  | error reason =>
    intro notFound
    rw [chosenMethod] at chosen
    split at chosen
    · obtain rfl := Except.error.inj chosen
      cases notFound
    · obtain rfl := Except.error.inj notFound
      simpa using deferred_or_ambiguous_of_chooseMethod chosen
  | ok info =>
    obtain ⟨owner, own⟩ := isMethod_of_chosenMethod chosen
    obtain ⟨callable, entered, -⟩ := (linked.methods _ info own).exists_callable?
    simp [entered]

end Program

/-- **No reference dangles.** After any declarations every identity that is stored under a name, for
a method or for a variable belongs to a callable that is declared, and every class with a method is
known to the hierarchy. So no look-up of a method fails for want of the callable, and a call of a
variable reaches exactly the callables that the variable was bound to, in their order. -/
theorem references_resolve (ds : List Declaration) :
    let p := (Codebase.ofDeclarations ds).program
    p.IsLinked ∧
    (∀ scope receiver method lookup,
      (p.methodTarget scope receiver method lookup).value ≠ .error .notFound) ∧
    ∀ scope name ids, p.variableCallables? scope.fullName name = some ids →
      ∃ targets, p.callTargets scope (.var name) = .ok targets ∧ targets.map (·.id) = ids := by
  intro p
  have linked : p.IsLinked := Program.isLinked_ofDeclarations ds
  refine ⟨linked, ?_, ?_⟩
  · intro scope receiver method lookup
    rw [Program.methodTarget, Logged.value_bind, Logged.value_pure]
    exact linked.methodTargetOn_ne_notFound _ method lookup
  · intro scope name ids bound
    refine ⟨ids.filterMap p.callable?, ?_, ?_⟩
    · rw [Program.callTargets, bound]
    · exact Program.map_id_filterMap_callable? (linked.bindings _ ids bound)

namespace BoundVariable

/-- Names in other spellings, one that is not declared, and one that is declared again later. -/
def declarations : List Declaration :=
  [.function "g" (some "X"), .method "A" "m" none,
    .variableCallables "\\F" "$v" ["a::M", "gone", "G", "g"],
    .staticMethod "a" "M" (some "Y"), .function " g" none]

theorem bound_callables_are_reached :
    (Codebase.ofDeclarations declarations).program.variableCallables? "f" "v" =
      some [⟨"A::m"⟩, ⟨"g"⟩, ⟨"g"⟩] ∧
    ∃ targets,
      (Codebase.ofDeclarations declarations).program.callTargets ⟨"f", .function, none⟩
        (.var "v") = .ok targets ∧
      targets.map (·.id) = [⟨"A::m"⟩, ⟨"g"⟩, ⟨"g"⟩] := by
  have bound : (Codebase.ofDeclarations declarations).program.variableCallables? "f" "v" =
      some [⟨"A::m"⟩, ⟨"g"⟩, ⟨"g"⟩] := by decide +kernel
  exact ⟨bound, (references_resolve declarations).2.2 ⟨"f", .function, none⟩ "v" _ bound⟩

end BoundVariable

end Uncaught
