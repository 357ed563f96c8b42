import Uncaught.Codebase
import Uncaught.Proofs.TypeText
import Uncaught.Proofs.Violations

/-!
The types of a program were read out of texts.

A program keeps sets of types in two tables, that of the callables and that of the variables. A
declaration puts into them only what it has parsed, so whatever the declarations are, every set in
them is readable (`isReadable_ofDeclarations`). The sources of a site come from there or are parsed
at the site, so they are readable as well (`Program.IsReadable.sources`), and the type that a record
names can be read back from it.
-/
namespace Uncaught

/-! ## Values of a table -/

namespace Table

variable {κ ν : Type} [DecidableEq κ] {P : ν → Prop} {t : Table κ ν}

/-- Every value of a table has a property. -/
def All (P : ν → Prop) (t : Table κ ν) : Prop := ∀ k v, t.get? k = some v → P v

theorem all_empty : (empty : Table κ ν).All P := by
  intro k v found
  simp at found

theorem All.insert (all : t.All P) {v : ν} (hv : P v) (k : κ) : (t.insert k v).All P := by
  intro k' v' found
  rcases eq_or_get?_of_get?_insert found with ⟨-, rfl⟩ | found
  · exact hv
  · exact all k' v' found

end Table

/-! ## Programs -/

/-- Every set of types that a program keeps is readable. -/
structure Program.IsReadable (p : Program) : Prop where
  callables : p.callables.All fun info => info.contract.candidates.IsReadable
  variableTypes : p.variableTypes.All TypeSet.IsReadable

namespace Program

variable {p : Program}

theorem isReadable_parseContract (throws : Option String) :
    (parseContract throws).value.candidates.IsReadable := by
  cases throws with
  | none => exact TypeSet.isReadable_empty
  | some source => exact TypeSet.isReadable_parse source

theorem IsReadable.register (readable : p.IsReadable) (callable : Callable)
    (throws : Option String) : (p.register callable throws).value.IsReadable where
  callables := readable.callables.insert (isReadable_parseContract throws) callable.id
  variableTypes := readable.variableTypes

theorem IsReadable.declareMethod (readable : p.IsReadable) (className name : String)
    (isStatic : Bool) (throws : Option String) :
    (p.declareMethod className name isStatic throws).value.IsReadable where
  callables := readable.callables.insert (isReadable_parseContract throws) _
  variableTypes := readable.variableTypes

/-- A declaration keeps the sets readable. -/
theorem IsReadable.declare (readable : p.IsReadable) (d : Declaration) :
    (p.declare d).value.IsReadable := by
  cases d with
  | classLike name parents => exact ⟨readable.callables, readable.variableTypes⟩
  | function name throws => exact readable.register _ throws
  | closure name throws => exact readable.register _ throws
  | method className name throws => exact readable.declareMethod className name false throws
  | staticMethod className name throws => exact readable.declareMethod className name true throws
  | variableTypes function name types =>
    exact ⟨readable.callables, readable.variableTypes.insert (TypeSet.isReadable_parse types) _⟩
  | variableCallables function name callees => exact ⟨readable.callables, readable.variableTypes⟩

theorem isReadable_ofDeclarations (ds : List Declaration) :
    (Codebase.ofDeclarations ds).program.IsReadable :=
  Codebase.holds_ofDeclarations ⟨Table.all_empty, Table.all_empty⟩
    (fun _ d readable => readable.declare d) ds

/-! ## Sources -/

theorem IsReadable.contract (readable : p.IsReadable) (callable : Callable) :
    (p.contract callable).candidates.IsReadable := by
  rw [Program.contract]
  cases found : p.callables.get? callable.id with
  | none => exact TypeSet.isReadable_empty
  | some info => exact readable.callables _ info found

theorem IsReadable.typesOf (readable : p.IsReadable) (scope : Routine) (e : Expr) :
    (p.typesOf scope e).value.IsReadable := by
  cases e with
  | new className => exact TypeSet.isReadable_parse className
  | var name =>
    show ((p.variableTypes? scope.fullName name).getD TypeSet.empty).IsReadable
    cases found : p.variableTypes? scope.fullName name with
    | none => exact TypeSet.isReadable_empty
    | some types => exact readable.variableTypes _ types found
  | _ => exact TypeSet.isReadable_empty

/-- What may be thrown at a site has readable types. -/
theorem IsReadable.sources (readable : p.IsReadable) {scope : Routine} {action : Action}
    {source : TypeSet × Option Callable} (member : source ∈ p.sources scope action) :
    source.1.IsReadable := by
  cases action with
  | throw thrown =>
    rw [List.mem_singleton.1 member]
    exact readable.typesOf scope thrown
  | call c =>
    obtain ⟨target, -, rfl⟩ := List.mem_map.1 member
    exact readable.contract target

end Program

end Uncaught
