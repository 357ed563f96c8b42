import Uncaught.NameTable

/-!
Names by their numbers.

A code base compares names all the time, and compares them by number: what its tables hold are the
places of names in the table of names. Names are entered on the way, by declarations and by
questions alike, so the number that a name gets depends on everything that was spelled out before
it. There are numbers of types and numbers of callables, and the ones are not taken for the others.
-/
namespace Uncaught.Interned

/-- The number of the name of a type. -/
structure TypeId where
  number : Nat
deriving DecidableEq, Repr

/-- The number of the name of a callable. -/
structure CallableId where
  number : Nat
deriving DecidableEq, Repr

/-- A computation that enters names in a table. -/
abbrev Interning := StateM NameTable

/-- Enters a name and gives its number. -/
def internType (name : TypeName) : Interning TypeId :=
  modifyGet fun names =>
    let (number, types) := names.types.intern name
    (⟨number⟩, { names with types })

def internCallable (name : CallableName) : Interning CallableId :=
  modifyGet fun names =>
    let (number, callables) := names.callables.intern name
    (⟨number⟩, { names with callables })

/-- The name that a number stands for. -/
def TypeId.name (names : NameTable) (id : TypeId) : TypeName :=
  (names.typeName? id.number).getD default

/-- The name that a number stands for. -/
def CallableId.name (names : NameTable) (id : CallableId) : CallableName :=
  (names.callableName? id.number).getD default

end Uncaught.Interned
