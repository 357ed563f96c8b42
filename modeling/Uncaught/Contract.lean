import Uncaught.TypeSet.Basic

/-!
Callables and what they declare to throw.

A callable that declares nothing differs from one that declares that nothing is thrown: the first
has no contract to be judged by, the second an empty one.
-/
namespace Uncaught

inductive Contract where
  | undeclared
  /-- These types and no others; there may be none. -/
  | declared (types : TypeSet)
deriving DecidableEq

namespace Contract

instance : Inhabited Contract := ⟨undeclared⟩

def declared? : Contract → Option TypeSet
  | undeclared => none
  | declared types => some types

/-- The types that a call may throw by its target's contract: none without a declaration. -/
def candidates (contract : Contract) : TypeSet := contract.declared?.getD TypeSet.empty

end Contract

/-- A function, a method or a closure: its identity and the name it is shown with. -/
structure Callable where
  id : CallableName
  name : String
deriving DecidableEq, Repr

end Uncaught
