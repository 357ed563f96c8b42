import Uncaught.Hierarchy
import Uncaught.TypeSet.Text

/-!
What catch clauses let through.

A clause catches a type if the type, with its ancestors, may stand where the types of the clause are
asked for. Clauses are looked at one after the other, and only as long as something is left to
catch, so the types of the later ones may never be spelled out.
-/
namespace Uncaught

/-- The part of a set that escapes clauses, which are given by the types they name as written. -/
def Hierarchy.escaping (h : Hierarchy) (types : TypeSet) : List (List String) → Noted TypeSet
  | [] => pure types
  | clause :: rest =>
    if types.isEmpty then pure types
    else do
      let caught ← TypeSet.parseAll TypeSet.empty clause
      h.escaping (types.filter fun t => !h.covers caught t) rest

end Uncaught
