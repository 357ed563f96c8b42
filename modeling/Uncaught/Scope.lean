import Uncaught.Syntax
import Uncaught.Text.Pieces

/-!
Where a node stands.

The way from a node up to its file is a list of steps, innermost first: into the body of a routine,
or into a part of a try statement. What encloses a node in its own routine are the steps before the
innermost routine; nothing beyond it can catch what the node throws.
-/
namespace Uncaught

/-- The name of a routine with its class in front, if it has one. -/
def Routine.fullName (f : Routine) : String :=
  match f.className with
  | some className => Text.stripLeading '\\' className ++ "::" ++ f.name
  | none => f.name

/-- What a try statement catches: the types that each of its clauses names, as written. -/
abbrev Catches := List (List String)

/-- One step on the way from a node to its file. -/
inductive ScopeStep where
  /-- In the body of a routine. -/
  | inRoutine (routine : Routine)
  /-- In the protected body of a try statement. -/
  | inTry (catches : Catches)
  /-- In the body of one of the clauses of a try statement. -/
  | inCatch (catches : Catches) (clause : List String)
  /-- In the part of a try statement that always runs. -/
  | inFinally (catches : Catches)
deriving DecidableEq, Repr

namespace ScopeStep

/-- The routine of a step that enters one. -/
def routine? : ScopeStep → Option Routine
  | .inRoutine f => some f
  | _ => none

/-- The try statement of a step that enters a part of one. -/
def catches? : ScopeStep → Option Catches
  | .inRoutine _ => none
  | .inTry catches => some catches
  | .inCatch catches _ => some catches
  | .inFinally catches => some catches

end ScopeStep

/-- The steps from a node to its file, innermost first. -/
abbrev ScopePath := List ScopeStep

namespace ScopePath

/-- The steps before the innermost routine. -/
def withinRoutine (scopes : ScopePath) : ScopePath :=
  scopes.takeWhile fun step => step.routine?.isNone

def routine? (scopes : ScopePath) : Option Routine :=
  scopes.findSome? ScopeStep.routine?

/-- The try statements around a node within its routine, innermost first. A node in any part of a
try statement counts as enclosed by it, so an exception thrown again in a catch clause is covered by
that clause. -/
def tries (scopes : ScopePath) : List Catches :=
  (withinRoutine scopes).filterMap ScopeStep.catches?

/-- The clauses of the try statements around a node within its routine: innermost statement first,
clauses in their order. -/
def clauses (scopes : ScopePath) : List (List String) := (tries scopes).flatten

end ScopePath

end Uncaught
