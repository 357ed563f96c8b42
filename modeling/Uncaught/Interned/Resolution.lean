import Uncaught.Interned.Program
import Uncaught.Program.Resolution

/-!
What expressions and calls mean, answered by numbers.

The questions are those to a program by name. A routine that is not declared gets a number when it
is asked for, and so does every type that a text spells out.
-/
namespace Uncaught.Interned.Program

/-- The types of an expression; empty if they are not known. -/
def typesOf (p : Program) (scope : Routine) : Expr → Interning TypeSet
  | .new className => TypeSet.parse className
  | .var name => pure ((p.variableTypes? scope.fullName name).getD TypeSet.empty)
  | _ => pure TypeSet.empty

/-- The types of a receiver, which may be a bare class name. -/
def receiverTypes (p : Program) (scope : Routine) : Expr → Interning TypeSet
  | .classRef name => TypeSet.parse name
  | e => p.typesOf scope e

/-- The callable whose body a routine is: the declared one of its name, or else one of its own
that declares nothing. -/
def callableOf (p : Program) (scope : Routine) : Interning Callable :=
  match p.callableNamed? scope.fullName with
  | some callable => pure callable
  | none => do
    let id ← internCallable (Uncaught.Program.undeclaredId scope)
    return ⟨id, scope.fullName⟩

/-- The callables that a call of an expression may reach. -/
def callTargets (p : Program) (scope : Routine) : Expr → Except Abstention (List Callable)
  | .name name | .stringLiteral name =>
    match p.callableNamed? name with
    | some callable => .ok [callable]
    | none => .error .notFound
  | .var name =>
    match p.variableCallables? scope.fullName name with
    | some ids => .ok (ids.filterMap p.callable?)
    | none => .error .unresolvable
  | _ => .error .unresolvable

/-- The methods of a name on some types, in the order of the types, each method once. -/
def methodsOn (p : Program) (method : String) (found : List MethodInfo) :
    List TypeRef → List MethodInfo
  | [] => found
  | t :: rest =>
    match p.inheritedMethod? t.id method with
    | none => methodsOn p method found rest
    | some entry =>
      methodsOn p method (if found.any (·.id = entry.id) then found else found ++ [entry]) rest

def chooseMethod : LookupMode → List MethodInfo → Except Abstention MethodInfo
  | _, [] => .error .deferred
  | .static false, _ :: _ :: _ => .error .ambiguous
  | .static _, m :: _ => if m.isStatic then .ok m else .error .deferred
  | .object, m :: _ => .ok m

/-- The method that a look-up on known types reaches. -/
def methodTargetOn (p : Program) (types : TypeSet) (method : String) (lookup : LookupMode) :
    Except Abstention Callable :=
  if types.isEmpty then .error .unresolvable
  else
    match chooseMethod lookup (p.methodsOn method [] types.members) with
    | .error reason => .error reason
    | .ok entry =>
      match p.callable? entry.id with
      | some callable => .ok callable
      | none => .error .notFound

/-- The method that a call on a receiver reaches. -/
def methodTarget (p : Program) (scope : Routine) (receiver : Expr) (method : String)
    (lookup : LookupMode) : Interning (Except Abstention Callable) := do
  let types ← p.receiverTypes scope receiver
  return p.methodTargetOn types method lookup

end Uncaught.Interned.Program
