import Uncaught.Abstention
import Uncaught.Logged
import Uncaught.Program.Basic
import Uncaught.Scope
import Uncaught.TypeSet.Text

/-!
What expressions and calls mean, seen from inside a routine.

The type of `new C` is what `C` writes, a variable has the types it was declared with, and nothing
is known of other expressions. A call resolves to the callables it may reach, or to the reason why
they are not known:

* a function name that is not declared is not found;
* an expression without known types cannot be resolved;
* a method that no type of the receiver has is the matter of another check, and so is a static call
  of a method that is not static;
* a strict static look-up that reaches several methods is ambiguous.
-/
namespace Uncaught

/-- How a method is looked up on the types of a receiver. -/
inductive LookupMode where
  /-- On an object. -/
  | object
  /-- On a class. A forgiving look-up takes the first of several methods. -/
  | static (forgiving : Bool)
deriving DecidableEq, Repr

def Expr.stringValue? : Expr → Option String
  | .stringLiteral value => some value
  | _ => none

namespace Program

/-- The types of an expression; empty if they are not known. -/
def typesOf (p : Program) (scope : Routine) : Expr → Noted TypeSet
  | .new className => TypeSet.parse className
  | .var name => pure ((p.variableTypes? scope.fullName name).getD TypeSet.empty)
  | _ => pure TypeSet.empty

/-- The types of a receiver, which may be a bare class name. -/
def receiverTypes (p : Program) (scope : Routine) : Expr → Noted TypeSet
  | .classRef name => TypeSet.parse name
  | e => p.typesOf scope e

/-- The identity of a routine that is not declared. -/
def undeclaredId (scope : Routine) : CallableName :=
  match scope.kind, scope.className with
  | .method, some className => CallableName.ofMethod className scope.name
  | _, _ => CallableName.ofText scope.fullName

/-- The callable whose body a routine is: the declared one of its name, or else one of its own
that declares nothing. -/
def callableOf (p : Program) (scope : Routine) : Noted Callable :=
  match p.callableNamed? scope.fullName with
  | some callable => pure callable
  | none => do
    let id := undeclaredId scope
    mention (.callable id)
    return ⟨id, scope.fullName⟩

/-- The callables that a call of an expression may reach. -/
def callTargets (p : Program) (scope : Routine) : Expr → Except Abstention (List Callable)
  | .name name | .stringLiteral name =>
    match p.callableNamed? name with
    | some callable => .ok [callable]
    | none => .error .notFound
  | .var name =>
    match p.variableCallables? scope.fullName name with
    | some ids => .ok (ids.filterMap p.callable?)
    | none => .error .unresolvable
  | _ => .error .unresolvable

/-- The methods of a name on some types, in the order of the types, each method once. -/
def methodsOn (p : Program) (method : String) (found : List MethodInfo) :
    List NamedType → List MethodInfo
  | [] => found
  | t :: rest =>
    match p.inheritedMethod? t.name method with
    | none => methodsOn p method found rest
    | some entry =>
      methodsOn p method (if found.any (·.id = entry.id) then found else found ++ [entry]) rest

def chooseMethod : LookupMode → List MethodInfo → Except Abstention MethodInfo
  | _, [] => .error .deferred
  | .static false, _ :: _ :: _ => .error .ambiguous
  | .static _, m :: _ => if m.isStatic then .ok m else .error .deferred
  | .object, m :: _ => .ok m

/-- The method that a look-up on known types reaches. -/
def methodTargetOn (p : Program) (types : TypeSet) (method : String) (lookup : LookupMode) :
    Except Abstention Callable :=
  if types.isEmpty then .error .unresolvable
  else
    match chooseMethod lookup (p.methodsOn method [] types.members) with
    | .error reason => .error reason
    | .ok entry =>
      match p.callable? entry.id with
      | some callable => .ok callable
      | none => .error .notFound

/-- The method that a call on a receiver reaches. -/
def methodTarget (p : Program) (scope : Routine) (receiver : Expr) (method : String)
    (lookup : LookupMode) : Noted (Except Abstention Callable) := do
  let types ← p.receiverTypes scope receiver
  return p.methodTargetOn types method lookup

end Program

end Uncaught
