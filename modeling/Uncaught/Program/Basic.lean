import Uncaught.Contract
import Uncaught.Hierarchy
import Uncaught.Table
import Uncaught.Text.Lowercase

/-!
The declared program: a type hierarchy, callables with their contracts, and what the variables of
each function hold.

Callables are looked up by name without regard to case and to leading separators, methods by their
class and their name without regard to case. A method that a class does not have itself is that of
the nearest ancestor that has one.
-/
namespace Uncaught

/-- What is declared of a callable: the name it is shown with, and its contract. -/
structure CallableInfo where
  name : String
  contract : Contract

/-- A method of a class: its identity, and whether it is static. -/
structure MethodInfo where
  id : CallableName
  isStatic : Bool
deriving DecidableEq, Repr

/-- A class and a method name in lower case. -/
structure MethodKey where
  owner : TypeName
  method : String
deriving DecidableEq, Repr

/-- A function's look-up key and a variable name without its sigils. -/
structure VariableKey where
  function : String
  name : String
deriving DecidableEq, Repr

/-- The text under which a callable's name is looked up. -/
def lookupKey (name : String) : String := Text.lowercase (Text.stripLeading '\\' name)

def MethodKey.ofName (owner : TypeName) (method : String) : MethodKey :=
  ⟨owner, Text.lowercase method⟩

def VariableKey.ofNames (function name : String) : VariableKey :=
  ⟨lookupKey function, Text.stripLeading '$' name⟩

/-- What has been declared. -/
structure Program where
  hierarchy : Hierarchy
  callables : Table CallableName CallableInfo
  index : Table String CallableName
  methods : Table MethodKey MethodInfo
  variableTypes : Table VariableKey TypeSet
  variableCallables : Table VariableKey (List CallableName)

namespace Program

def empty : Program :=
  ⟨Hierarchy.empty, Table.empty, Table.empty, Table.empty, Table.empty, Table.empty⟩

def callable? (p : Program) (id : CallableName) : Option Callable :=
  (p.callables.get? id).map fun entry => ⟨id, entry.name⟩

def callableNamed? (p : Program) (name : String) : Option Callable :=
  (p.index.get? (lookupKey name)).bind p.callable?

/-- The contract of a callable; one that is not declared has none. -/
def contract (p : Program) (callable : Callable) : Contract :=
  ((p.callables.get? callable.id).map (·.contract)).getD .undeclared

def contractNamed? (p : Program) (name : String) : Option Contract :=
  (p.callableNamed? name).map p.contract

/-- The types that the callable with a name declares to throw. -/
def typesDeclaredBy (p : Program) (name : String) : TypeSet :=
  ((p.contractNamed? name).map Contract.candidates).getD TypeSet.empty

/-- The method of a class or of its nearest ancestor that has one of the name. -/
def inheritedMethod? (p : Program) (className : TypeName) (method : String) : Option MethodInfo :=
  (p.hierarchy.ancestors className).findSome? fun ancestor =>
    p.methods.get? (MethodKey.ofName ancestor method)

/-- The types of a variable, if it has been declared. -/
def variableTypes? (p : Program) (function name : String) : Option TypeSet :=
  p.variableTypes.get? (VariableKey.ofNames function name)

/-- The callables that a variable may hold, if it has been declared to hold one. -/
def variableCallables? (p : Program) (function name : String) : Option (List CallableName) :=
  p.variableCallables.get? (VariableKey.ofNames function name)

end Program

end Uncaught
