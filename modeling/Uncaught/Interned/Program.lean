import Uncaught.Interned.Hierarchy
import Uncaught.Program.Declaration

/-!
The declared program by numbers.

The tables are those of a program by name: callables and their contracts are found by the number of
the callable, methods by the number of the class and a method name, and only what is looked up by
text is found by text. Declarations enter the names that they spell out.
-/
namespace Uncaught.Interned

inductive Contract where
  | undeclared
  /-- These types and no others; there may be none. -/
  | declared (types : TypeSet)
deriving DecidableEq, Repr

namespace Contract

def declared? : Contract → Option TypeSet
  | undeclared => none
  | declared types => some types

/-- The types that a call may throw by its target's contract: none without a declaration. -/
def candidates (contract : Contract) : TypeSet := contract.declared?.getD TypeSet.empty

def named (names : NameTable) : Contract → Uncaught.Contract
  | undeclared => .undeclared
  | declared types => .declared (types.named names)

end Contract

/-- A function, a method or a closure: its number and the name it is shown with. -/
structure Callable where
  id : CallableId
  name : String
deriving DecidableEq, Repr

def Callable.named (names : NameTable) (callable : Callable) : Uncaught.Callable :=
  ⟨callable.id.name names, callable.name⟩

/-- What is declared of a callable: the name it is shown with, and its contract. -/
structure CallableInfo where
  name : String
  contract : Contract
deriving DecidableEq, Repr

/-- A method of a class: its number, and whether it is static. -/
structure MethodInfo where
  id : CallableId
  isStatic : Bool
deriving DecidableEq, Repr

/-- A class and a method name in lower case. -/
structure MethodKey where
  owner : TypeId
  method : String
deriving DecidableEq, Repr

def MethodKey.ofName (owner : TypeId) (method : String) : MethodKey :=
  ⟨owner, Text.lowercase method⟩

/-- What has been declared, and the number of the type that admits everything. -/
structure Program where
  mixed : TypeId
  hierarchy : Hierarchy
  callables : Table CallableId CallableInfo
  index : Table String CallableId
  methods : Table MethodKey MethodInfo
  variableTypes : Table VariableKey TypeSet
  variableCallables : Table VariableKey (List CallableId)

namespace Program

def empty (mixed : TypeId) : Program :=
  ⟨mixed, Hierarchy.empty, Table.empty, Table.empty, Table.empty, Table.empty, Table.empty⟩

/-- Whether a value whose types are `source` may stand where `target` is asked for. -/
def castable (p : Program) (source target : TypeSet) : Bool :=
  TypeSet.castable p.mixed source target

/-- Whether a value of a type may stand where a target is asked for. -/
def covers (p : Program) (target : TypeSet) (t : TypeRef) : Bool :=
  p.castable (p.hierarchy.withAncestors t) target

def callable? (p : Program) (id : CallableId) : Option Callable :=
  (p.callables.get? id).map fun entry => ⟨id, entry.name⟩

def callableNamed? (p : Program) (name : String) : Option Callable :=
  (p.index.get? (lookupKey name)).bind p.callable?

/-- The contract of a callable; one that is not declared has none. -/
def contract (p : Program) (callable : Callable) : Contract :=
  ((p.callables.get? callable.id).map (·.contract)).getD .undeclared

def contractNamed? (p : Program) (name : String) : Option Contract :=
  (p.callableNamed? name).map p.contract

/-- The types that the callable with a name declares to throw. -/
def typesDeclaredBy (p : Program) (name : String) : TypeSet :=
  ((p.contractNamed? name).map Contract.candidates).getD TypeSet.empty

/-- The method of a class or of its nearest ancestor that has one of the name. -/
def inheritedMethod? (p : Program) (className : TypeId) (method : String) : Option MethodInfo :=
  (p.hierarchy.ancestors className).findSome? fun ancestor =>
    p.methods.get? (MethodKey.ofName ancestor method)

/-- The types of a variable, if it has been declared. -/
def variableTypes? (p : Program) (function name : String) : Option TypeSet :=
  p.variableTypes.get? (VariableKey.ofNames function name)

/-- The callables that a variable may hold, if it has been declared to hold one. -/
def variableCallables? (p : Program) (function name : String) : Option (List CallableId) :=
  p.variableCallables.get? (VariableKey.ofNames function name)

/-! ## Declarations -/

def parseContract : Option String → Interning Contract
  | none => pure .undeclared
  | some source => Contract.declared <$> TypeSet.parse source

/-- Enters a callable under its number and the name it is shown with. -/
def register (p : Program) (callable : Callable) (throws : Option String) : Interning Program := do
  let contract ← parseContract throws
  return { p with
    index := p.index.insert (lookupKey callable.name) callable.id
    callables := p.callables.insert callable.id ⟨callable.name, contract⟩ }

/-- Declares a function or a closure; it is shown with its name as written. -/
def declareFunction (p : Program) (name : String) (throws : Option String) : Interning Program := do
  let id ← internCallable (CallableName.ofText name)
  p.register ⟨id, name⟩ throws

/-- Declares a method, and its class if that is not known. The method is shown with the name that
its number stands for. -/
def declareMethod (p : Program) (className name : String) (isStatic : Bool)
    (throws : Option String) : Interning Program := do
  let owner ← internType (TypeName.ofText className)
  let id ← internCallable (CallableName.ofMethod className name)
  let shown := (id.name (← get)).text
  let p ← { p with hierarchy := p.hierarchy.insertType owner }.register ⟨id, shown⟩ throws
  return { p with methods := p.methods.insert (MethodKey.ofName owner name) ⟨id, isStatic⟩ }

/-- Declares the parents of a type one after the other. -/
def declareParents (h : Hierarchy) (child : TypeId) : List String → Interning Hierarchy
  | [] => pure h
  | parent :: rest => do
    let id ← internType (TypeName.ofText parent)
    declareParents (h.insertParent child id) child rest

/-- Declares a class or an interface with its parent and interfaces. -/
def declareClass (p : Program) (name : String) (parents : List String) : Interning Program := do
  let child ← internType (TypeName.ofText name)
  let hierarchy ← declareParents (p.hierarchy.insertType child) child parents
  return { p with hierarchy }

/-- The callables among some names. Case does not matter here, but a leading separator does. -/
def boundCallables (p : Program) (names : List String) : List CallableId :=
  names.filterMap fun name => p.index.get? (Text.lowercase name)

def declare (p : Program) : Declaration → Interning Program
  | .classLike name parents => p.declareClass name parents
  | .function name throws => p.declareFunction name throws
  | .closure name throws => p.declareFunction name throws
  | .method className name throws => p.declareMethod className name false throws
  | .staticMethod className name throws => p.declareMethod className name true throws
  | .variableTypes function name types => do
    let types ← TypeSet.parse types
    return { p with
      variableTypes := p.variableTypes.insert (VariableKey.ofNames function name) types }
  | .variableCallables function name callees =>
    pure { p with
      variableCallables :=
        p.variableCallables.insert (VariableKey.ofNames function name)
          (p.boundCallables callees) }

end Program

/-- A code base: the declared program and the names met so far. -/
structure Codebase where
  program : Program
  names : NameTable

namespace Codebase

/-- Nothing declared; the type that admits everything is known by name. -/
def empty : Codebase :=
  let (mixed, names) := (internType TypeName.mixed).run NameTable.empty
  ⟨Program.empty mixed, names⟩

/-- The answer to a question, and the code base with the names that finding it has entered. -/
def ask {α : Type} (c : Codebase) (answer : Interning α) : α × Codebase :=
  let (a, names) := answer.run c.names
  (a, { c with names })

/-- The code base after one more declaration. -/
def declare (c : Codebase) (d : Declaration) : Codebase :=
  let (program, c) := c.ask (c.program.declare d)
  { c with program }

end Codebase

end Uncaught.Interned
