import Uncaught.Logged
import Uncaught.Program.Basic
import Uncaught.TypeSet.Text

/-!
Declarations, from which a program is made.

A later declaration of the same callable, name, method or variable replaces the earlier one. A
callable is entered twice, under its identity and under the look-up key of the name it is shown
with; a variable that holds callables keeps the identities that their names have when it is
declared.
-/
namespace Uncaught

/-- One declaration. A contract is given as text, and is absent if nothing is declared. -/
inductive Declaration where
  | classLike (name : String) (parents : List String)
  | function (name : String) (throws : Option String)
  | closure (name : String) (throws : Option String)
  | method (className name : String) (throws : Option String)
  | staticMethod (className name : String) (throws : Option String)
  /-- A variable of a function has one of some types. -/
  | variableTypes (function name types : String)
  /-- A variable of a function holds one of some callables. -/
  | variableCallables (function name : String) (callees : List String)
deriving DecidableEq, Repr

namespace Program

def parseContract : Option String → Noted Contract
  | none => pure .undeclared
  | some source => Contract.declared <$> TypeSet.parse source

/-- Enters a callable under its identity and the name it is shown with. -/
def register (p : Program) (callable : Callable) (throws : Option String) : Noted Program := do
  let contract ← parseContract throws
  return { p with
    index := p.index.insert (lookupKey callable.name) callable.id
    callables := p.callables.insert callable.id ⟨callable.name, contract⟩ }

/-- Declares a function or a closure; it is shown with its name as written. -/
def declareFunction (p : Program) (name : String) (throws : Option String) : Noted Program := do
  let id := CallableName.ofText name
  mention (.callable id)
  p.register ⟨id, name⟩ throws

/-- Declares a method, and its class if that is not known. -/
def declareMethod (p : Program) (className name : String) (isStatic : Bool)
    (throws : Option String) : Noted Program := do
  let owner := TypeName.ofText className
  let id := CallableName.ofMethod className name
  mention (.type owner)
  mention (.callable id)
  let p ← { p with hierarchy := p.hierarchy.insertType owner }.register ⟨id, id.text⟩ throws
  return { p with methods := p.methods.insert (MethodKey.ofName owner name) ⟨id, isStatic⟩ }

/-- Declares the parents of a type one after the other. -/
def declareParents (h : Hierarchy) (child : TypeName) : List String → Noted Hierarchy
  | [] => pure h
  | parent :: rest => do
    let name := TypeName.ofText parent
    mention (.type name)
    declareParents (h.insertParent child name) child rest

/-- Declares a class or an interface with its parent and interfaces. -/
def declareClass (p : Program) (name : String) (parents : List String) : Noted Program := do
  let child := TypeName.ofText name
  mention (.type child)
  let hierarchy ← declareParents (p.hierarchy.insertType child) child parents
  return { p with hierarchy }

/-- The callables among some names. Case does not matter here, but a leading separator does. -/
def boundCallables (p : Program) (names : List String) : List CallableName :=
  names.filterMap fun name => p.index.get? (Text.lowercase name)

def declare (p : Program) : Declaration → Noted Program
  | .classLike name parents => p.declareClass name parents
  | .function name throws => p.declareFunction name throws
  | .closure name throws => p.declareFunction name throws
  | .method className name throws => p.declareMethod className name false throws
  | .staticMethod className name throws => p.declareMethod className name true throws
  | .variableTypes function name types => do
    let types ← TypeSet.parse types
    return { p with
      variableTypes := p.variableTypes.insert (VariableKey.ofNames function name) types }
  | .variableCallables function name callees =>
    pure { p with
      variableCallables :=
        p.variableCallables.insert (VariableKey.ofNames function name)
          (p.boundCallables callees) }

end Program

end Uncaught
