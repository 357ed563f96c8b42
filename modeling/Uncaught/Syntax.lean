/-!
Source files as the analysis sees them.

Only what bears on exceptions is kept: routines, try statements, throws and calls. Everything
else is a block of the nodes inside it. Positions are kept where something can be reported, at
throws and calls.
-/
namespace Uncaught

/-- A position: the line, and the column in it. -/
structure Position where
  line : UInt32
  column : UInt32
deriving DecidableEq, Repr

/-- What a body belongs to. -/
inductive RoutineKind where
  | function
  | method
  | closure
deriving DecidableEq, Repr

/-- A function, a method or a closure, without its body. -/
structure Routine where
  name : String
  kind : RoutineKind
  className : Option String
deriving DecidableEq, Repr

/-- An expression, as far as its type or its value may be known. -/
inductive Expr where
  /-- An object made by `new`. -/
  | new (className : String)
  | var (name : String)
  | stringLiteral (value : String)
  /-- The bare name of a function that is called. -/
  | name (name : String)
  /-- The bare name of a class in a static call. -/
  | classRef (name : String)
  | unknown
deriving DecidableEq, Repr

/-- The method of a method call. -/
inductive MethodSelector where
  | literal (name : String)
  /-- The name is the value of an expression. -/
  | dynamic (value : Expr)
deriving DecidableEq, Repr

inductive Call where
  | function (callee : Expr)
  | method (receiver : Expr) (name : MethodSelector)
  | static (className : Expr) (name : String)
deriving DecidableEq, Repr

mutual

/-- A statement or an expression, with the nodes inside it. -/
inductive Node where
  | routine (routine : Routine) (body : List Node)
  | block (body : List Node)
  | tryCatch (body : List Node) (clauses : List CatchClause) (final : Option (List Node))
  | throw (position : Position) (thrown : Expr)
  | call (position : Position) (call : Call) (arguments : List Node)

/-- A catch clause: the types it names, as written, and its body. -/
inductive CatchClause where
  | mk (types : List String) (body : List Node)

end

def CatchClause.types : CatchClause → List String
  | .mk types _ => types

/-- What a catch clause does with the exceptions it catches. -/
def CatchClause.body : CatchClause → List Node
  | .mk _ body => body

structure SourceFile where
  path : String
  items : List Node

end Uncaught
