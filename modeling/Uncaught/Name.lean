import Uncaught.Text.Blank
import Uncaught.Text.Pieces

/-!
Names of types and of callables.

Two spellings name the same type when they agree after the blanks around them and the leading
namespace separators are dropped. A callable is known by the text of its name without the blanks
around it, a method by its class's name, `::` and the method's name as written. Names differ in
case; only the look-up of callables and methods ignores it (`lookupKey`).
-/
namespace Uncaught

/-- The name of a class, an interface or a builtin type. -/
structure TypeName where
  text : String
deriving DecidableEq, Repr, Inhabited

/-- The type that a spelling names. -/
def TypeName.ofText (spelling : String) : TypeName :=
  ⟨Text.stripLeading '\\' (Text.trim spelling)⟩

/-- The type that every other type can stand in for. -/
def TypeName.mixed : TypeName := ⟨"mixed"⟩

/-- The identity of a function, a method or a closure. -/
structure CallableName where
  text : String
deriving DecidableEq, Repr, Inhabited

/-- The function or closure that a spelling names. -/
def CallableName.ofText (spelling : String) : CallableName := ⟨Text.trim spelling⟩

/-- The identity of a method of a class. -/
def CallableName.ofMethod (className method : String) : CallableName :=
  ⟨(TypeName.ofText className).text ++ "::" ++ method⟩

/-- A name that a question or a declaration has spelled out. -/
inductive Mention where
  | type (name : TypeName)
  | callable (name : CallableName)
deriving DecidableEq, Repr

end Uncaught
