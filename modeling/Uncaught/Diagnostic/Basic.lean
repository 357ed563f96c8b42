/-!
Contract violations, and how they are worded.

A violation is an exception type that escapes from a function which does not declare it, either
because the function declares nothing or because what it declares does not cover the type; and the
type is thrown in the function itself or declared by a callable that it calls.
-/
namespace Uncaught

/-- The ways in which a site can violate the contract of its function. -/
inductive IssueKind where
  /-- A thrown type escapes a function that declares nothing. -/
  | absent
  /-- A thrown type escapes and is not covered by what is declared. -/
  | mismatch
  /-- A type that a callee declares escapes a function that declares nothing. -/
  | absentForCall
  /-- A type that a callee declares escapes and is not covered by what is declared. -/
  | mismatchForCall
deriving DecidableEq, Repr

namespace IssueKind

/-- The kind for a function that declares nothing. -/
def ofAbsence (forCall : Bool) : IssueKind := if forCall then absentForCall else absent

/-- The kind for a function whose declaration does not cover the type. -/
def ofMismatch (forCall : Bool) : IssueKind := if forCall then mismatchForCall else mismatch

def all : List IssueKind := [absent, mismatch, absentForCall, mismatchForCall]

def name : IssueKind → String
  | absent => "ThrowTypeAbsent"
  | mismatch => "ThrowTypeMismatch"
  | absentForCall => "ThrowTypeAbsentForCall"
  | mismatchForCall => "ThrowTypeMismatchForCall"

def ofName? (text : String) : Option IssueKind := all.find? (·.name == text)

def isForCall : IssueKind → Bool
  | absentForCall | mismatchForCall => true
  | absent | mismatch => false

def isMismatch : IssueKind → Bool
  | mismatch | mismatchForCall => true
  | absent | absentForCall => false

end IssueKind

/-- One violation at one site by one type. -/
structure Diagnostic where
  kind : IssueKind
  file : String
  line : UInt32
  column : UInt32
  /-- The function whose contract is violated. -/
  function : String
  /-- The type that escapes. -/
  thrownType : String
  /-- The callee, if the type comes from one. -/
  invoked : Option String
  /-- What the function declares, if it declares something. -/
  declared : Option String
deriving DecidableEq, Repr

namespace Diagnostic

def message (d : Diagnostic) : String :=
  let invoked := d.invoked.getD ""
  let declared := d.declared.getD ""
  match d.kind with
  | .absent =>
    d.function ++ "() can throw " ++ d.thrownType ++
      " here, but has no '@throws' declarations for that class"
  | .absentForCall =>
    d.function ++ "() can throw " ++ d.thrownType ++ " because it calls " ++ invoked ++
      "(), but has no '@throws' declarations for that class"
  | .mismatch =>
    d.function ++ "() throws " ++ d.thrownType ++
      ", but it only has declarations of '@throws " ++ declared ++ "'"
  | .mismatchForCall =>
    d.function ++ "() throws " ++ d.thrownType ++ " because it calls " ++ invoked ++
      "(), but it only has declarations of '@throws " ++ declared ++ "'"

/-- The line that shows a violation: where it is, its kind, and the sentence. -/
def render (d : Diagnostic) : String :=
  d.file ++ ":" ++ Nat.repr d.line.toNat ++ " " ++ d.kind.name ++ " " ++ d.message

end Diagnostic

end Uncaught
