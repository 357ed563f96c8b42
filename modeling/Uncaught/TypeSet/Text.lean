import Uncaught.Logged
import Uncaught.Text.Letter
import Uncaught.TypeSet.Basic

/-!
Type sets as text: `A|?B`.

A text is cut at `|`, and every piece must be an optional `?` and a path, blanks around either one
allowed. A path is a list of segments between backslashes, with an optional backslash in front; a
segment starts with a letter or `_` and goes on with letters, numbers and `_`. One malformed piece
makes the whole text stand for the empty set, but the names of the pieces before it have been
spelled out by then.
-/
namespace Uncaught

/-- Whether a text is one segment of a path. -/
def isSegment : List Char → Bool
  | [] => false
  | c :: cs =>
    (c == '_' || Text.isAlphabetic c) && cs.all fun d => d == '_' || Text.isAlphanumeric d

/-- A text without the backslash it may start with. -/
def afterRoot : List Char → List Char
  | '\\' :: path => path
  | path => path

/-- Whether a text is a path: segments between single backslashes, one more allowed in front. -/
def isTypePath (cs : List Char) : Bool := (Text.pieces '\\' (afterRoot cs)).all isSegment

def NamedType.ofPath? (nullable : Bool) (path : List Char) : Option NamedType :=
  if isTypePath path then some ⟨TypeName.ofText (String.ofList path), nullable⟩ else none

def NamedType.ofPiece? (piece : List Char) : Option NamedType :=
  match Text.trimChars piece with
  | '?' :: rest => NamedType.ofPath? true (Text.trimStartChars rest)
  | path => NamedType.ofPath? false path

namespace TypeSet

/-- The pieces' types added to a set one after the other; nothing if a piece is malformed. -/
def parsePieces (s : TypeSet) : List (List Char) → Noted TypeSet
  | [] => pure s
  | piece :: rest =>
    match NamedType.ofPiece? piece with
    | none => pure empty
    | some t => do
      mention (.type t.name)
      parsePieces (s.insert t) rest

/-- The set that a text writes; empty if the text is malformed. -/
def parse (source : String) : Noted TypeSet := parsePieces empty (Text.pieces '|' source.toList)

/-- The set as text, members in storage order. -/
def render (s : TypeSet) : String :=
  String.ofList (Text.join ['|'] (s.members.map fun t => t.text.toList))

/-- The union of the sets that several texts write. -/
def parseAll (s : TypeSet) : List String → Noted TypeSet
  | [] => pure s
  | source :: rest => do
    let types ← parse source
    parseAll (s.union types) rest

end TypeSet

end Uncaught
