import Uncaught.Interned.Ident
import Uncaught.TypeSet.Text

/-!
Sets of types by their numbers.

The operations are those on sets of types by name, with numbers in the place of names. Reading a set
enters the names of its members; writing it looks them up again.
-/
namespace Uncaught.Interned

/-- A type as it is written: the number of its name, nullable or not. -/
structure TypeRef where
  id : TypeId
  nullable : Bool
deriving DecidableEq, Repr

namespace TypeRef

def plain (id : TypeId) : TypeRef := ⟨id, false⟩

/-- The type by its name. -/
def named (names : NameTable) (t : TypeRef) : NamedType := ⟨t.id.name names, t.nullable⟩

end TypeRef

/-- Types in the order of first insertion. -/
structure TypeSet where
  members : List TypeRef
deriving DecidableEq, Repr

namespace TypeSet

def empty : TypeSet := ⟨[]⟩

instance : Inhabited TypeSet := ⟨empty⟩

def isEmpty (s : TypeSet) : Bool := s.members.isEmpty

/-- Adds a type behind the others, unless it is a member. -/
def insert (s : TypeSet) (t : TypeRef) : TypeSet :=
  if t ∈ s.members then s else ⟨s.members ++ [t]⟩

def extend (s : TypeSet) (types : List TypeRef) : TypeSet := types.foldl insert s

def singleton (t : TypeRef) : TypeSet := empty.insert t

/-- The members of either set, those of the first one in front. -/
def union (s other : TypeSet) : TypeSet := s.extend other.members

def filter (s : TypeSet) (keep : TypeRef → Bool) : TypeSet := ⟨s.members.filter keep⟩

/-- Whether a value whose types are `source` may stand where `target` is asked for, if one type
admits everything. -/
def castable (mixed : TypeId) (source target : TypeSet) : Bool :=
  target.members.any (·.id = mixed) ||
    source.members.any (fun t => target.members.any (·.id = t.id))

/-- The pieces' types added to a set one after the other; nothing if a piece is malformed. -/
def parsePieces (s : TypeSet) : List (List Char) → Interning TypeSet
  | [] => pure s
  | piece :: rest =>
    match NamedType.ofPiece? piece with
    | none => pure empty
    | some t => do
      let id ← internType t.name
      parsePieces (s.insert ⟨id, t.nullable⟩) rest

/-- The set that a text writes; empty if the text is malformed. -/
def parse (source : String) : Interning TypeSet :=
  parsePieces empty (Text.pieces '|' source.toList)

/-- The union of the sets that several texts write. -/
def parseAll (s : TypeSet) : List String → Interning TypeSet
  | [] => pure s
  | source :: rest => do
    let types ← parse source
    parseAll (s.union types) rest

/-- The set as text, members in storage order. -/
def render (names : NameTable) (s : TypeSet) : String :=
  String.ofList (Text.join ['|'] (s.members.map fun t => (t.named names).text.toList))

/-- The set of the types by their names. -/
def named (names : NameTable) (s : TypeSet) : Uncaught.TypeSet :=
  .ofList (s.members.map (TypeRef.named names))

end TypeSet

end Uncaught.Interned
