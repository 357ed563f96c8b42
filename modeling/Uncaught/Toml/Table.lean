import Uncaught.Toml.Value

/-!
Building TOML tables.

A document is a list of headers, rows of arrays of tables, and keys with their values; a key belongs
to the table of the last header or row before it. A table must not be defined twice, and a key must
not be either. Which table may still be reached and extended is a matter of how it came to be
(`TableOrigin`):

* a header or a row may pass through every table that is not inline, and in an array of tables it
  goes to the last row;
* a dotted key may not pass through a table with a header, nor end in one that no dotted key has
  made.
-/
namespace Uncaught.Toml

/-- One line of a document, blank ones and comments aside. -/
inductive Entry where
  /-- A header: a table begins. -/
  | header (path : List String)
  /-- A header in double brackets: a new row of an array of tables begins. -/
  | row (path : List String)
  | keyValue (path : List String) (value : Value)

/-- Changes the table that a path leads to from another one. Tables that are missing on the way come
to be, by a dotted key or as implied ones. -/
def Fields.descend (isDotted : Bool) (change : TableOrigin → Fields → Option Fields)
    (origin : TableOrigin) (fields : Fields) : List String → Option Fields
  | [] => change origin fields
  | key :: path =>
    match fields.lookup key with
    | none => do
      let origin := if isDotted then .dotted else .implied
      let inner ← Fields.descend isDotted change origin [] path
      return fields ++ [(key, .table origin inner)]
    | some (.table origin inner) =>
      if origin = .inline ∨ (isDotted ∧ origin = .header) then none
      else do
        let inner ← Fields.descend isDotted change origin inner path
        return fields.replace key (.table origin inner)
    | some (.tables rows) => do
      let last ← rows.getLast?
      let inner ← Fields.descend isDotted change .header last path
      return fields.replace key (.tables (rows.dropLast ++ [inner]))
    | some _ => none

def Fields.define (key : String) (value : Value) (fields : Fields) : Option Fields :=
  if (fields.lookup key).isSome then none else some (fields ++ [(key, value)])

/-- Adds a key, which may be dotted, to a table. -/
def Fields.addKey (fields : Fields) (path : List String) (value : Value) : Option Fields := do
  let key ← path.getLast?
  let way := path.dropLast
  Fields.descend true
    (fun origin inner =>
      if way ≠ [] ∧ origin ≠ .dotted then none else inner.define key value)
    .header fields way

def Fields.openTable (key : String) (fields : Fields) : Option Fields :=
  match fields.lookup key with
  | none => some (fields ++ [(key, .table .header [])])
  | some (.table .implied inner) => some (fields.replace key (.table .header inner))
  | some _ => none

/-- Begins a row of an array of tables. -/
def Fields.openRow (key : String) (fields : Fields) : Option Fields :=
  match fields.lookup key with
  | none => some (fields ++ [(key, .tables [[]])])
  | some (.tables rows) => some (fields.replace key (.tables (rows ++ [[]])))
  | some _ => none

/-- Changes the table in which the last key of a path stands. -/
def Fields.atParent (fields : Fields) (path : List String)
    (change : String → Fields → Option Fields) : Option Fields := do
  let key ← path.getLast?
  Fields.descend false (fun _ inner => change key inner) .header fields path.dropLast

/-- The tables of a document, after the ones before it and in the table that `current` leads to. -/
def Fields.ofEntries? (fields : Fields) (current : List String) : List Entry → Option Fields
  | [] => some fields
  | .header path :: rest => do
    Fields.ofEntries? (← fields.atParent path Fields.openTable) path rest
  | .row path :: rest => do
    Fields.ofEntries? (← fields.atParent path Fields.openRow) path rest
  | .keyValue path value :: rest => do
    let fields ←
      Fields.descend false (fun _ inner => inner.addKey path value) .header fields current
    Fields.ofEntries? fields current rest

/-- The table that is written inline with some keys. -/
def Fields.ofInline? (fields : Fields) : List (List String × Value) → Option Fields
  | [] => some fields
  | (path, value) :: rest => do Fields.ofInline? (← fields.addKey path value) rest

end Uncaught.Toml
