/-!
TOML values.

A table remembers how it came to be, since that decides what may still be added to it: one with a
header of its own is complete except for deeper headers, one that a deeper header implied may still
get a header, one that a dotted key made may get more dotted keys, and one written inline is closed.
Of floats and times only the text is kept.
-/
namespace Uncaught.Toml

/-- How a table came to be. -/
inductive TableOrigin where
  /-- It is the document, has a header of its own, or is a row of an array of tables. -/
  | header
  /-- A deeper header needed it. -/
  | implied
  /-- A dotted key needed it. -/
  | dotted
  /-- It is written inline. -/
  | inline
deriving DecidableEq, Repr

/-- A value of a TOML document. -/
inductive Value where
  | string (text : String)
  | integer (value : Int)
  | float (text : String)
  | boolean (value : Bool)
  | datetime (text : String)
  | array (items : List Value)
  | table (origin : TableOrigin) (fields : List (String × Value))
  /-- An array of tables, each of them with a header. -/
  | tables (rows : List (List (String × Value)))

/-- The keys of a table with their values, in the order of writing. -/
abbrev Fields := List (String × Value)

/-- Fields with another value for a key that is there. -/
def Fields.replace (key : String) (value : Value) : Fields → Fields
  | [] => []
  | (k, v) :: rest =>
    if k = key then (k, value) :: rest else (k, v) :: Fields.replace key value rest

end Uncaught.Toml
