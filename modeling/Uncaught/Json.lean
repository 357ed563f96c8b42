/-!
JSON values.

Numbers are told apart by how they are written: an integer without fraction and exponent, or a
decimal.
-/
namespace Uncaught

/-- A JSON value; the keys of an object are different from each other, in the order in which they
are written. -/
inductive Json where
  | null
  | bool (value : Bool)
  | integer (value : Int)
  /-- The mantissa shifted right by some decimal places. -/
  | decimal (mantissa : Int) (places : Nat)
  | string (text : String)
  | array (items : List Json)
  | object (fields : List (String × Json))
deriving Inhabited

namespace Json

def text? : Json → Option String
  | .string text => some text
  | _ => none

/-- The value of an integer that fits 32 bits without a sign. -/
def word? : Json → Option UInt32
  | .integer (.ofNat n) => if n < UInt32.size then some (UInt32.ofNat n) else none
  | _ => none

/-- The text of a string, or nothing for `null`. -/
def textOrNull? : Json → Option (Option String)
  | .null => some none
  | .string text => some (some text)
  | _ => none

end Json

end Uncaught
