/-!
TOML numbers.

A number is read from a word, a maximal run of the characters that occur in numbers and times.
Digits may be grouped by single underscores. Integers have to fit 64 bits with a sign. A float is
only checked for its form, except that one too large for binary64 is refused unless it is negative.
-/
namespace Uncaught.Toml

/-- Whether a text is one or more digits, single underscores between two of them allowed. -/
def isGrouped (isDigit : Char → Bool) : List Char → Bool
  | [] => false
  | [c] => isDigit c
  | c :: '_' :: d :: rest => isDigit c && isGrouped isDigit (d :: rest)
  | c :: rest => isDigit c && isGrouped isDigit rest

def digitValue (c : Char) : Nat :=
  if c.isDigit then c.toNat - '0'.toNat
  else if 'a'.toNat ≤ c.toNat then c.toNat - 'a'.toNat + 10
  else c.toNat - 'A'.toNat + 10

/-- The number that digits write in a base, underscores left out. -/
def digitsValue (base : Nat) (cs : List Char) : Nat :=
  (cs.filter (· ≠ '_')).foldl (fun n c => n * base + digitValue c) 0

def isHexDigit (c : Char) : Bool :=
  c.isDigit || ('a' ≤ c && c ≤ 'f') || ('A' ≤ c && c ≤ 'F')

def isOctalDigit (c : Char) : Bool := '0' ≤ c && c ≤ '7'

def isBinaryDigit (c : Char) : Bool := c = '0' || c = '1'

/-- Whether a text is a decimal number without sign and without leading zeros. -/
def isDecimal (cs : List Char) : Bool :=
  cs = ['0'] || (isGrouped Char.isDigit cs && cs.head? ≠ some '0')

/-- A text without the sign it may start with, and whether that is a minus. -/
def splitSign : List Char → Bool × List Char
  | '-' :: rest => (true, rest)
  | '+' :: rest => (false, rest)
  | cs => (false, cs)

/-- An integer, if it fits 64 bits with a sign. -/
def inRange? (n : Int) : Option Int :=
  if -Int.pow 2 63 ≤ n ∧ n < Int.pow 2 63 then some n else none

def basedInteger? (base : Nat) (isDigit : Char → Bool) (cs : List Char) : Option Int :=
  if isGrouped isDigit cs then inRange? (digitsValue base cs) else none

/-- Reads an integer: decimal with an optional sign, or hexadecimal, octal or binary without. -/
def integer? : List Char → Option Int
  | '0' :: 'x' :: cs => basedInteger? 16 isHexDigit cs
  | '0' :: 'o' :: cs => basedInteger? 8 isOctalDigit cs
  | '0' :: 'b' :: cs => basedInteger? 2 isBinaryDigit cs
  | cs =>
    let (negative, digits) := splitSign cs
    if isDecimal digits then
      inRange? (if negative then -(digitsValue 10 digits : Int) else digitsValue 10 digits)
    else none

/-- The least number that binary64 rounds to infinity. -/
def floatLimit : Nat := (Nat.pow 2 54 - 1) * Nat.pow 2 970

/-- Whether `mantissa` times ten to the `exponent` is too large for binary64. The number of digits
settles it except for numbers of the magnitude of the limit. -/
def exceedsFloat (mantissa : Nat) (exponent : Int) : Bool :=
  let magnitude : Int := (Nat.toDigits 10 mantissa).length + exponent
  if mantissa = 0 then false
  else if 309 < magnitude then true
  else if magnitude < 309 then false
  else if 0 ≤ exponent then floatLimit ≤ mantissa * Nat.pow 10 exponent.toNat
  else floatLimit * Nat.pow 10 (-exponent).toNat ≤ mantissa

/-- Whether a text is a float: a decimal number with a fraction, an exponent or both, or one of the
special values. -/
def isFloat (cs : List Char) : Bool :=
  let (negative, body) := splitSign cs
  if body = ['i', 'n', 'f'] || body = ['n', 'a', 'n'] then true
  else
    let isExponentMark (c : Char) : Bool := c = 'e' || c = 'E'
    let mantissa := body.takeWhile (!isExponentMark ·)
    let exponent := (body.dropWhile (!isExponentMark ·)).drop 1
    let whole := mantissa.takeWhile (· ≠ '.')
    let fraction := (mantissa.dropWhile (· ≠ '.')).drop 1
    let hasExponent := body.any isExponentMark
    let hasFraction := mantissa.contains '.'
    let (exponentNegative, exponentDigits) := splitSign exponent
    let scale : Int := digitsValue 10 exponentDigits
    isDecimal whole && (hasExponent || hasFraction) &&
      (!hasFraction || isGrouped Char.isDigit fraction) &&
      (!hasExponent || isGrouped Char.isDigit exponentDigits) &&
      (negative ||
        !exceedsFloat (digitsValue 10 (whole ++ fraction))
          ((if exponentNegative then -scale else scale) - (fraction.filter (· ≠ '_')).length))

end Uncaught.Toml
