/-!
Bytes shown as text.

Bytes that are no UTF-8 can be shown all the same: in place of a character that is broken off, and
of a byte that no character starts with, stands U+FFFD. A character is broken off by the first byte
that cannot go on with it, and that byte may start the next one.
-/
namespace Uncaught.Text

/-- What stands for bytes that make no character. -/
def replacement : Char := '\uFFFD'

/-- A character whose bytes are not all there yet: what those make that are, how many there are to
come, and between which values the next one lies. -/
structure PartialChar where
  value : Nat
  missing : Nat
  low : Nat
  high : Nat

/-- The characters that a byte completes at the start of a character, and the one that it leaves
open. -/
def startChar (b : Nat) : List Char × Option PartialChar :=
  if b < 0x80 then ([Char.ofNat b], none)
  else if b < 0xC2 then ([replacement], none)
  else if b < 0xE0 then ([], some ⟨b - 0xC0, 1, 0x80, 0xBF⟩)
  else if b = 0xE0 then ([], some ⟨0x0, 2, 0xA0, 0xBF⟩)
  -- The bounds leave out what can be written shorter, the surrogates, and what is beyond U+10FFFF.
  else if b = 0xED then ([], some ⟨0xD, 2, 0x80, 0x9F⟩)
  else if b < 0xF0 then ([], some ⟨b - 0xE0, 2, 0x80, 0xBF⟩)
  else if b = 0xF0 then ([], some ⟨0x0, 3, 0x90, 0xBF⟩)
  else if b < 0xF4 then ([], some ⟨b - 0xF0, 3, 0x80, 0xBF⟩)
  else if b = 0xF4 then ([], some ⟨0x4, 3, 0x80, 0x8F⟩)
  else ([replacement], none)

/-- The same behind a character that has been left open. -/
def continueChar (c : PartialChar) (b : Nat) : List Char × Option PartialChar :=
  if c.low ≤ b ∧ b ≤ c.high then
    let value := c.value * 0x40 + (b - 0x80)
    if c.missing = 1 then ([Char.ofNat value], none)
    else ([], some ⟨value, c.missing - 1, 0x80, 0xBF⟩)
  else
    let (completed, left) := startChar b
    (replacement :: completed, left)

def shownChars : Option PartialChar → List UInt8 → List Char
  | none, [] => []
  | some _, [] => [replacement]
  | left, b :: rest =>
    let (completed, left) := left.elim (startChar b.toNat) fun c => continueChar c b.toNat
    completed ++ shownChars left rest

/-- The text that bytes are, or what they are shown as if they are none. -/
def shown (bytes : ByteArray) : String :=
  (String.fromUTF8? bytes).getD (String.ofList (shownChars none bytes.toList))

/-- The first two bytes of a character of three are replaced as one. -/
example :
    shownChars none [0x61, 0xE2, 0x82, 0xAC, 0xFF, 0xE2, 0x82, 0x62, 0xED, 0xA0] =
      ['a', '€', replacement, replacement, 'b', replacement, replacement] := by
  decide

end Uncaught.Text
