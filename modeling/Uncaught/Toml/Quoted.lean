import Uncaught.Toml.Number

/-!
TOML strings.

Basic strings stand between double quotes and have escapes, literal strings stand between
apostrophes and have none. With three quotes on either side a string may have line breaks: one right
after the opening is left out, a line break of two characters counts as one, and up to two quotes
may stand before the closing ones. In a basic string of this kind a backslash at the end of a line
takes away the white space up to the next character.

The readers here start after the opening quotes and give the string and the text after it.
-/
namespace Uncaught.Toml

/-- Whether a character may stand in a comment or, quotes and backslashes aside, in a string on one
line: not a control character, unless it is a tab. -/
def isInline (c : Char) : Bool := c = '\t' || (' ' ≤ c && c ≠ '\x7f')

/-- The character of a code point written in hexadecimal digits. -/
def scalar? (digits : List Char) : Option Char :=
  let n := digitsValue 16 digits
  if h : digits.all isHexDigit ∧ n.isValidChar then some (Char.ofNatAux n h.2) else none

/-- The character of an escape sequence after its backslash, and the text behind it. -/
def escape? : List Char → Option (Char × List Char)
  | 'b' :: rest => some ('\x08', rest)
  | 't' :: rest => some ('\t', rest)
  | 'n' :: rest => some ('\n', rest)
  | 'f' :: rest => some ('\x0c', rest)
  | 'r' :: rest => some ('\r', rest)
  | '"' :: rest => some ('"', rest)
  | '\\' :: rest => some ('\\', rest)
  | 'u' :: a :: b :: c :: d :: rest => (scalar? [a, b, c, d]).map (·, rest)
  | 'U' :: a :: b :: c :: d :: e :: f :: g :: h :: rest =>
    (scalar? [a, b, c, d, e, f, g, h]).map (·, rest)
  | _ => none

theorem length_escape? {cs : List Char} {c : Char} {rest : List Char}
    (h : escape? cs = some (c, rest)) : rest.length < cs.length := by
  unfold escape? at h
  split at h <;> simp at h <;> simp only [List.length_cons] <;> grind

/-- Puts a character in front of a string that has been read. -/
def onto (c : Char) (read : Option (List Char × List Char)) : Option (List Char × List Char) :=
  read.map fun (text, rest) => (c :: text, rest)

def basic? (cs : List Char) : Option (List Char × List Char) :=
  match cs with
  | [] => none
  | '"' :: rest => some ([], rest)
  | '\\' :: rest =>
    match h : escape? rest with
    | none => none
    | some (c, rest) =>
      have := length_escape? h
      onto c (basic? rest)
  | c :: rest => if isInline c then onto c (basic? rest) else none
termination_by cs.length

def literal? : List Char → Option (List Char × List Char)
  | [] => none
  | '\'' :: rest => some ([], rest)
  | c :: rest => if isInline c then onto c (literal? rest) else none

/-- A text from its first character on that is neither a blank nor part of a line break. -/
def skipLines : List Char → List Char
  | ' ' :: rest => skipLines rest
  | '\t' :: rest => skipLines rest
  | '\n' :: rest => skipLines rest
  | '\r' :: '\n' :: rest => skipLines rest
  | cs => cs

theorem length_skipLines (cs : List Char) : (skipLines cs).length ≤ cs.length := by
  fun_induction skipLines cs <;> simp_all <;> omega

/-- A text from its first character on that is no blank. -/
def skipBlanks (cs : List Char) : List Char := cs.dropWhile fun c => c = ' ' || c = '\t'

theorem length_skipBlanks (cs : List Char) : (skipBlanks cs).length ≤ cs.length :=
  (List.dropWhile_sublist _).length_le

def newline? : List Char → Option (List Char)
  | '\n' :: rest => some rest
  | '\r' :: '\n' :: rest => some rest
  | _ => none

theorem length_newline? {cs rest : List Char} (h : newline? cs = some rest) :
    rest.length < cs.length := by
  unfold newline? at h
  split at h <;> simp at h <;> subst h <;> simp only [List.length_cons] <;> omega

def multilineBasic? (cs : List Char) : Option (List Char × List Char) :=
  match cs with
  | [] => none
  | '"' :: '"' :: '"' :: '"' :: '"' :: rest => some (['"', '"'], rest)
  | '"' :: '"' :: '"' :: '"' :: rest => some (['"'], rest)
  | '"' :: '"' :: '"' :: rest => some ([], rest)
  | '"' :: rest => onto '"' (multilineBasic? rest)
  | '\\' :: rest =>
    match hn : newline? (skipBlanks rest) with
    | some rest' =>
      have := length_newline? hn
      have := length_skipBlanks rest
      have := length_skipLines rest'
      multilineBasic? (skipLines rest')
    | none =>
      match he : escape? rest with
      | none => none
      | some (c, rest) =>
        have := length_escape? he
        onto c (multilineBasic? rest)
  | '\n' :: rest => onto '\n' (multilineBasic? rest)
  | '\r' :: '\n' :: rest => onto '\n' (multilineBasic? rest)
  | c :: rest => if isInline c then onto c (multilineBasic? rest) else none
termination_by cs.length

def multilineLiteral? : List Char → Option (List Char × List Char)
  | [] => none
  | '\'' :: '\'' :: '\'' :: '\'' :: '\'' :: rest => some (['\'', '\''], rest)
  | '\'' :: '\'' :: '\'' :: '\'' :: rest => some (['\''], rest)
  | '\'' :: '\'' :: '\'' :: rest => some ([], rest)
  | '\n' :: rest => onto '\n' (multilineLiteral? rest)
  | '\r' :: '\n' :: rest => onto '\n' (multilineLiteral? rest)
  | c :: rest => if isInline c then onto c (multilineLiteral? rest) else none

/-- A text without the line break it may start with. -/
def afterNewline (cs : List Char) : List Char := (newline? cs).getD cs

def quoted? : List Char → Option (List Char × List Char)
  | '"' :: '"' :: '"' :: rest => multilineBasic? (afterNewline rest)
  | '"' :: rest => basic? rest
  | '\'' :: '\'' :: '\'' :: rest => multilineLiteral? (afterNewline rest)
  | '\'' :: rest => literal? rest
  | _ => none

end Uncaught.Toml
