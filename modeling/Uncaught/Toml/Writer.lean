import Uncaught.Text.Pieces

/-!
Writing TOML strings and arrays of strings.

A string is written in the first form that shows it without escapes: on one line between double
quotes, on one line between apostrophes, between three double quotes, between three apostrophes. If
none does, it is written with escapes between double quotes, three of them if it has line breaks.
The forms with three quotes start on a new line if the string has line breaks. An array of several
strings has one of them per line.
-/
namespace Uncaught.Toml

/-- Whether a character is a control character other than a tab or a line feed. -/
def isControl (c : Char) : Bool :=
  (c < ' ' && c ≠ '\t' && c ≠ '\n') || c = '\x7f'

/-- The length of the longest run of a character, if a run of some length has just been seen. -/
def longestRun (c : Char) (run : Nat) : List Char → Nat
  | [] => run
  | d :: rest => if d = c then longestRun c (run + 1) rest else max run (longestRun c 0 rest)

def hexDigit (n : Nat) : Char := Char.ofNat (if n < 10 then '0'.toNat + n else 'A'.toNat + (n - 10))

/-- The escape sequence of a control character, a quote or a backslash. -/
def escape (c : Char) : List Char :=
  if c = '\x08' then ['\\', 'b']
  else if c = '\t' then ['\\', 't']
  else if c = '\n' then ['\\', 'n']
  else if c = '\x0c' then ['\\', 'f']
  else if c = '\r' then ['\\', 'r']
  else if c = '"' then ['\\', '"']
  else if c = '\\' then ['\\', '\\']
  else ['\\', 'u', '0', '0', hexDigit (c.toNat / 16), hexDigit (c.toNat % 16)]

/-- The inside of a string between double quotes. In the form of several lines a line feed stands
for itself, and so does a quote unless it is the third one in a row. -/
def escaped (multiline : Bool) (quotes : Nat) : List Char → List Char
  | [] => []
  | c :: rest =>
    if c = '"' then
      if multiline ∧ quotes < 2 then c :: escaped multiline (quotes + 1) rest
      else escape c ++ escaped multiline 0 rest
    else if c = '\n' ∧ multiline then c :: escaped multiline 0 rest
    else if c = '\t' ∨ c = '\n' ∨ c = '\\' ∨ isControl c then escape c ++ escaped multiline 0 rest
    else c :: escaped multiline 0 rest

def quote (text : List Char) : List Char :=
  let control := text.any isControl
  let newline := text.contains '\n'
  let backslash := text.contains '\\'
  let doubles := longestRun '"' 0 text
  let singles := longestRun '\'' 0 text
  let opening (mark : Char) : List Char := [mark, mark, mark] ++ if newline then ['\n'] else []
  if !control && !backslash && doubles = 0 && !newline then
    '"' :: escaped false 0 text ++ ['"']
  else if !control && singles = 0 && !newline then
    '\'' :: text ++ ['\'']
  else if !control && !backslash && doubles ≤ 2 then
    opening '"' ++ escaped true 0 text ++ ['"', '"', '"']
  else if !control && singles ≤ 2 then
    opening '\'' ++ text ++ ['\'', '\'', '\'']
  else if newline then
    opening '"' ++ escaped true 0 text ++ ['"', '"', '"']
  else
    '"' :: escaped false 0 text ++ ['"']

def quoteString (text : String) : String := String.ofList (quote text.toList)

/-- An array of strings: on one line if it has at most one. -/
def writeStrings : List String → String
  | [] => "[]"
  | [text] => "[" ++ quoteString text ++ "]"
  | texts => "[\n" ++ String.join (texts.map fun text => "    " ++ quoteString text ++ ",\n") ++ "]"

end Uncaught.Toml
