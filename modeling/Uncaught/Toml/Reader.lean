import Uncaught.Toml.Datetime
import Uncaught.Toml.Quoted
import Uncaught.Toml.Table

/-!
Reading TOML documents.

A document is read line by line into entries, and its tables are built from these. Arrays may
stretch over several lines and have comments in them, inline tables may not. Values may be nested,
and keys dotted, to less than eighty levels.

Readers take the text from where they start and give what they have read and the text after it.
Those that read a list of things take a number of rounds as well, for which the length of the text
is enough, since every round takes at least one character.
-/
namespace Uncaught.Toml

/-- The least depth of values and keys that is refused. -/
def depthLimit : Nat := 80

/-- Whether a character may stand in a key without quotes. -/
def isBare (c : Char) : Bool := c.isAlphanum || c = '-' || c = '_'

def keyPart? : List Char → Option (String × List Char)
  | '"' :: rest => (basic? rest).map fun (text, rest) => (String.ofList text, rest)
  | '\'' :: rest => (literal? rest).map fun (text, rest) => (String.ofList text, rest)
  | cs =>
    let bare := cs.takeWhile isBare
    if bare = [] then none else some (String.ofList bare, cs.dropWhile isBare)

/-- Reads the parts of a dotted key, blanks around them included. -/
def keyParts? : Nat → List Char → Option (List String × List Char)
  | 0, _ => none
  | rounds + 1, cs => do
    let (part, cs) ← keyPart? (skipBlanks cs)
    match skipBlanks cs with
    | '.' :: cs =>
      let (parts, cs) ← keyParts? rounds cs
      return (part :: parts, cs)
    | cs => return ([part], cs)

def key? (cs : List Char) : Option (List String × List Char) := do
  let (path, rest) ← keyParts? cs.length cs
  if path.length < depthLimit then some (path, rest) else none

/-- Whether a character occurs in words: numbers, times and names of values. -/
def isWordChar (c : Char) : Bool :=
  c.isAlphanum || c = '+' || c = '-' || c = '.' || c = ':' || c = '_'

/-- Reads a word. A blank after a date belongs to it if a time follows. -/
def word (cs : List Char) : List Char × List Char :=
  let date := cs.takeWhile isWordChar
  match afterDate? date, cs.dropWhile isWordChar with
  | some [], ' ' :: a :: b :: ':' :: rest =>
    if a.isDigit && b.isDigit then
      let time := a :: b :: ':' :: rest
      (date ++ ' ' :: time.takeWhile isWordChar, time.dropWhile isWordChar)
    else (date, ' ' :: a :: b :: ':' :: rest)
  | _, rest => (date, rest)

def wordValue? (cs : List Char) : Option Value :=
  if cs = ['t', 'r', 'u', 'e'] then some (.boolean true)
  else if cs = ['f', 'a', 'l', 's', 'e'] then some (.boolean false)
  else if isDatetime cs then some (.datetime (String.ofList cs))
  else if isFloat cs then some (.float (String.ofList cs))
  else (integer? cs).map .integer

/-- Reads a value that is neither an array nor an inline table. -/
def simpleValue? (cs : List Char) : Option (Value × List Char) :=
  match cs with
  | '"' :: _ | '\'' :: _ =>
    (quoted? cs).map fun (text, rest) => (.string (String.ofList text), rest)
  | _ =>
    let (text, rest) := word cs
    (wordValue? text).map (·, rest)

/-- The text after blanks, line breaks and comments; `inComment` tells whether it starts in one. A
comment has to end with a line break. -/
def gap? (inComment : Bool) : List Char → Option (List Char)
  | '\n' :: rest => gap? false rest
  | '\r' :: '\n' :: rest => gap? false rest
  | [] => if inComment then none else some []
  | c :: rest =>
    if inComment then if isInline c then gap? true rest else none
    else if c = ' ' || c = '\t' then gap? false rest
    else if c = '#' then gap? true rest
    else some (c :: rest)

/-- Reads the values of an array up to its closing bracket. -/
def items? (value? : List Char → Option (Value × List Char)) :
    Nat → List Char → Option (List Value × List Char)
  | 0, _ => none
  | rounds + 1, cs => do
    match ← gap? false cs with
    | ']' :: rest => return ([], rest)
    | cs =>
      let (value, cs) ← value? cs
      match ← gap? false cs with
      | ',' :: cs =>
        let (values, cs) ← items? value? rounds cs
        return (value :: values, cs)
      | ']' :: cs => return ([value], cs)
      | _ => none

/-- Reads a key and its value. -/
def keyValue? (value? : List Char → Option (Value × List Char)) (cs : List Char) :
    Option ((List String × Value) × List Char) := do
  let (path, cs) ← key? cs
  match cs with
  | '=' :: cs =>
    let (value, cs) ← value? (skipBlanks cs)
    return ((path, value), cs)
  | _ => none

/-- Reads the keys and values of an inline table up to its closing brace. -/
def pairs? (value? : List Char → Option (Value × List Char)) :
    Nat → List Char → Option (List (List String × Value) × List Char)
  | 0, _ => none
  | rounds + 1, cs => do
    let (pair, cs) ← keyValue? value? cs
    match skipBlanks cs with
    | ',' :: cs =>
      let (pairs, cs) ← pairs? value? rounds cs
      return (pair :: pairs, cs)
    | '}' :: cs => return ([pair], cs)
    | _ => none

/-- Reads a value that is nested to at most some levels. -/
def value? : Nat → List Char → Option (Value × List Char)
  | 0, cs => simpleValue? cs
  | levels + 1, '[' :: rest => do
    let (values, rest) ← items? (value? levels) (rest.length + 1) rest
    return (.array values, rest)
  | levels + 1, '{' :: rest =>
    match skipBlanks rest with
    | '}' :: rest => some (.table .inline [], rest)
    | cs => do
      let (pairs, rest) ← pairs? (value? levels) cs.length cs
      let fields ← Fields.ofInline? [] pairs
      return (.table .inline fields, rest)
  | _, cs => simpleValue? cs

/-- The text after the end of a line, which may have a comment and may be the end of the text. -/
def lineEnd? (cs : List Char) : Option (List Char) :=
  let rest :=
    match skipBlanks cs with
    | '#' :: comment => comment.dropWhile isInline
    | cs => cs
  if rest = [] then some [] else newline? rest

/-- Reads a header after its opening brackets. -/
def header? (closing : List Char) (cs : List Char) : Option (List String × List Char) := do
  let (path, cs) ← key? cs
  if closing.isPrefixOf cs then some (path, cs.drop closing.length) else none

/-- Reads one line: an entry, or nothing if the line is blank. -/
def line? (cs : List Char) : Option (Option Entry × List Char) := do
  match skipBlanks cs with
  | '[' :: '[' :: rest =>
    let (path, rest) ← header? [']', ']'] rest
    return (some (.row path), ← lineEnd? rest)
  | '[' :: rest =>
    let (path, rest) ← header? [']'] rest
    return (some (.header path), ← lineEnd? rest)
  | cs =>
    match lineEnd? cs with
    | some rest => return (none, rest)
    | none =>
      let ((path, value), rest) ← keyValue? (value? (depthLimit - 1)) cs
      return (some (.keyValue path value), ← lineEnd? rest)

/-- Reads the lines of a document. -/
def lines? : Nat → List Char → Option (List Entry)
  | _, [] => some []
  | 0, _ => none
  | rounds + 1, cs => do
    let (entry, rest) ← line? cs
    return entry.toList ++ (← lines? rounds rest)

/-- A text without the byte order mark it may start with. -/
def afterMark : List Char → List Char
  | '\ufeff' :: rest => rest
  | cs => cs

/-- The fields of a document, if the text is one. -/
def parse? (text : String) : Option Fields :=
  let cs := afterMark text.toList
  (lines? cs.length cs).bind (Fields.ofEntries? [] [])

end Uncaught.Toml
