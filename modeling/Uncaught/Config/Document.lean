import Uncaught.Config.Basic
import Uncaught.Toml.Reader
import Uncaught.Toml.Writer

/-!
Configurations as TOML documents.

The settings stand in the table `analysis`; other keys mean nothing. In place of the table there may
be an array of the settings in their order, the last ones left out and any others behind them
ignored, and a time in its place stands for a table without settings that mean something.
-/
namespace Uncaught

namespace Config

def boolean? : Toml.Value → Option Bool
  | .boolean value => some value
  | _ => none

def string? : Toml.Value → Option String
  | .string text => some text
  | _ => none

def strings? : Toml.Value → Option (List String)
  | .array items => items.mapM string?
  | _ => none

/-- The settings that values write, where there are values. -/
def ofSettings? (check ignored : Option Toml.Value) : Option Config := do
  let check ← match check with
    | none => pure none
    | some value => some <$> boolean? value
  let ignored ← match ignored with
    | none => pure []
    | some value => strings? value
  return ⟨check, ignored⟩

/-- The settings that the value of `analysis` writes. -/
def ofValue? : Toml.Value → Option Config
  | .table _ fields =>
    ofSettings? (fields.lookup "check_invoked_callables") (fields.lookup "ignored_exception_types")
  | .array items => ofSettings? items[0]? items[1]?
  | .datetime _ => some default
  | _ => none

/-- The configuration that a document writes. -/
def ofDocument? (fields : Toml.Fields) : Option Config :=
  match fields.lookup "analysis" with
  | none => some default
  | some value => ofValue? value

/-- A way to read texts as configurations, or to say why they write none. -/
abbrev Decoder := String → Except String Config

/-- The configuration that a text writes. -/
def decode : Decoder := fun text =>
  match Toml.parse? text with
  | none => .error "not a TOML document"
  | some fields =>
    match ofDocument? fields with
    | none => .error "a setting has the wrong type"
    | some config => .ok config

/-- What a decoder reads in the text of a file; the path is for the error. -/
def parseWith (decode : Decoder) (path text : String) : Except ConfigError Config :=
  match decode text with
  | .error message => .error (.parseError path message)
  | .ok config => .ok config

def parse (path text : String) : Except ConfigError Config := parseWith decode path text

/-- The configuration that a text without a file writes, checked. -/
def ofText (text : String) : Except ConfigError Config := do
  let config ← parse "<string>" text
  config.validate
  return config

def booleanText (value : Bool) : String := if value then "true" else "false"

/-- The document that writes a configuration. -/
def toText (config : Config) : String :=
  let check :=
    match config.checkInvokedCallables with
    | none => ""
    | some value => "check_invoked_callables = " ++ booleanText value ++ "\n"
  "[analysis]\n" ++ check ++
    "ignored_exception_types = " ++ Toml.writeStrings config.ignoredExceptionTypes ++ "\n"

end Config

end Uncaught
