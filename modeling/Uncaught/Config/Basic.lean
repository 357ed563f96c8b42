import Uncaught.Text.Blank

/-!
The configuration of a check, and what makes one invalid.
-/
namespace Uncaught

/-- What is checked, and what is ignored. -/
structure Config where
  /-- Whether calls are checked as well as throws; not set means that they are not. -/
  checkInvokedCallables : Option Bool
  /-- Types that need no declaration, together with every type below them. -/
  ignoredExceptionTypes : List String
deriving DecidableEq, Repr

/-- Why there is no configuration. -/
inductive ConfigError where
  /-- A file is not there or is not text. -/
  | fileNotFound (path : String)
  /-- A file is no configuration document. -/
  | parseError (path message : String)
  /-- A setting of the configuration is not admissible. -/
  | validationFailed (field message : String)
  /-- A variable of the surroundings does not have one of the admissible values. -/
  | invalidValue (field message : String)
deriving DecidableEq, Repr

namespace ConfigError

def code : String := "CONFIG_ERROR"

def message : ConfigError → String
  | fileNotFound path => "Config file not found: " ++ path
  | parseError path message => "Config parse error in " ++ path ++ ": " ++ message
  | validationFailed field message => "Config validation failed for " ++ field ++ ": " ++ message
  | invalidValue field message => "Invalid config value for " ++ field ++ ": " ++ message

end ConfigError

namespace Config

def default : Config := ⟨none, []⟩

/-- Whether calls are checked as well as throws. -/
def checksCalls (config : Config) : Bool := config.checkInvokedCallables.getD false

/-- Whether an entry of the ignored types has white space inside. -/
def isSpacedEntry (entry : String) : Bool := (Text.trimChars entry.toList).any Text.isBlank

/-- The error of an entry with white space inside. -/
def entryError (index : Nat) (entry : String) : ConfigError :=
  .validationFailed ("analysis.ignored_exception_types[" ++ Nat.repr index ++ "]")
    ("'" ++ entry ++ "' is not a type name")

/-- Checks entries that are counted from an index on. -/
def validateEntries (index : Nat) : List String → Except ConfigError Unit
  | [] => .ok ()
  | entry :: rest =>
    if isSpacedEntry entry then .error (entryError index entry)
    else validateEntries (index + 1) rest

/-- Refuses the first entry of the ignored types that has white space inside. Blank entries are
admissible: they ignore nothing. -/
def validate (config : Config) : Except ConfigError Unit :=
  validateEntries 0 config.ignoredExceptionTypes

end Config

end Uncaught
