import Uncaught.Config.Document
import Uncaught.Text.Pieces
import Uncaught.Text.Utf8

/-!
Loading the configuration of a project.

Five layers are put on top of each other: nothing set, the user's file, the project's file, two
variables of the surroundings, and what the caller overrides. A file overrides a setting only where
it has one, and an empty list of ignored types counts as none; a variable and an override count even
if the list is empty. A user's file that cannot be read is passed over, one that is malformed is an
error, and the project's file must be readable and well formed if it exists. Only the result of all
layers is checked. How the text of a file is decoded matters to none of this (`Config.loadWith`).
-/
namespace Uncaught

/-- What there is at a path. -/
inductive FileState where
  | absent
  /-- Something that cannot be read as a file. -/
  | unreadable
  | bytes (content : ByteArray)

/-- What loading may ask of the machine. -/
structure Surroundings where
  /-- The bytes of a variable, if it is set. -/
  bytesOf? : String → Option ByteArray
  /-- What there is at a path, which is given as it is shown. -/
  file : String → FileState

/-- What a caller sets in place of every other layer. -/
structure ConfigOverrides where
  checkInvokedCallables : Option Bool
  ignoredExceptionTypes : Option (List String)
deriving DecidableEq, Repr

namespace Surroundings

/-- The text of a variable; one whose bytes are no text counts as not set. -/
def text? (s : Surroundings) (name : String) : Option String :=
  (s.bytesOf? name).bind String.fromUTF8?

/-- The home directory. A path that is no text is a path all the same. -/
def home? (s : Surroundings) : Option String :=
  ((s.bytesOf? "HOME").or (s.bytesOf? "USERPROFILE")).map Text.shown

end Surroundings

namespace FileState

def text? : FileState → Option String
  | bytes content => String.fromUTF8? content
  | absent | unreadable => none

end FileState

namespace Config

def projectFileName : String := "throwscan.toml"

/-- Where a user's configuration file is in the home directory. -/
def userFileName : String := ".throwscan/config.toml"

/-- A path that is given relative to a directory. No separator is put behind one, nor behind the
empty path. -/
def inDirectory (directory path : String) : String :=
  match directory.toList.getLast? with
  | none | some '/' => directory ++ path
  | some _ => directory ++ "/" ++ path

/-- The variable that tells whether calls are checked. -/
def checkVariable : String := "THROWSCAN_CHECK_INVOKED_CALLABLES"

/-- The variable that lists the ignored types. -/
def ignoredVariable : String := "THROWSCAN_IGNORED_EXCEPTION_TYPES"

/-- A configuration with the settings of another one where that has any. -/
def overlay (base top : Config) : Config where
  checkInvokedCallables := top.checkInvokedCallables.or base.checkInvokedCallables
  ignoredExceptionTypes :=
    if top.ignoredExceptionTypes.isEmpty then base.ignoredExceptionTypes
    else top.ignoredExceptionTypes

section

variable (decode : Decoder)

def mergeFile (base : Config) (path : String) (file : FileState) : Except ConfigError Config :=
  match file.text? with
  | none => .error (.fileNotFound path)
  | some text => base.overlay <$> parseWith decode path text

/-- Puts the user's file on top, if there is one that can be read. -/
def mergeUserFile (base : Config) (path : String) (file : FileState) : Except ConfigError Config :=
  match file.text? with
  | none => .ok base
  | some text => base.overlay <$> parseWith decode path text

/-- Puts the project's file on top, if there is one. -/
def mergeProjectFile (base : Config) (path : String) : FileState → Except ConfigError Config
  | .absent => .ok base
  | file => base.mergeFile decode path file

end

/-- The truth value that a variable holds. -/
def variableBoolean (text : String) : Except ConfigError Bool :=
  match Text.trim text with
  | "true" => .ok true
  | "false" => .ok false
  | _ => .error (.invalidValue checkVariable ("expected true or false, got '" ++ text ++ "'"))

/-- The entries that a variable lists: what is not blank between its commas. -/
def variableEntries (text : String) : List String :=
  ((Text.split ',' text).map Text.trim).filter (· ≠ "")

def mergeVariables (base : Config) (check ignored : Option String) : Except ConfigError Config := do
  let check ← match check with
    | none => pure base.checkInvokedCallables
    | some text => some <$> variableBoolean text
  return ⟨check, (ignored.map variableEntries).getD base.ignoredExceptionTypes⟩

def override (base : Config) (overrides : ConfigOverrides) : Config where
  checkInvokedCallables := overrides.checkInvokedCallables.or base.checkInvokedCallables
  ignoredExceptionTypes := overrides.ignoredExceptionTypes.getD base.ignoredExceptionTypes

/-- The configuration of the project in a directory, if files are read by some decoder. -/
def loadWith (decode : Decoder) (s : Surroundings) (root : String)
    (overrides : Option ConfigOverrides) : Except ConfigError Config := do
  let config ← match s.home? with
    | none => pure default
    | some home =>
      let path := inDirectory home userFileName
      default.mergeUserFile decode path (s.file path)
  let path := inDirectory root projectFileName
  let config ← config.mergeProjectFile decode path (s.file path)
  let config ← config.mergeVariables (s.text? checkVariable) (s.text? ignoredVariable)
  let config := (overrides.map config.override).getD config
  config.validate
  return config

/-- The configuration of the project in a directory. -/
def load (s : Surroundings) (root : String) (overrides : Option ConfigOverrides) :
    Except ConfigError Config :=
  loadWith decode s root overrides

end Config

end Uncaught
