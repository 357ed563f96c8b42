import Uncaught.Check.Contracts
import Uncaught.Check.Walk

/-!
Sessions: a configuration in force over many checks.

A session keeps the handlers and the ignored types. The texts that write the ignored types are
parsed when the types are asked for the first time and kept until the session is reset or reloaded.
Files are checked one by one or in a batch, and a batch leaves the reports of its files in their
order.
-/
namespace Uncaught

/-- The types that some texts write. Blank and malformed ones write none. -/
def parseIgnored (types : TypeSet) : List String → Noted TypeSet
  | [] => pure types
  | source :: rest =>
    if Text.trim source = "" then parseIgnored types rest
    else do
      let parsed ← TypeSet.parse source
      parseIgnored (types.union parsed) rest

/-- The ignored types: as configured, and as parsed if they have been asked for. -/
structure IgnoredTypes where
  configured : List String
  parsed : Option TypeSet
deriving DecidableEq

namespace IgnoredTypes

/-- A list that has not been parsed yet. -/
def ofTexts (configured : List String) : IgnoredTypes := ⟨configured, none⟩

/-- The types of the list: the parsed ones if there are any, or what the texts write. -/
def types (list : IgnoredTypes) : Noted TypeSet :=
  match list.parsed with
  | some types => pure types
  | none => parseIgnored TypeSet.empty list.configured

def isInitialized (list : IgnoredTypes) : Bool := list.parsed.isSome

/-- The list after its types have been asked for. -/
def initialized (list : IgnoredTypes) : IgnoredTypes :=
  { list with parsed := some list.types.value }

/-- The list with its parsed types forgotten. -/
def reset (list : IgnoredTypes) : IgnoredTypes := { list with parsed := none }

end IgnoredTypes

/-- A configuration in force. -/
structure Session where
  ignored : IgnoredTypes
  handlers : Handlers

/-- What a check of one file has found. -/
structure FileResult where
  path : String
  diagnostics : List Diagnostic
  stats : Stats
deriving DecidableEq, Repr

/-- What a check of several files has found. -/
structure BatchResult where
  files : List FileResult
  stats : Stats
deriving DecidableEq, Repr

namespace BatchResult

def diagnostics (batch : BatchResult) : List Diagnostic := batch.files.flatMap (·.diagnostics)

def violationCount (batch : BatchResult) : Nat :=
  batch.files.foldl (fun count file => count + file.diagnostics.length) 0

/-- The reports of files, with their statistics added up. -/
def ofFiles (files : List FileResult) : BatchResult :=
  ⟨files, files.foldl (fun stats file => stats.merge file.stats) Stats.zero⟩

end BatchResult

namespace Session

def ofHandlers (ignored : List String) (handlers : Handlers) : Session :=
  ⟨IgnoredTypes.ofTexts ignored, handlers⟩

def ofConfig (config : Config) : Session :=
  ofHandlers config.ignoredExceptionTypes (Handlers.ofConfig config)

/-- What handlers may ask in a session. -/
def input (session : Session) (program : Program) : CheckInput := ⟨program, session.ignored.types⟩

/-- The session after the ignored types have been asked for. -/
def initialized (session : Session) : Session :=
  { session with ignored := session.ignored.initialized }

/-- The session after checks with some report. -/
def after (session : Session) (report : Report) : Session :=
  if report.askedIgnored then session.initialized else session

def report (session : Session) (program : Program) (file : SourceFile) : Report :=
  reportFile (session.input program) session.handlers file

/-- What a report says of a file. -/
def fileReport (file : SourceFile) (report : Report) : FileResult :=
  ⟨file.path, report.diagnostics, report.stats⟩

def check (session : Session) (program : Program) (file : SourceFile) :
    Noted (FileResult × Session) :=
  let report := session.report program file
  ⟨(fileReport file report, session.after report), report.mentions⟩

def checkAll (session : Session) (program : Program) (files : List SourceFile) :
    Noted (BatchResult × Session) :=
  let reports := files.map fun file => (file, session.report program file)
  let whole := reports.foldl (fun whole report => whole ++ report.2) (∅ : Report)
  ⟨(BatchResult.ofFiles (reports.map fun (file, report) => fileReport file report),
    session.after whole), whole.mentions⟩

def ignoredTypes (session : Session) : Noted (TypeSet × Session) := do
  let types ← session.ignored.types
  return (types, session.initialized)

def reset (session : Session) : Session := { session with ignored := session.ignored.reset }

def reload (_ : Session) (config : Config) : Session := ofConfig config

end Session

end Uncaught
