import Uncaught.Check.Session
import Uncaught.Interned.Check

/-!
Sessions by numbers.

A file is walked as it is by name, children first, and every site goes on from the state that the
one before it has left. What a session keeps between files are the ignored types by their numbers.
-/
namespace Uncaught.Interned

/-! ## The walk -/

section

variable (p : Program) (handlers : Handlers) (file : String)

/-- Has a site handled. One outside every routine is passed over. -/
def dispatch (scopes : ScopePath) (position : Position) (action : Action) : Check Unit :=
  match handlers.handler? action.kind, ScopePath.routine? scopes with
  | some handler, some routine => handler p ⟨action, scopes, file, routine, position⟩
  | _, _ => pure ()

mutual

/-- Visits the nodes inside a node, and then the node itself. -/
def visit (scopes : ScopePath) : Node → Check Unit
  | .routine routine body => do
    Check.count .functionsVisited
    walk (.inRoutine routine :: scopes) body
  | .block body => walk scopes body
  | .tryCatch body clauses final => do
    let catches := clauses.map CatchClause.types
    walk (.inTry catches :: scopes) body
    walkClauses scopes catches clauses
    walkFinal (.inFinally catches :: scopes) final
  | .throw position thrown => dispatch p handlers file scopes position (.throw thrown)
  | .call position call arguments => do
    walk scopes arguments
    dispatch p handlers file scopes position (.call call)

def walk (scopes : ScopePath) : List Node → Check Unit
  | [] => pure ()
  | node :: rest => do
    visit scopes node
    walk scopes rest

def walkClauses (scopes : ScopePath) (catches : Catches) : List CatchClause → Check Unit
  | [] => pure ()
  | .mk types body :: rest => do
    walk (.inCatch catches types :: scopes) body
    walkClauses scopes catches rest

/-- Walks the part of a try statement that always runs, if it has one. -/
def walkFinal (scopes : ScopePath) : Option (List Node) → Check Unit
  | none => pure ()
  | some body => walk scopes body

end

end

/-! ## Sessions -/

/-- A configuration in force. -/
structure Session where
  ignored : IgnoredTypes
  handlers : Handlers

namespace Session

def ofHandlers (ignored : List String) (handlers : Handlers) : Session :=
  ⟨⟨ignored, none⟩, handlers⟩

def ofConfig (config : Config) : Session :=
  ofHandlers config.ignoredExceptionTypes (Handlers.ofConfig config)

/-- What a check of a file goes on from: the file is counted already. -/
def start (session : Session) (names : NameTable) : CheckState :=
  ⟨names, session.ignored, [], Stats.zero.add .filesChecked 1⟩

def check (session : Session) (p : Program) (file : SourceFile) :
    Interning (FileResult × Session) :=
  modifyGet fun names =>
    let (_, s) := (walk p session.handlers file.path [] file.items).run (session.start names)
    ((⟨file.path, s.diagnostics, s.stats⟩, { session with ignored := s.ignored }), s.names)

/-- Checks files one after the other. -/
def checkEach (session : Session) (p : Program) :
    List SourceFile → Interning (List FileResult × Session)
  | [] => pure ([], session)
  | file :: rest => do
    let (result, session) ← session.check p file
    let (results, session) ← session.checkEach p rest
    return (result :: results, session)

def checkAll (session : Session) (p : Program) (files : List SourceFile) :
    Interning (BatchResult × Session) := do
  let (results, session) ← session.checkEach p files
  return (BatchResult.ofFiles results, session)

def ignoredTypes (session : Session) : Interning (TypeSet × Session) := do
  let (types, ignored) ← session.ignored.get
  return (types, { session with ignored })

def reset (session : Session) : Session :=
  { session with ignored := { session.ignored with parsed := none } }

def reload (_ : Session) (config : Config) : Session := ofConfig config

end Session

end Uncaught.Interned
