import Uncaught.Check.Report
import Uncaught.Program.Resolution

/-!
Sites and what handles them.

A site is a throw or a call together with where it stands: its position, the file, the scopes around
it and the innermost routine. A handler judges one site and adds to the report. It is given what the
contract checks go by, and that is not everything there is: neither the arguments of a call nor the
bodies of the routine and of the clauses around it belong to a site, and what has been counted so
far can neither be read nor taken back. Which handler is called for a site depends on the kind of
the site only.
-/
namespace Uncaught

inductive Action where
  | throw (thrown : Expr)
  | call (call : Call)
deriving DecidableEq, Repr

inductive SiteKind where
  | throw
  | call
  | methodCall
  | staticCall
deriving DecidableEq, Repr

namespace SiteKind

def all : List SiteKind := [throw, call, methodCall, staticCall]

def name : SiteKind → String
  | throw => "Throw"
  | call => "Call"
  | methodCall => "MethodCall"
  | staticCall => "StaticCall"

def ofName? (text : String) : Option SiteKind := all.find? (·.name == text)

end SiteKind

def Action.kind : Action → SiteKind
  | .throw _ => .throw
  | .call (.function _) => .call
  | .call (.method _ _) => .methodCall
  | .call (.static _ _) => .staticCall

/-- A throw or a call, and where it stands. -/
structure Site where
  action : Action
  /-- The scopes around the site, innermost first. -/
  scopes : ScopePath
  file : String
  /-- The innermost routine around the site. -/
  routine : Routine
  position : Position
deriving DecidableEq, Repr

def Site.kind (site : Site) : SiteKind := site.action.kind

/-- What a handler may ask: the program, and the types that are ignored. -/
structure CheckInput where
  program : Program
  ignored : Noted TypeSet

/-- Whether a thrown type, given with its ancestors, is still to be reported when the ignored types
are set aside. -/
def CheckInput.isReportable (input : CheckInput) (lineage : TypeSet) : Check Bool := do
  Logged.write { Report.empty with askedIgnored := true }
  let ignored ← input.ignored
  return ignored.isEmpty || !lineage.castable ignored

abbrev Handler := CheckInput → Site → Check Unit

/-- The handlers of the kinds of sites; a site of a kind without one is passed over. -/
structure Handlers where
  handler? : SiteKind → Option Handler

namespace Handlers

def empty : Handlers := ⟨fun _ => none⟩

/-- Installs a handler for a kind in place of any it had. -/
def register (table : Handlers) (kind : SiteKind) (handler : Handler) : Handlers :=
  ⟨fun k => if k = kind then some handler else table.handler? k⟩

def handles (table : Handlers) (kind : SiteKind) : Bool := (table.handler? kind).isSome

end Handlers

end Uncaught
