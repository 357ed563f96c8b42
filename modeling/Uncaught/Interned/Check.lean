import Uncaught.Check.Contracts
import Uncaught.Interned.Resolution

/-!
The check of exception contracts by numbers.

A check goes on from a state and leaves another one: the names met so far, the list of the ignored
types, which is parsed when it is asked for the first time, and what has been found in the file.
Only what is reported is written in names.
-/
namespace Uncaught.Interned

/-! ## Ignored types -/

/-- The types that some texts write. Blank and malformed ones write none. -/
def parseIgnored (types : TypeSet) : List String → Interning TypeSet
  | [] => pure types
  | source :: rest =>
    if Text.trim source = "" then parseIgnored types rest
    else do
      let parsed ← TypeSet.parse source
      parseIgnored (types.union parsed) rest

/-- The ignored types: as configured, and as parsed if they have been asked for. -/
structure IgnoredTypes where
  configured : List String
  parsed : Option TypeSet
deriving DecidableEq, Repr

/-- The types of the list, and the list with its types parsed. -/
def IgnoredTypes.get (list : IgnoredTypes) : Interning (TypeSet × IgnoredTypes) :=
  match list.parsed with
  | some types => pure (types, list)
  | none => do
    let types ← parseIgnored TypeSet.empty list.configured
    return (types, { list with parsed := some types })

/-! ## Checks -/

/-- What a check goes on from. -/
structure CheckState where
  names : NameTable
  ignored : IgnoredTypes
  diagnostics : List Diagnostic
  stats : Stats

abbrev Check := StateM CheckState

namespace Check

instance : MonadLift Interning Check :=
  ⟨fun answer => modifyGet fun s =>
    let (a, names) := answer.run s.names
    (a, { s with names })⟩

def count (counter : Counter) : Check Unit :=
  modify fun s => { s with stats := s.stats.add counter 1 }

def emit (d : Diagnostic) : Check Unit :=
  modify fun s => { s with
    diagnostics := s.diagnostics ++ [d]
    stats := s.stats.add .diagnostics 1 }

def abstain (reason : Abstention) : Check Unit :=
  modify fun s => { s with stats := s.stats.addAbstention reason }

def unknownType : Check Unit := count .unknownTypes

/-- The ignored types. -/
def ignoredTypes : Check TypeSet := do
  let (types, ignored) ← (← get).ignored.get
  modify fun s => { s with ignored }
  return types

end Check

/-- Whether a thrown type, given with its ancestors, is still to be reported when the ignored types
are set aside. -/
def Program.isReportable (p : Program) (lineage : TypeSet) : Check Bool := do
  let ignored ← Check.ignoredTypes
  return ignored.isEmpty || !p.castable lineage ignored

abbrev Handler := Program → Site → Check Unit

/-- The handlers of the kinds of sites; a site of a kind without one is passed over. -/
structure Handlers where
  handler? : SiteKind → Option Handler

namespace Handlers

def empty : Handlers := ⟨fun _ => none⟩

/-- Installs a handler for a kind in place of any it had. -/
def register (table : Handlers) (kind : SiteKind) (handler : Handler) : Handlers :=
  ⟨fun k => if k = kind then some handler else table.handler? k⟩

end Handlers

/-! ## Catch clauses -/

/-- The part of a set that escapes clauses, which are given by the types they name as written. -/
def Program.escaping (p : Program) (types : TypeSet) : List (List String) → Interning TypeSet
  | [] => pure types
  | clause :: rest =>
    if types.isEmpty then pure types
    else do
      let caught ← TypeSet.parseAll TypeSet.empty clause
      p.escaping (types.filter fun t => !p.covers caught t) rest

/-! ## Contracts -/

/-- The violation by a type of the contract of the function around a site. -/
def violation (names : NameTable) (site : Site) (function : Callable) (contract : Contract)
    (invoked : Option Callable) (t : TypeRef) : Diagnostic where
  kind :=
    match contract with
    | .undeclared => .ofAbsence invoked.isSome
    | .declared _ => .ofMismatch invoked.isSome
  file := site.file
  line := site.position.line
  column := site.position.column
  function := function.name
  thrownType := (TypeSet.singleton t).render names
  invoked := invoked.map (·.name)
  declared := contract.declared?.map (TypeSet.render names)

/-- Whether a contract admits a thrown type, given with its ancestors. -/
def Program.admits (p : Program) (contract : Contract) (lineage : TypeSet) : Bool :=
  match contract with
  | .undeclared => false
  | .declared types => p.castable lineage types

/-- Judges one escaping type. -/
def reportType (p : Program) (site : Site) (function : Callable) (contract : Contract)
    (invoked : Option Callable) (t : TypeRef) : Check Unit := do
  let lineage := p.hierarchy.withAncestors t
  if ← p.isReportable lineage then
    if p.admits contract lineage then pure ()
    else
      let s ← get
      Check.emit (violation s.names site function contract invoked t)

/-- Judges the types that escape the function around a site. -/
def reportEscaping (p : Program) (site : Site) (escaping : TypeSet) (invoked : Option Callable) :
    Check Unit :=
  if escaping.isEmpty then pure ()
  else do
    let function ← p.callableOf site.routine
    let contract := p.contract function
    escaping.members.forM (reportType p site function contract invoked)

/-- Judges the types that may be thrown at a site. -/
def reportThrown (p : Program) (site : Site) (candidates : TypeSet) (invoked : Option Callable) :
    Check Unit := do
  let escaping ← p.escaping candidates (ScopePath.clauses site.scopes)
  reportEscaping p site escaping invoked

def checkThrow : Handler := fun p site =>
  match site.action with
  | .throw thrown => do
    Check.count .throwSites
    let types ← p.typesOf site.routine thrown
    if types.isEmpty then Check.unknownType else reportThrown p site types none
  | _ => pure ()

/-- Checks a call of a known target by the target's contract. -/
def checkTarget (p : Program) (site : Site) (target : Callable) : Check Unit :=
  let candidates := (p.contract target).candidates
  if candidates.isEmpty then pure () else reportThrown p site candidates (some target)

/-- Checks a call of a function: every target on its own. -/
def checkCall : Handler := fun p site =>
  match site.action with
  | .call (.function callee) => do
    Check.count .callSites
    match p.callTargets site.routine callee with
    | .ok targets => targets.forM (checkTarget p site)
    | .error reason => Check.abstain reason
  | _ => pure ()

/-- Checks a call of a method that has been looked up. -/
def checkMethod (p : Program) (site : Site) : Except Abstention Callable → Check Unit
  | .ok target => checkTarget p site target
  | .error reason => Check.abstain reason

/-- Checks a call of a method of an object. -/
def checkMethodCall : Handler := fun p site =>
  match site.action with
  | .call (.method receiver method) => do
    Check.count .callSites
    match method.known? with
    | none => Check.abstain .unresolvable
    | some name => checkMethod p site (← p.methodTarget site.routine receiver name .object)
  | _ => pure ()

/-- Checks a call of a method of a class, looked up forgivingly. -/
def checkStaticCall : Handler := fun p site =>
  match site.action with
  | .call (.static className name) => do
    Check.count .callSites
    checkMethod p site (← p.methodTarget site.routine className name (.static true))
  | _ => pure ()

namespace Handlers

def throwsOnly : Handlers := empty.register .throw checkThrow

def withCalls : Handlers :=
  ((throwsOnly.register .call checkCall).register .methodCall checkMethodCall).register
    .staticCall checkStaticCall

/-- What a configuration asks to be checked. -/
def ofConfig (config : Config) : Handlers := if config.checksCalls then withCalls else throwsOnly

end Handlers

end Uncaught.Interned
