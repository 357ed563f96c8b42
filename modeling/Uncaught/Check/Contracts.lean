import Uncaught.Check.Catching
import Uncaught.Check.Site
import Uncaught.Config.Basic

/-!
The check of exception contracts.

At a throw the types of the thrown expression may escape, at a call the types that the contract of
each target declares. What no clause of an enclosing try statement catches escapes the function, and
every escaping type that is not ignored has to be covered by the function's own contract; each one
that is not is a violation. A throw of unknown types and a call without known target are passed over
and counted.
-/
namespace Uncaught

/-- The violation by a type of the contract of the function around a site. -/
def Site.violation (site : Site) (function : Callable) (contract : Contract)
    (invoked : Option Callable) (t : NamedType) : Diagnostic where
  kind :=
    match contract with
    | .undeclared => .ofAbsence invoked.isSome
    | .declared _ => .ofMismatch invoked.isSome
  file := site.file
  line := site.position.line
  column := site.position.column
  function := function.name
  thrownType := (TypeSet.singleton t).render
  invoked := invoked.map (·.name)
  declared := contract.declared?.map TypeSet.render

/-- Whether a contract admits a thrown type, given with its ancestors. -/
def Contract.admits (contract : Contract) (lineage : TypeSet) : Bool :=
  match contract with
  | .undeclared => false
  | .declared types => lineage.castable types

/-- Judges one escaping type. -/
def reportType (input : CheckInput) (site : Site) (function : Callable) (contract : Contract)
    (invoked : Option Callable) (t : NamedType) : Check Unit := do
  let lineage := input.program.hierarchy.withAncestors t
  if ← input.isReportable lineage then
    if contract.admits lineage then pure ()
    else Check.emit (site.violation function contract invoked t)

/-- Judges the types that escape the function around a site. -/
def reportEscaping (input : CheckInput) (site : Site) (escaping : TypeSet)
    (invoked : Option Callable) : Check Unit :=
  if escaping.isEmpty then pure ()
  else do
    let function ← input.program.callableOf site.routine
    let contract := input.program.contract function
    escaping.members.forM (reportType input site function contract invoked)

/-- Judges the types that may be thrown at a site. -/
def reportThrown (input : CheckInput) (site : Site) (candidates : TypeSet)
    (invoked : Option Callable) : Check Unit := do
  let escaping ← input.program.hierarchy.escaping candidates (ScopePath.clauses site.scopes)
  reportEscaping input site escaping invoked

def checkThrow : Handler := fun input site =>
  match site.action with
  | .throw thrown => do
    Check.count .throwSites
    let types ← input.program.typesOf site.routine thrown
    if types.isEmpty then Check.unknownType else reportThrown input site types none
  | _ => pure ()

/-- Checks a call of a known target by the target's contract. -/
def checkTarget (input : CheckInput) (site : Site) (target : Callable) : Check Unit :=
  let candidates := (input.program.contract target).candidates
  if candidates.isEmpty then pure () else reportThrown input site candidates (some target)

/-- Checks a call of a function: every target on its own. -/
def checkCall : Handler := fun input site =>
  match site.action with
  | .call (.function callee) => do
    Check.count .callSites
    match input.program.callTargets site.routine callee with
    | .ok targets => targets.forM (checkTarget input site)
    | .error reason => Check.abstain reason
  | _ => pure ()

/-- The name of a called method, if it is known. -/
def MethodSelector.known? : MethodSelector → Option String
  | .literal name => some name
  | .dynamic value => value.stringValue?

/-- Checks a call of a method that has been looked up. -/
def checkMethod (input : CheckInput) (site : Site) : Except Abstention Callable → Check Unit
  | .ok target => checkTarget input site target
  | .error reason => Check.abstain reason

/-- Checks a call of a method of an object. -/
def checkMethodCall : Handler := fun input site =>
  match site.action with
  | .call (.method receiver method) => do
    Check.count .callSites
    match method.known? with
    | none => Check.abstain .unresolvable
    | some name =>
      checkMethod input site (← input.program.methodTarget site.routine receiver name .object)
  | _ => pure ()

/-- Checks a call of a method of a class, looked up forgivingly. -/
def checkStaticCall : Handler := fun input site =>
  match site.action with
  | .call (.static className name) => do
    Check.count .callSites
    checkMethod input site (← input.program.methodTarget site.routine className name (.static true))
  | _ => pure ()

namespace Handlers

def throwsOnly : Handlers := empty.register .throw checkThrow

def withCalls : Handlers :=
  ((throwsOnly.register .call checkCall).register .methodCall checkMethodCall).register
    .staticCall checkStaticCall

/-- What a configuration asks to be checked. -/
def ofConfig (config : Config) : Handlers := if config.checksCalls then withCalls else throwsOnly

end Handlers

end Uncaught
