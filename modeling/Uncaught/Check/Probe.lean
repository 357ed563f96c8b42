import Uncaught.Check.Contracts

/-!
Handlers that make a walk visible.

They judge nothing: they show where a site stands, whether its types are ignored, or that it was
reached at all.
-/
namespace Uncaught

/-- Shows where a site stands, in the form of a diagnostic. -/
def showSite : Handler := fun input site => do
  let function ← input.program.callableOf site.routine
  let kind := site.kind.name
  Check.emit {
    kind := .ofAbsence (site.kind ≠ .throw)
    file := site.file
    line := site.position.line
    column := site.position.column
    function := function.name
    thrownType :=
      "depth=" ++ Nat.repr site.scopes.length ++
      " within=" ++ Nat.repr (ScopePath.withinRoutine site.scopes).length ++
      " handlers=" ++ Nat.repr (ScopePath.tries site.scopes).length
    invoked := some (kind ++ "/Some(" ++ kind ++ ")")
    declared := none }

/-- Counts a type as a call site if it is not ignored. -/
def countUnlessIgnored (input : CheckInput) (t : NamedType) : Check Unit := do
  if ← input.isReportable (input.program.hierarchy.withAncestors t) then Check.count .callSites

/-- Counts the types of a thrown expression that are not ignored, as call sites. -/
def countNotIgnored : Handler := fun input site =>
  match site.action with
  | .throw thrown => do
    let types ← input.program.typesOf site.routine thrown
    types.members.forM (countUnlessIgnored input)
  | _ => pure ()

def countUnknown : Handler := fun _ _ => Check.unknownType

def giveUp : Handler := fun _ _ => Check.abstain .ambiguous

end Uncaught
