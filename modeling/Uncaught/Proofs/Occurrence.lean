import Uncaught.Proofs.Place

/-!
What the nodes above an occurrence say about it.

The scopes around a node are the steps into the routines and the parts of try statements on the way
from it up to the file. The routine that encloses it is the innermost node above that defines one,
and the clauses around it are those of the try statements below that routine. Both are said here by
the nodes above alone. `routine?_scopes` and `clauses_scopes` say that reading them off the scopes,
as the checker does, comes to the same. They need that every step comes from the node it is listed
with (`Rooted`), which holds of whatever stands at a place.
-/
namespace Uncaught

namespace Occurrence

/-- The scopes around a node, innermost first. -/
def scopes (o : Occurrence) : ScopePath := o.above.filterMap (·.2)

/-- The innermost routine around a node, with its body. -/
def enclosing? (o : Occurrence) : Option Definition := o.above.findSome? (·.1.definition?)

/-- The clauses of the try statements around a node within its routine: innermost statement first,
clauses in their order. -/
def clauses (o : Occurrence) : List (List String) :=
  ((o.above.map (·.1)).takeWhile (·.definition?.isNone)).flatMap Node.catches

/-- The site that a node within a routine is, if it is one. -/
def site? (file : String) (o : Occurrence) : Option Site := do
  let (position, action) ← o.node.event?
  let enclosing ← o.enclosing?
  return ⟨action, o.scopes, file, enclosing.routine, position⟩

/-- The handler that is called for a node, and the site it is called with. -/
def invocation? (handlers : Handlers) (file : String) (o : Occurrence) :
    Option (Handler × Site) := do
  let kind ← o.node.siteKind?
  let handler ← handlers.handler? kind
  let site ← o.site? file
  return (handler, site)

/-- Every step comes from the node it is listed with. -/
def Rooted (o : Occurrence) : Prop := ∀ e ∈ o.above, ∃ child, (e.2, child) ∈ e.1.children

end Occurrence

/-- The step down from a node enters a routine exactly if the node defines it, and brings the
clauses of the node. -/
theorem Node.step_of_child {node child : Node} {step : Option ScopeStep}
    (h : (step, child) ∈ node.children) :
    step.bind ScopeStep.routine? = node.definition?.map (·.routine) ∧
      (step.bind ScopeStep.catches?).getD [] = node.catches := by
  cases node with
  | routine f body =>
    obtain ⟨_, -, e⟩ := List.mem_map.1 h
    cases e
    exact ⟨rfl, rfl⟩
  | block body =>
    obtain ⟨_, -, e⟩ := List.mem_map.1 h
    cases e
    exact ⟨rfl, rfl⟩
  | tryCatch body clauses final =>
    simp only [children, List.mem_append, List.mem_map, List.mem_flatMap, Prod.mk.injEq] at h
    rcases h with (⟨_, -, rfl, -⟩ | ⟨_, -, _, -, rfl, -⟩) | ⟨_, -, rfl, -⟩ <;> exact ⟨rfl, rfl⟩
  | throw position thrown => simp [children] at h
  | call position c arguments =>
    obtain ⟨_, -, e⟩ := List.mem_map.1 h
    cases e
    exact ⟨rfl, rfl⟩

theorem Node.at?_rooted {node : Node} {above : List (Node × Option ScopeStep)} {place : Place}
    {o : Occurrence} (rooted : Occurrence.Rooted ⟨node, above⟩)
    (h : node.at? above place = some o) : o.Rooted := by
  induction place generalizing node above with
  | nil =>
    cases h
    exact rooted
  | cons i place ih =>
    obtain ⟨child, hc, ho⟩ := Option.bind_eq_some_iff.1 h
    refine ih ?_ ho
    intro e he
    rcases List.mem_cons.1 he with rfl | he
    · exact ⟨child.2, List.mem_of_getElem? hc⟩
    · exact rooted e he

theorem SourceFile.at?_rooted {file : SourceFile} {place : Place} {o : Occurrence}
    (h : file.at? place = some o) : o.Rooted := by
  cases place with
  | nil => cases h
  | cons i place =>
    obtain ⟨item, -, ho⟩ := Option.bind_eq_some_iff.1 h
    exact Node.at?_rooted (fun _ he => absurd he List.not_mem_nil) ho

namespace ScopePath

/-- A step that enters a routine hides those further out. -/
theorem routine?_step (step : Option ScopeStep) (scopes : ScopePath) :
    routine? (step.toList ++ scopes) = (step.bind ScopeStep.routine?).or (routine? scopes) := by
  cases step with
  | none => rfl
  | some step =>
    rw [Option.toList_some, List.singleton_append, Option.bind_some, routine?, List.findSome?_cons]
    cases step.routine? <;> rfl

/-- A step that enters a routine hides the try statements further out, any other adds its own. -/
theorem tries_cons (step : ScopeStep) (scopes : ScopePath) :
    tries (step :: scopes) =
      match step.catches? with
      | none => []
      | some catches => catches :: tries scopes := by
  cases step <;> rfl

/-- A step that enters a routine hides the clauses further out, any other adds its own. -/
theorem clauses_step (step : Option ScopeStep) (scopes : ScopePath) :
    clauses (step.toList ++ scopes) =
      if (step.bind ScopeStep.routine?).isSome then []
      else (step.bind ScopeStep.catches?).getD [] ++ clauses scopes := by
  cases step with
  | none => rfl
  | some step => cases step <;> rfl

end ScopePath

namespace Occurrence

variable {node parent : Node} {step : Option ScopeStep}
  {above : List (Node × Option ScopeStep)} {o : Occurrence}

theorem scopes_cons (inner : Node) :
    scopes ⟨node, (parent, step) :: above⟩ = step.toList ++ scopes ⟨inner, above⟩ := by
  cases step <;> rfl

theorem enclosing?_cons (inner : Node) :
    enclosing? ⟨node, (parent, step) :: above⟩ =
      parent.definition?.or (enclosing? ⟨inner, above⟩) := by
  rw [enclosing?, List.findSome?_cons]
  cases parent.definition? <;> rfl

theorem clauses_cons (inner : Node) :
    clauses ⟨node, (parent, step) :: above⟩ =
      if parent.definition?.isSome then [] else parent.catches ++ clauses ⟨inner, above⟩ := by
  rw [clauses, List.map_cons, List.takeWhile_cons]
  cases parent.definition? <;> rfl

theorem Rooted.tail (rooted : Rooted ⟨node, (parent, step) :: above⟩) : Rooted ⟨node, above⟩ :=
  fun e he => rooted e (List.mem_cons_of_mem _ he)

/-- The innermost routine of the scopes is the one that encloses the node. -/
theorem routine?_scopes (rooted : o.Rooted) :
    ScopePath.routine? o.scopes = o.enclosing?.map (·.routine) := by
  obtain ⟨node, above⟩ := o
  induction above with
  | nil => rfl
  | cons e above ih =>
    -- The step and the node above it agree on whether a routine is entered here.
    obtain ⟨parent, step⟩ := e
    obtain ⟨child, hc⟩ := rooted (parent, step) List.mem_cons_self
    rw [scopes_cons node, ScopePath.routine?_step, (Node.step_of_child hc).1,
      ih rooted.tail, enclosing?_cons node]
    cases parent.definition? <;> rfl

/-- The clauses read off the scopes are those of the try statements around the node within its
routine. -/
theorem clauses_scopes (rooted : o.Rooted) : ScopePath.clauses o.scopes = o.clauses := by
  obtain ⟨node, above⟩ := o
  induction above with
  | nil => rfl
  | cons e above ih =>
    obtain ⟨parent, step⟩ := e
    obtain ⟨child, hc⟩ := rooted (parent, step) List.mem_cons_self
    obtain ⟨enters, brings⟩ := Node.step_of_child hc
    rw [scopes_cons node, ScopePath.clauses_step, enters, brings, ih rooted.tail,
      clauses_cons node, Option.isSome_map]

end Occurrence

end Uncaught
