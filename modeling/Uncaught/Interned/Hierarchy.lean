import Uncaught.Hierarchy
import Uncaught.Interned.TypeSet

/-!
The type hierarchy by numbers.

Ancestors are searched breadth first, as they are by name. A type is discovered when it is met for
the first time, and then it is queued; so each is queued once, and the search ends when the queue
has run empty.
-/
namespace Uncaught.Interned

/-- Known types, and the edges from child to parent, newest first. -/
structure Hierarchy where
  types : List TypeId
  edges : List (TypeId × TypeId)
deriving DecidableEq, Repr

/-- The types that are met for the first time, in their order. -/
def discovered (met : List TypeId) : List TypeId → List TypeId
  | [] => []
  | t :: rest => if t ∈ met then discovered met rest else t :: discovered (met ++ [t]) rest

theorem mem_discovered {met types : List TypeId} {t : TypeId} :
    t ∈ discovered met types ↔ t ∈ types ∧ t ∉ met := by
  induction types generalizing met with
  | nil => simp [discovered]
  | cons u types ih =>
    by_cases known : u ∈ met
    · rw [discovered, if_pos known, ih, List.mem_cons]
      refine and_congr_left fun new => (or_iff_right ?_).symm
      rintro rfl
      exact new known
    · rw [discovered, if_neg known, List.mem_cons, ih, List.mem_cons, List.mem_append,
        List.mem_singleton]
      by_cases same : t = u
      · simp [same, known]
      · simp [same]

theorem nodup_discovered (met types : List TypeId) : (discovered met types).Nodup := by
  induction types generalizing met with
  | nil => exact List.nodup_nil
  | cons t types ih =>
    rw [discovered]
    split
    next => exact ih met
    next =>
      refine List.nodup_cons.2 ⟨fun again => ?_, ih (met ++ [t])⟩
      exact (mem_discovered.1 again).2 (List.mem_append_right met List.mem_cons_self)

namespace Hierarchy

def empty : Hierarchy := ⟨[], []⟩

/-- Whether a type has been declared or named as a parent. -/
def contains (h : Hierarchy) (t : TypeId) : Bool := decide (t ∈ h.types)

def size (h : Hierarchy) : Nat := h.types.length

def insertType (h : Hierarchy) (t : TypeId) : Hierarchy :=
  if t ∈ h.types then h else { h with types := t :: h.types }

/-- Records that a type extends or implements another one. -/
def insertParent (h : Hierarchy) (child parent : TypeId) : Hierarchy :=
  let h := (h.insertType child).insertType parent
  if (child, parent) ∈ h.edges then h else { h with edges := (child, parent) :: h.edges }

/-- The declared parents of a type, newest first. -/
def parents (h : Hierarchy) (t : TypeId) : List TypeId := (h.edges.filter (·.1 = t)).map (·.2)

/-- The targets of edges that have not been met. -/
def unmet (h : Hierarchy) (met : List TypeId) : List TypeId := (h.edges.map (·.2)).filter (· ∉ met)

/-- What is discovered leaves what had not been met. -/
theorem length_unmet_add_le (h : Hierarchy) (t : TypeId) (met : List TypeId) :
    (h.unmet (met ++ discovered met (h.parents t))).length +
        (discovered met (h.parents t)).length ≤
      (h.unmet met).length := by
  have sub : discovered met (h.parents t) ⊆ h.unmet met := by
    intro p new
    obtain ⟨member, new⟩ := mem_discovered.1 new
    simp only [parents, unmet, List.mem_map, List.mem_filter] at member ⊢
    exact ⟨member.imp fun e edge => ⟨edge.1.1, edge.2⟩, by simpa using new⟩
  have split : h.unmet (met ++ discovered met (h.parents t)) =
      (h.unmet met).filter (· ∉ discovered met (h.parents t)) := by
    unfold unmet
    rw [List.filter_filter]
    congr 1
    funext p
    by_cases known : p ∈ met <;> simp [known]
  rw [split]
  exact Uncaught.Hierarchy.length_filter_not_mem_add_le _ (nodup_discovered _ _) sub

/-- The types looked at, then the queued ones and what can be reached from them, nearest first. -/
def search (h : Hierarchy) (looked : List TypeId) : List TypeId → List TypeId
  | [] => looked
  | t :: queue =>
    search h (looked ++ [t]) (queue ++ discovered (looked ++ t :: queue) (h.parents t))
termination_by queue => (h.unmet (looked ++ queue)).length + queue.length
decreasing_by
  have := h.length_unmet_add_le t (looked ++ t :: queue)
  simp only [List.append_assoc, List.cons_append, List.nil_append, List.length_append,
    List.length_cons] at this ⊢
  omega

/-- A type and every type reachable from it, nearest first. -/
def ancestors (h : Hierarchy) (t : TypeId) : List TypeId := h.search [] [t]

/-- Whether a type is another one or has it among its ancestors. -/
def isSubtype (h : Hierarchy) (child ancestor : TypeId) : Bool :=
  child == ancestor || decide (ancestor ∈ h.ancestors child)

def withAncestors (h : Hierarchy) (t : TypeRef) : TypeSet :=
  (TypeSet.singleton t).extend ((h.ancestors t.id).map TypeRef.plain)

end Hierarchy

end Uncaught.Interned
