import Uncaught.TypeSet.Basic

/-!
The type hierarchy: declared edges from a type to its parent class and its interfaces.

`ancestors` lists a type and every type reachable from it, nearest first. The search keeps the types
whose parents it has looked at and a queue of those it has still to look at. A type counts as
reached from the moment it is queued, and the parents of one type are walked newest declaration
first, so the order among equally near ancestors is fixed as well. The search ends because every
step looks at one queued type, and a type is queued at most once.
-/
namespace Uncaught

/-- Known types, and the edges from child to parent, newest first and each of them once. -/
structure Hierarchy where
  types : List TypeName
  edges : List (TypeName × TypeName)
  types_nodup : types.Nodup
  edges_nodup : edges.Nodup

namespace Hierarchy

def empty : Hierarchy := ⟨[], [], List.nodup_nil, List.nodup_nil⟩

/-- Whether a type has been declared or named as a parent. -/
def contains (h : Hierarchy) (t : TypeName) : Bool := decide (t ∈ h.types)

def size (h : Hierarchy) : Nat := h.types.length

def insertType (h : Hierarchy) (t : TypeName) : Hierarchy :=
  if known : t ∈ h.types then h
  else { h with types := t :: h.types, types_nodup := List.nodup_cons.2 ⟨known, h.types_nodup⟩ }

/-- Records that a type extends or implements another one. -/
def insertParent (h : Hierarchy) (child parent : TypeName) : Hierarchy :=
  let h := (h.insertType child).insertType parent
  if known : (child, parent) ∈ h.edges then h
  else
    { h with
      edges := (child, parent) :: h.edges
      edges_nodup := List.nodup_cons.2 ⟨known, h.edges_nodup⟩ }

/-- The declared parents of a type, newest first. -/
def parents (h : Hierarchy) (t : TypeName) : List TypeName :=
  (h.edges.filter (·.1 = t)).map (·.2)

/-- The parents of a type that are not yet among the types reached. -/
def newParents (h : Hierarchy) (t : TypeName) (reached : List TypeName) : List TypeName :=
  (h.parents t).filter (· ∉ reached)

/-- The targets of edges that are not yet among the types reached. -/
def unreached (h : Hierarchy) (reached : List TypeName) : List TypeName :=
  (h.edges.map (·.2)).filter (· ∉ reached)

theorem nodup_parents (h : Hierarchy) (t : TypeName) : (h.parents t).Nodup := by
  unfold parents List.Nodup
  rw [List.pairwise_map]
  refine List.Pairwise.imp_of_mem ?_ (h.edges_nodup.filter _)
  intro a b ha hb hab e
  have ha : a.1 = t := by simpa using (List.mem_filter.1 ha).2
  have hb : b.1 = t := by simpa using (List.mem_filter.1 hb).2
  exact hab (Prod.ext (ha.trans hb.symm) e)

theorem length_filter_not_mem_add_le {α : Type} [DecidableEq α] (xs : List α) {ys : List α}
    (nodup : ys.Nodup) (sub : ys ⊆ xs) :
    (xs.filter (· ∉ ys)).length + ys.length ≤ xs.length := by
  induction ys with
  | nil => exact List.length_filter_le _ xs
  | cons y ys ih =>
    have ih := ih (List.nodup_cons.1 nodup).2 fun z hz => sub (List.mem_cons_of_mem _ hz)
    have hy : y ∈ xs.filter (· ∉ ys) := by
      simpa using ⟨sub List.mem_cons_self, (List.nodup_cons.1 nodup).1⟩
    have step : xs.filter (· ∉ y :: ys) = (xs.filter (· ∉ ys)).filter (· ≠ y) := by
      rw [List.filter_filter]
      congr 1
      funext z
      by_cases e : z = y <;> simp [e]
    have less : ((xs.filter (· ∉ ys)).filter (· ≠ y)).length < (xs.filter (· ∉ ys)).length :=
      List.length_filter_lt_length_iff_exists.2 ⟨y, hy, by simp⟩
    rw [step, List.length_cons]
    omega

/-- What is reached in a step leaves what was still unreached. -/
theorem length_unreached_add_le (h : Hierarchy) (t : TypeName) (reached : List TypeName) :
    (h.unreached (reached ++ h.newParents t reached)).length + (h.newParents t reached).length ≤
      (h.unreached reached).length := by
  have sub : h.newParents t reached ⊆ h.unreached reached := by
    intro p hp
    simp only [newParents, parents, unreached, List.mem_filter, List.mem_map] at hp ⊢
    exact ⟨hp.1.imp fun e he => ⟨he.1.1, he.2⟩, hp.2⟩
  have split : h.unreached (reached ++ h.newParents t reached) =
      (h.unreached reached).filter (· ∉ h.newParents t reached) := by
    unfold unreached
    rw [List.filter_filter]
    congr 1
    funext p
    by_cases hr : p ∈ reached <;> simp [hr]
  rw [split]
  exact length_filter_not_mem_add_le _ ((h.nodup_parents t).filter _) sub

/-- The types looked at, then the queued ones and what can be reached from them, nearest first. -/
def search (h : Hierarchy) (looked : List TypeName) : List TypeName → List TypeName
  | [] => looked
  | t :: queue =>
    search h (looked ++ [t]) (queue ++ h.newParents t (looked ++ t :: queue))
termination_by queue => (h.unreached (looked ++ queue)).length + queue.length
decreasing_by
  have := h.length_unreached_add_le t (looked ++ t :: queue)
  simp only [List.append_assoc, List.cons_append, List.nil_append, List.length_append,
    List.length_cons] at this ⊢
  omega

/-- A type and every type reachable from it, nearest first. -/
def ancestors (h : Hierarchy) (t : TypeName) : List TypeName := h.search [] [t]

/-- Whether a type is another one or has it among its ancestors. -/
def isSubtype (h : Hierarchy) (child ancestor : TypeName) : Bool :=
  child == ancestor || decide (ancestor ∈ h.ancestors child)

def withAncestors (h : Hierarchy) (t : NamedType) : TypeSet :=
  (TypeSet.singleton t).extend ((h.ancestors t.name).map NamedType.plain)

/-- Whether a value of a type may stand where a target is asked for. -/
def covers (h : Hierarchy) (target : TypeSet) (t : NamedType) : Bool :=
  (h.withAncestors t).castable target

/-- Whether every member of a set may stand where a target is asked for. -/
def coversAll (h : Hierarchy) (target : TypeSet) (types : TypeSet) : Bool :=
  types.members.all (h.covers target)

end Hierarchy

end Uncaught
