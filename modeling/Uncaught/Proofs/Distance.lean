import Mathlib.Order.Lattice.Nat
import Uncaught.Proofs.DeclaredEdges

/-!
The order of ancestors.

The distance of two types is the least number of edges on the way from one to the other. The search
for ancestors knows no distances, it only has a queue, and yet it comes by the types in the order of
their distance. The reason is an invariant (`Hierarchy.NearestFirst`): the types found so far are in
this order, and none of them is more than one step farther than the next one to be looked at. A type
that has not been found is farther than the next one, since the way to it leaves the types found at
one that is still queued (`NearestFirst.distance_lt`). So the parents that are queued are one step
farther than what is looked at, which is where they belong (`NearestFirst.step`).
-/
namespace Uncaught

/-! ## Distances -/

section

variable {α : Type} {edge : α → α → Prop} {a b c : α} {n : Nat}

/-- There is a way of so many edges from `a`. -/
inductive ReachesIn (edge : α → α → Prop) (a : α) : α → Nat → Prop where
  | refl : ReachesIn edge a a 0
  | tail {b c : α} {n : Nat} (way : ReachesIn edge a b n) (step : edge b c) :
      ReachesIn edge a c (n + 1)

theorem exists_reachesIn_iff : (∃ n, ReachesIn edge a b n) ↔ Relation.ReflTransGen edge a b := by
  constructor
  · intro h
    obtain ⟨n, way⟩ := h
    induction way with
    | refl => exact .refl
    | tail _ step ih => exact ih.tail step
  · intro h
    induction h with
    | refl => exact ⟨0, .refl⟩
    | tail _ step ih =>
      obtain ⟨n, way⟩ := ih
      exact ⟨n + 1, way.tail step⟩

/-- The least number of edges from `a` to `b`. It is of use only if there is a way at all. -/
noncomputable def distance (edge : α → α → Prop) (a b : α) : Nat := sInf {n | ReachesIn edge a b n}

theorem distance_le (way : ReachesIn edge a b n) : distance edge a b ≤ n := Nat.sInf_le way

/-- There is a way of the least length. -/
theorem reachesIn_distance (reaches : Relation.ReflTransGen edge a b) :
    ReachesIn edge a b (distance edge a b) :=
  Nat.sInf_mem (exists_reachesIn_iff.2 reaches)

end

/-! ## The search -/

namespace Hierarchy

variable {h : Hierarchy} {t x next : TypeName} {looked queue : List TypeName}

/-- The distance of a type from another one along the edges of a hierarchy. -/
noncomputable def distance (h : Hierarchy) (t x : TypeName) : Nat :=
  Uncaught.distance (fun child parent => (child, parent) ∈ h.edges) t x

/-- What the search for the ancestors of a type keeps of the types that it has found: those looked at
and then those in the queue. -/
structure NearestFirst (h : Hierarchy) (t : TypeName) (looked queue : List TypeName) : Prop where
  closed : h.ClosedUpTo looked queue
  start : t ∈ looked ++ queue
  reached : ∀ x ∈ looked ++ queue, h.Reaches t x
  nodup : (looked ++ queue).Nodup
  sorted : (looked ++ queue).Pairwise fun x y => h.distance t x ≤ h.distance t y
  /-- No type is more than one step farther than the next one to be looked at. -/
  near : ∀ next ∈ queue.head?, ∀ x ∈ looked ++ queue, h.distance t x ≤ h.distance t next + 1

namespace NearestFirst

theorem initial (h : Hierarchy) (t : TypeName) : h.NearestFirst t [] [t] where
  closed := fun _ hc => absurd hc List.not_mem_nil
  start := List.mem_singleton_self t
  reached := fun x hx => by
    rw [List.mem_singleton.1 hx]
    exact .refl
  nodup := List.nodup_singleton t
  sorted := List.pairwise_singleton _ t
  near := fun next hn x hx => by
    rw [List.mem_singleton.1 hx, ← Option.some.inj hn]
    exact Nat.le_succ _

section

variable (found : h.NearestFirst t looked (next :: queue))

include found

/-- What is queued is at least as far as the next type. -/
theorem distance_next_le (hx : x ∈ next :: queue) : h.distance t next ≤ h.distance t x := by
  rcases List.mem_cons.1 hx with rfl | hx
  · exact Nat.le_refl _
  · exact (List.pairwise_cons.1 (List.pairwise_append.1 found.sorted).2.1).1 x hx

/-- Every way to a type that has not been found is longer than that to the next type. -/
theorem distance_lt {n : Nat}
    (way : ReachesIn (fun child parent => (child, parent) ∈ h.edges) t x n)
    (missing : x ∉ looked ++ next :: queue) : h.distance t next < n := by
  induction way with
  | refl => exact absurd found.start missing
  | @tail b c n way step ih =>
    by_cases hb : b ∈ looked ++ next :: queue
    · -- The way leaves the types found at `b`, which therefore has not been looked at.
      have queued : b ∈ next :: queue :=
        (List.mem_append.1 hb).resolve_left fun hb => missing (found.closed b hb c step)
      have farther := found.distance_next_le queued
      have shortest : h.distance t b ≤ n := Uncaught.distance_le way
      omega
    · exact Nat.lt_succ_of_lt (ih hb)

/-- A parent that is queued is one step farther than the type that is looked at. -/
theorem distance_newParent (hx : x ∈ h.newParents next (looked ++ next :: queue)) :
    h.Reaches t x ∧ h.distance t x = h.distance t next + 1 := by
  obtain ⟨edge, missing⟩ := mem_newParents.1 hx
  have reachesNext : h.Reaches t next :=
    found.reached next (List.mem_append_right _ List.mem_cons_self)
  have reaches : h.Reaches t x := reachesNext.tail edge
  have farther : h.distance t next < h.distance t x :=
    found.distance_lt (reachesIn_distance reaches) missing
  have near : h.distance t x ≤ h.distance t next + 1 :=
    Uncaught.distance_le ((reachesIn_distance reachesNext).tail edge)
  exact ⟨reaches, by omega⟩

theorem step :
    h.NearestFirst t (looked ++ [next]) (queue ++ h.newParents next (looked ++ next :: queue)) := by
  have order : (looked ++ [next]) ++ (queue ++ h.newParents next (looked ++ next :: queue)) =
      (looked ++ next :: queue) ++ h.newParents next (looked ++ next :: queue) := by
    simp only [List.append_assoc, List.cons_append, List.nil_append]
  have last : ∀ x ∈ looked ++ next :: queue, h.distance t x ≤ h.distance t next + 1 :=
    found.near next rfl
  have lastOrNew : ∀ x ∈ (looked ++ next :: queue) ++ h.newParents next (looked ++ next :: queue),
      h.Reaches t x ∧ h.distance t x ≤ h.distance t next + 1 := by
    intro x hx
    rcases List.mem_append.1 hx with hx | hx
    · exact ⟨found.reached x hx, last x hx⟩
    · obtain ⟨reaches, same⟩ := found.distance_newParent hx
      exact ⟨reaches, Nat.le_of_eq same⟩
  constructor
  case closed => exact found.closed.step
  case start =>
    rw [order]
    exact List.mem_append_left _ found.start
  case reached =>
    rw [order]
    exact fun x hx => (lastOrNew x hx).1
  case nodup =>
    rw [order, List.nodup_append]
    refine ⟨found.nodup, (h.nodup_parents next).filter _, ?_⟩
    intro x hx y hy same
    exact (mem_newParents.1 hy).2 (same ▸ hx)
  case sorted =>
    rw [order, List.pairwise_append]
    refine ⟨found.sorted, ?_, ?_⟩
    · refine List.pairwise_of_forall_mem_list fun x hx y hy => ?_
      rw [(found.distance_newParent hx).2, (found.distance_newParent hy).2]
    · intro x hx y hy
      rw [(found.distance_newParent hy).2]
      exact last x hx
  case near =>
    rw [order]
    intro first hf x hx
    have next_le : h.distance t next ≤ h.distance t first := by
      rcases List.mem_append.1 (List.mem_of_mem_head? hf) with queued | new
      · exact found.distance_next_le (List.mem_cons_of_mem next queued)
      · rw [(found.distance_newParent new).2]
        exact Nat.le_succ _
    have := (lastOrNew x hx).2
    omega

end

theorem search (found : h.NearestFirst t looked queue) :
    h.NearestFirst t (h.search looked queue) [] := by
  induction looked, queue using search.induct h with
  | case1 looked =>
    rw [Hierarchy.search]
    exact found
  | case2 looked next queue ih =>
    rw [Hierarchy.search]
    exact ih found.step

end NearestFirst

theorem nearestFirst_ancestors (h : Hierarchy) (t : TypeName) :
    h.NearestFirst t (h.ancestors t) [] :=
  (NearestFirst.initial h t).search

theorem nodup_ancestors (h : Hierarchy) (t : TypeName) : (h.ancestors t).Nodup := by
  have nodup := (h.nearestFirst_ancestors t).nodup
  rwa [List.append_nil] at nodup

/-- The ancestors of a type come in the order of their distance. -/
theorem pairwise_distance_ancestors (h : Hierarchy) (t : TypeName) :
    (h.ancestors t).Pairwise fun x y => h.distance t x ≤ h.distance t y := by
  have sorted := (h.nearestFirst_ancestors t).sorted
  rwa [List.append_nil] at sorted

theorem isSubtype_iff {child ancestor : TypeName} :
    h.isSubtype child ancestor = true ↔ h.Reaches child ancestor := by
  rw [isSubtype, Bool.or_eq_true, beq_iff_eq, decide_eq_true_eq, mem_ancestors]
  constructor
  · intro h
    rcases h with rfl | reaches
    · exact .refl
    · exact reaches
  · exact .inr

end Hierarchy

/-- Distances in a program are those along declared pairs of child and parent. -/
theorem Codebase.distance_ofDeclarations {ds : List Declaration} {t x : TypeName} :
    (ofDeclarations ds).program.hierarchy.distance t x = distance (DeclaresParent ds) t x := by
  rw [Hierarchy.distance, edges_ofDeclarations]

/-! ## Hierarchies as they are built -/

/-- A step in building a hierarchy. -/
inductive HierarchyStep where
  | type (name : TypeName)
  | parent (child parent : TypeName)
deriving DecidableEq, Repr

namespace Hierarchy

def extend (h : Hierarchy) : HierarchyStep → Hierarchy
  | .type name => h.insertType name
  | .parent child parent => h.insertParent child parent

/-- The hierarchy that steps build, in their order. -/
def ofSteps (steps : List HierarchyStep) : Hierarchy := steps.foldl extend empty

theorem mem_edges_extend {h : Hierarchy} {step : HierarchyStep} {child parent : TypeName} :
    (child, parent) ∈ (h.extend step).edges ↔
      (child, parent) ∈ h.edges ∨ step = .parent child parent := by
  cases step with
  | type name =>
    rw [extend, edges_insertType]
    exact (or_iff_left nofun).symm
  | parent child' parent' =>
    rw [extend, mem_edges_insertParent, Prod.mk.injEq, HierarchyStep.parent.injEq, eq_comm,
      eq_comm (a := parent)]

theorem mem_edges_ofSteps {steps : List HierarchyStep} {child parent : TypeName} :
    (child, parent) ∈ (ofSteps steps).edges ↔ .parent child parent ∈ steps := by
  suffices general : ∀ h : Hierarchy, (child, parent) ∈ (steps.foldl extend h).edges ↔
      (child, parent) ∈ h.edges ∨ .parent child parent ∈ steps from
    (general empty).trans (or_iff_right List.not_mem_nil)
  induction steps with
  | nil => simp
  | cons step steps ih =>
    intro h
    rw [List.foldl_cons, ih, mem_edges_extend, List.mem_cons, or_assoc, eq_comm (a := step)]

end Hierarchy

/-- **Ancestors come nearest first.** Build a hierarchy in any number of steps, with repeated edges,
edges from a type to itself and cycles as they come. The search for the ancestors of a type ends and
lists each of them once: first the type itself, and altogether the types that can be reached from it
along the pairs of child and parent, in the order of their distance. A type is a subtype of exactly
those. -/
theorem ancestors_come_nearest_first (steps : List HierarchyStep) (t : TypeName) :
    let h := Hierarchy.ofSteps steps
    let edge child parent := HierarchyStep.parent child parent ∈ steps
    (h.ancestors t).head? = some t ∧
    (h.ancestors t).Nodup ∧
    (∀ x, x ∈ h.ancestors t ↔ Relation.ReflTransGen edge t x) ∧
    (h.ancestors t).Pairwise (fun x y => distance edge t x ≤ distance edge t y) ∧
    ∀ child ancestor,
      h.isSubtype child ancestor = true ↔ Relation.ReflTransGen edge child ancestor := by
  intro h edge
  have edges : (fun child parent => (child, parent) ∈ h.edges) = edge := by
    funext child parent
    exact propext Hierarchy.mem_edges_ofSteps
  have reaches (a b : TypeName) : h.Reaches a b ↔ Relation.ReflTransGen edge a b := by
    rw [Hierarchy.Reaches, edges]
  refine ⟨?_, h.nodup_ancestors t, ?_, ?_, ?_⟩
  · obtain ⟨rest, first⟩ := h.exists_ancestors_eq_cons t
    rw [first, List.head?_cons]
  · intro x
    rw [Hierarchy.mem_ancestors, reaches]
  · have sorted := h.pairwise_distance_ancestors t
    simp only [Hierarchy.distance, edges] at sorted
    exact sorted
  · intro child ancestor
    rw [Hierarchy.isSubtype_iff, reaches]

/-- Of two parents the one that was declared last comes first, and a cycle comes to an end. -/
example : (Hierarchy.ofSteps [.parent ⟨"D"⟩ ⟨"I"⟩, .parent ⟨"I"⟩ ⟨"A"⟩, .parent ⟨"D"⟩ ⟨"B"⟩,
    .parent ⟨"B"⟩ ⟨"A"⟩, .parent ⟨"D"⟩ ⟨"I"⟩, .parent ⟨"A"⟩ ⟨"D"⟩]).ancestors ⟨"D"⟩ =
      [⟨"D"⟩, ⟨"B"⟩, ⟨"I"⟩, ⟨"A"⟩] := by
  decide +kernel

end Uncaught
