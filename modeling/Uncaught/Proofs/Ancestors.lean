import Mathlib.Logic.Relation
import Uncaught.Hierarchy

/-!
The search for ancestors, and what it means to cover a type.

`Hierarchy.Reaches` says which types can be reached from a type along declared edges, zero or more of
them, and knows nothing of the search. The search keeps one invariant: what has been looked at has
its parents among the types looked at or queued (`ClosedUpTo`). When the queue is empty, the types
found are closed under parents, so `mem_ancestors`: they are the types that can be reached. It follows
when a target covers a type (`covers_iff`), and that covering is upward compatible: what covers a type
covers all that the type stands for (`covers_of_stands_for`).
-/
namespace Uncaught

namespace Hierarchy

variable {h : Hierarchy} {t x : TypeName}

/-- A type can be reached from another one along declared edges from child to parent. -/
def Reaches (h : Hierarchy) : TypeName → TypeName → Prop :=
  Relation.ReflTransGen fun child parent => (child, parent) ∈ h.edges

theorem mem_parents {p : TypeName} : p ∈ h.parents t ↔ (t, p) ∈ h.edges := by
  simp only [parents, List.mem_map, List.mem_filter, decide_eq_true_eq]
  constructor
  · intro h
    obtain ⟨⟨child, parent⟩, ⟨he, rfl⟩, rfl⟩ := h
    exact he
  · intro he
    exact ⟨(t, p), ⟨he, rfl⟩, rfl⟩

theorem mem_newParents {reached : List TypeName} {p : TypeName} :
    p ∈ h.newParents t reached ↔ (t, p) ∈ h.edges ∧ p ∉ reached := by
  rw [newParents, List.mem_filter, mem_parents, decide_eq_true_eq]

/-! ## The search -/

/-- The types looked at have their parents among them or in the queue. -/
def ClosedUpTo (h : Hierarchy) (looked queue : List TypeName) : Prop :=
  ∀ child ∈ looked, ∀ parent, (child, parent) ∈ h.edges → parent ∈ looked ++ queue

/-- The search only finds what it starts with and what can be reached from there. -/
theorem reaches_of_mem_search {looked queue : List TypeName} (found : x ∈ h.search looked queue) :
    x ∈ looked ∨ ∃ t ∈ queue, h.Reaches t x := by
  induction looked, queue using search.induct h with
  | case1 looked =>
    rw [search] at found
    exact .inl found
  | case2 looked t queue ih =>
    rw [search] at found
    rcases ih found with hx | ⟨q, hq, hr⟩
    · rcases List.mem_append.1 hx with hx | hx
      · exact .inl hx
      · rw [List.mem_singleton.1 hx]
        exact .inr ⟨t, List.mem_cons_self, .refl⟩
    · rcases List.mem_append.1 hq with hq | hq
      · exact .inr ⟨q, List.mem_cons_of_mem t hq, hr⟩
      · exact .inr ⟨t, List.mem_cons_self, .head (mem_newParents.1 hq).1 hr⟩

theorem mem_search {looked queue : List TypeName} (hx : x ∈ looked ++ queue) :
    x ∈ h.search looked queue := by
  induction looked, queue using search.induct h with
  | case1 looked =>
    rw [search]
    rwa [List.append_nil] at hx
  | case2 looked t queue ih =>
    rw [search]
    apply ih
    rw [← List.append_assoc]
    apply List.mem_append_left
    rwa [List.append_assoc, List.singleton_append]

/-- What has been looked at stays in front. -/
theorem exists_search_eq_append (looked queue : List TypeName) :
    ∃ rest, h.search looked queue = looked ++ rest := by
  induction looked, queue using search.induct h with
  | case1 looked =>
    rw [search]
    exact ⟨[], (List.append_nil looked).symm⟩
  | case2 looked t queue ih =>
    obtain ⟨rest, found⟩ := ih
    rw [search, found, List.append_assoc]
    exact ⟨[t] ++ rest, rfl⟩

/-- A type comes before all its other ancestors. -/
theorem exists_ancestors_eq_cons (h : Hierarchy) (t : TypeName) :
    ∃ rest, h.ancestors t = t :: rest := by
  obtain ⟨rest, found⟩ := h.exists_search_eq_append [t] (h.newParents t [t])
  refine ⟨rest, ?_⟩
  rw [ancestors, search]
  exact found

/-- A step of the search keeps the invariant. -/
theorem ClosedUpTo.step {looked queue : List TypeName} (closed : h.ClosedUpTo looked (t :: queue)) :
    h.ClosedUpTo (looked ++ [t]) (queue ++ h.newParents t (looked ++ t :: queue)) := by
  intro child hc parent he
  -- A parent is known already, or it is one of those that are queued now.
  have known : parent ∈ looked ++ t :: queue →
      parent ∈ (looked ++ [t]) ++ (queue ++ h.newParents t (looked ++ t :: queue)) := by
    intro hp
    rw [← List.append_assoc]
    apply List.mem_append_left
    rwa [List.append_assoc, List.singleton_append]
  rcases List.mem_append.1 hc with hc | hc
  · exact known (closed child hc parent he)
  · -- What is looked at now has its parents queued, as far as they are new.
    rw [List.mem_singleton.1 hc] at he
    by_cases hp : parent ∈ looked ++ t :: queue
    · exact known hp
    · exact List.mem_append_right _ (List.mem_append_right _ (mem_newParents.2 ⟨he, hp⟩))

/-- In the end the types found are closed under parents. -/
theorem closed_search {looked queue : List TypeName} (closed : h.ClosedUpTo looked queue) :
    h.ClosedUpTo (h.search looked queue) [] := by
  induction looked, queue using search.induct h with
  | case1 looked =>
    rw [search]
    exact closed
  | case2 looked t queue ih =>
    rw [search]
    exact ih closed.step

/-- The ancestors of a type are the types that can be reached from it. -/
theorem mem_ancestors : x ∈ h.ancestors t ↔ h.Reaches t x := by
  constructor
  · intro found
    rcases reaches_of_mem_search found with hx | ⟨q, hq, hr⟩
    · cases hx
    · rwa [List.mem_singleton.1 hq] at hr
  · intro hr
    -- The search starts with nothing looked at, so the invariant holds at first.
    have closed : h.ClosedUpTo (h.ancestors t) [] :=
      closed_search fun _ hc => absurd hc List.not_mem_nil
    induction hr with
    | refl => exact mem_search List.mem_cons_self
    | tail _ he ih =>
      have := closed _ ih _ he
      rwa [List.append_nil] at this

instance (t x : TypeName) : Decidable (h.Reaches t x) := decidable_of_iff _ mem_ancestors

/-! ## Covering -/

theorem mem_withAncestors {s t : NamedType} :
    s ∈ h.withAncestors t ↔ s = t ∨ ∃ x, h.Reaches t.name x ∧ s = NamedType.plain x := by
  rw [withAncestors, TypeSet.mem_extend, TypeSet.singleton, TypeSet.mem_insert, List.mem_map]
  have none : ¬ s ∈ TypeSet.empty := List.not_mem_nil
  simp only [none, false_or, mem_ancestors, eq_comm]

/-- A target covers a type if it admits everything or has a member that can be reached from the
type. -/
theorem covers_iff {target : TypeSet} {t : NamedType} :
    h.covers target t = true ↔
      ∃ u ∈ target, u.name = TypeName.mixed ∨ h.Reaches t.name u.name := by
  simp only [covers, TypeSet.castable, Bool.or_eq_true, List.any_eq_true, decide_eq_true_eq]
  constructor
  · intro h
    rcases h with ⟨u, hu, hm⟩ | ⟨s, hs, u, hu, he⟩
    · exact ⟨u, hu, .inl hm⟩
    · refine ⟨u, hu, .inr ?_⟩
      rcases mem_withAncestors.1 hs with rfl | ⟨x, hr, rfl⟩
      · rw [he]
        exact .refl
      · rw [he]
        exact hr
  · intro h
    obtain ⟨u, hu, hm | hr⟩ := h
    · exact .inl ⟨u, hu, hm⟩
    · exact .inr ⟨NamedType.plain u.name, mem_withAncestors.2 (.inr ⟨u.name, hr, rfl⟩), u, hu, rfl⟩

theorem eq_mixed_of_reaches (rootless : ∀ parent, (TypeName.mixed, parent) ∉ h.edges)
    (hr : h.Reaches TypeName.mixed x) : x = TypeName.mixed := by
  cases Relation.ReflTransGen.cases_head hr with
  | inl e => exact e.symm
  | inr step =>
    obtain ⟨parent, he, -⟩ := step
    exact absurd he (rootless parent)

/-- A member of a set that covers a type stands for the type: whatever covers the member covers the
type. A member that admits everything needs that nothing is declared above it. -/
theorem covers_of_stands_for (rootless : ∀ parent, (TypeName.mixed, parent) ∉ h.edges)
    {t u : NamedType} (stands : u.name = TypeName.mixed ∨ h.Reaches t.name u.name)
    {target : TypeSet} (covered : h.covers target u = true) : h.covers target t = true := by
  obtain ⟨v, hv, hm | hr⟩ := covers_iff.1 covered
  · exact covers_iff.2 ⟨v, hv, .inl hm⟩
  · rcases stands with he | ht
    · rw [he] at hr
      exact covers_iff.2 ⟨v, hv, .inl (eq_mixed_of_reaches rootless hr)⟩
    · exact covers_iff.2 ⟨v, hv, .inr (ht.trans hr)⟩

end Hierarchy

end Uncaught
