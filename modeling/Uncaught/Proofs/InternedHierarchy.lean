import Uncaught.Interned.Hierarchy
import Uncaught.Proofs.InternedTypes

/-!
What a hierarchy of numbers stands for.

Its types and its edges stand, one by one and in their order, for those of a hierarchy of names.
Edges are declared and searched alike in both, so the ancestors of a type are the same ones in the
same order (`StandsFor.ancestors`). The search compares types all the time, and it is here that a
number must stand for one name only and a name have one number only.
-/
namespace Uncaught.Interned

/-- An edge from one type to another one stands for the edge between their names. -/
structure EdgeStandsFor (names : NameTable) (e : TypeId × TypeId) (e' : TypeName × TypeName) :
    Prop where
  child : e.1.StandsFor names e'.1
  parent : e.2.StandsFor names e'.2

theorem biUnique_edge (names : NameTable) : Relator.BiUnique (EdgeStandsFor names) where
  left _ _ _ h h' := Prod.ext ((TypeId.biUnique names).1 h.child h'.child)
    ((TypeId.biUnique names).1 h.parent h'.parent)
  right _ _ _ h h' := Prod.ext ((TypeId.biUnique names).2 h.child h'.child)
    ((TypeId.biUnique names).2 h.parent h'.parent)

structure Hierarchy.StandsFor (names : NameTable) (h : Hierarchy) (h' : Uncaught.Hierarchy) :
    Prop where
  types : List.Forall₂ (TypeId.StandsFor names) h.types h'.types
  edges : List.Forall₂ (EdgeStandsFor names) h.edges h'.edges

/-- What is discovered among some types stands for those that have not been met by name, if these
are listed without repetition. -/
theorem forall₂_discovered {names : NameTable} {met types : List TypeId}
    {met' types' : List TypeName} (hm : List.Forall₂ (TypeId.StandsFor names) met met')
    (ht : List.Forall₂ (TypeId.StandsFor names) types types') (nodup : types'.Nodup) :
    List.Forall₂ (TypeId.StandsFor names) (discovered met types)
      (types'.filter (· ∉ met')) := by
  induction ht generalizing met met' with
  | nil => exact .nil
  | @cons t t' types types' first rest ih =>
    obtain ⟨new, nodup⟩ := List.nodup_cons.1 nodup
    have known : t ∈ met ↔ t' ∈ met' := List.rel_mem (TypeId.biUnique names) first hm
    rw [discovered]
    by_cases member : t ∈ met
    · rw [if_pos member, List.filter_cons_of_neg (by simpa using known.1 member)]
      exact ih hm nodup
    · rw [if_neg member, List.filter_cons_of_pos (by simpa using fun m => member (known.2 m))]
      refine .cons first ?_
      -- The type that has just been met does not come again.
      have same : types'.filter (· ∉ met') = types'.filter (· ∉ met' ++ [t']) := by
        refine List.filter_congr fun u hu => ?_
        have other : u ≠ t' := fun same => new (same ▸ hu)
        simp [other]
      rw [same]
      exact ih (List.rel_append hm (.cons first .nil)) nodup

namespace Hierarchy

variable {names later : NameTable} {h : Hierarchy} {h' : Uncaught.Hierarchy} {t u : TypeId}
  {t' u' : TypeName}

namespace StandsFor

theorem mono (hh : h.StandsFor names h') (kept : names.KeptBy later) : h.StandsFor later h' where
  types := hh.types.imp fun _ _ ht => ht.mono kept
  edges := hh.edges.imp fun _ _ he => ⟨he.child.mono kept, he.parent.mono kept⟩

theorem empty (names : NameTable) : Hierarchy.empty.StandsFor names .empty := ⟨.nil, .nil⟩

theorem contains_eq (hh : h.StandsFor names h') (ht : t.StandsFor names t') :
    h.contains t = h'.contains t' :=
  decide_eq_decide.2 (List.rel_mem (TypeId.biUnique names) ht hh.types)

theorem size_eq (hh : h.StandsFor names h') : h.size = h'.size := hh.types.length_eq

theorem insertType (hh : h.StandsFor names h') (ht : t.StandsFor names t') :
    (h.insertType t).StandsFor names (h'.insertType t') := by
  have known : t ∈ h.types ↔ t' ∈ h'.types := List.rel_mem (TypeId.biUnique names) ht hh.types
  unfold Hierarchy.insertType Uncaught.Hierarchy.insertType
  by_cases member : t ∈ h.types
  · rw [if_pos member, dif_pos (known.1 member)]
    exact hh
  · rw [if_neg member, dif_neg fun member' => member (known.2 member')]
    exact ⟨.cons ht hh.types, hh.edges⟩

theorem insertParent (hh : h.StandsFor names h') (ht : t.StandsFor names t')
    (hu : u.StandsFor names u') :
    (h.insertParent t u).StandsFor names (h'.insertParent t' u') := by
  have entered := (hh.insertType ht).insertType hu
  have known : (t, u) ∈ ((h.insertType t).insertType u).edges ↔
      (t', u') ∈ ((h'.insertType t').insertType u').edges :=
    List.rel_mem (biUnique_edge names) ⟨ht, hu⟩ entered.edges
  unfold Hierarchy.insertParent Uncaught.Hierarchy.insertParent
  dsimp only
  by_cases member : (t, u) ∈ ((h.insertType t).insertType u).edges
  · rw [if_pos member, dif_pos (known.1 member)]
    exact entered
  · rw [if_neg member, dif_neg fun member' => member (known.2 member')]
    exact ⟨entered.types, .cons ⟨ht, hu⟩ entered.edges⟩

theorem parents (hh : h.StandsFor names h') (ht : t.StandsFor names t') :
    List.Forall₂ (TypeId.StandsFor names) (h.parents t) (h'.parents t') := by
  refine List.rel_map (fun _ _ he => he.parent) (List.rel_filter (fun e e' he => ?_) hh.edges)
  show decide (e.1 = t) = true ↔ decide (e'.1 = t') = true
  rw [decide_eq_true_eq, decide_eq_true_eq]
  exact Relator.rel_eq (TypeId.biUnique names) he.child ht

/-- The search looks at types in the order in which they are looked at by name. -/
theorem search (hh : h.StandsFor names h') {looked queue : List TypeId}
    {looked' queue' : List TypeName}
    (hl : List.Forall₂ (TypeId.StandsFor names) looked looked')
    (hq : List.Forall₂ (TypeId.StandsFor names) queue queue') :
    List.Forall₂ (TypeId.StandsFor names) (h.search looked queue)
      (h'.search looked' queue') := by
  induction looked, queue using Hierarchy.search.induct h generalizing looked' queue' with
  | case1 looked =>
    cases hq
    rw [Hierarchy.search, Uncaught.Hierarchy.search]
    exact hl
  | case2 looked t queue ih =>
    cases hq with
    | @cons _ t' _ queue' first rest =>
      rw [Hierarchy.search, Uncaught.Hierarchy.search]
      -- By number the queue is filled type by type, by name with all new parents at once.
      have met := List.rel_append hl (List.Forall₂.cons first rest)
      have found := forall₂_discovered met (hh.parents first) (h'.nodup_parents t')
      exact ih (List.rel_append hl (.cons first .nil)) (List.rel_append rest found)

/-- A type has the same ancestors by number and by name, in the same order. -/
theorem ancestors (hh : h.StandsFor names h') (ht : t.StandsFor names t') :
    List.Forall₂ (TypeId.StandsFor names) (h.ancestors t) (h'.ancestors t') :=
  hh.search .nil (.cons ht .nil)

theorem isSubtype_eq (hh : h.StandsFor names h') (ht : t.StandsFor names t')
    (hu : u.StandsFor names u') : h.isSubtype t u = h'.isSubtype t' u' := by
  have same : (t == u) = (t' == u') := by
    rw [Bool.eq_iff_iff, beq_iff_eq, beq_iff_eq]
    exact Relator.rel_eq (TypeId.biUnique names) ht hu
  have above : u ∈ h.ancestors t ↔ u' ∈ h'.ancestors t' :=
    List.rel_mem (TypeId.biUnique names) hu (hh.ancestors ht)
  rw [isSubtype, Uncaught.Hierarchy.isSubtype, same, decide_eq_decide.2 above]

theorem withAncestors (hh : h.StandsFor names h') {t : TypeRef} {t' : NamedType}
    (ht : t.StandsFor names t') :
    (h.withAncestors t).StandsFor names (h'.withAncestors t') :=
  (TypeSet.standsFor_singleton ht).extend
    (List.rel_map (fun _ _ hu => TypeRef.standsFor_plain hu) (hh.ancestors ht.id))

end StandsFor

end Hierarchy

end Uncaught.Interned
