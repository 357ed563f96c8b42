import Mathlib.Data.Set.Insert
import Uncaught.Proofs.Catching
import Uncaught.Proofs.LookupOrder
import Uncaught.Proofs.TypeGrammar
import Uncaught.Proofs.Unqualified

/-!
The operations on type sets.

A set is put together by inserting types, uniting sets and taking types out again
(`TypeSet.Construction`). Written as one list, everything that was put in and not taken out
afterwards, an occurrence for each time, is the history of the set. The set is what collecting its
history gives (`result_eq_ofList`): a type stands where it occurs first, and it is a member if and
only if the operations, read as operations on mathematical sets, make it one. Two sets are the same
if and only if they have the same members, since neither has a member twice; so every law of sets
that does not speak of an order holds of them as well (`operations_keep_ordered_sets`).
-/
namespace Uncaught

namespace TypeSet

/-- A way to put a set together. -/
inductive Construction where
  | empty
  | of (t : NamedType)
  | collect (types : List NamedType)
  | insert (whole : Construction) (t : NamedType)
  | extend (whole : Construction) (types : List NamedType)
  | union (first second : Construction)
  | without (whole : Construction) (t : NamedType)
  | retain (whole : Construction) (keep : NamedType → Bool)

namespace Construction

/-- The set that is put together. -/
def result : Construction → TypeSet
  | empty => .empty
  | of t => .singleton t
  | collect types => .ofList types
  | insert whole t => whole.result.insert t
  | extend whole types => whole.result.extend types
  | union first second => first.result.union second.result
  | without whole t => whole.result.without t
  | retain whole keep => whole.result.filter keep

/-- What was put in and not taken out later, in order, an occurrence for each time. -/
def history : Construction → List NamedType
  | empty => []
  | of t => [t]
  | collect types => types
  | insert whole t => whole.history ++ [t]
  | extend whole types => whole.history ++ types
  | union first second => first.history ++ second.history
  | without whole t => whole.history.filter (· ≠ t)
  | retain whole keep => whole.history.filter keep

/-- The members, by what the operations mean for sets. -/
def meaning : Construction → Set NamedType
  | empty => ∅
  | of t => {t}
  | collect types => {t | t ∈ types}
  | insert whole t => Insert.insert t whole.meaning
  | extend whole types => whole.meaning ∪ {t | t ∈ types}
  | union first second => first.meaning ∪ second.meaning
  | without whole t => whole.meaning \ {t}
  | retain whole keep => {t ∈ whole.meaning | keep t = true}

end Construction

/-! ## Sets that are collected -/

section

variable {s other : TypeSet} {t : NamedType}

theorem insert_of_mem (member : t ∈ s) : s.insert t = s :=
  eq_of_members ((members_insert s t).trans (if_pos member))

theorem extend_append (s : TypeSet) (types more : List NamedType) :
    s.extend (types ++ more) = (s.extend types).extend more := List.foldl_append

theorem ofList_append (types more : List NamedType) :
    ofList (types ++ more) = (ofList types).extend more := extend_append empty types more

/-- To add the members of a collected set is to add what it was collected from. -/
theorem extend_members_ofList (s : TypeSet) (types : List NamedType) :
    s.extend (ofList types).members = s.extend types := by
  induction types using List.reverseRecOn with
  | nil => rfl
  | append_singleton types t ih =>
    have grown : s.extend (types ++ [t]) = (s.extend types).insert t := extend_append s types [t]
    have collected : ofList (types ++ [t]) = (ofList types).insert t := ofList_append types [t]
    rw [grown, collected, members_insert]
    split
    next old => rw [ih, insert_of_mem (mem_extend.2 (.inr (mem_ofList.1 old)))]
    next =>
      rw [extend_append, ih]
      rfl

theorem filter_ofList (types : List NamedType) (keep : NamedType → Bool) :
    (ofList types).filter keep = ofList (types.filter keep) := filter_extend types

theorem mem_without {u : NamedType} : u ∈ s.without t ↔ u ∈ s ∧ u ≠ t := by
  rw [without, mem_filter, decide_eq_true_eq]

theorem mem_singleton {u : NamedType} : u ∈ singleton t ↔ u = t := by
  rw [singleton, mem_insert]
  exact or_iff_right List.not_mem_nil

/-- Adding a type says that it was new exactly if it was. -/
theorem add_snd_eq_true_iff : (s.add t).2 = true ↔ ¬ t ∈ s := by
  rw [add, mem_def]
  split
  next old => exact iff_of_false Bool.false_ne_true (not_not.2 old)
  next new => exact iff_of_true rfl new

/-- Two sets are the same exactly if they have the same members. -/
theorem same_iff : s.same other = true ↔ ∀ t, t ∈ s ↔ t ∈ other :=
  same_iff_perm.trans (List.perm_ext_iff_of_nodup s.nodup other.nodup)

end

/-! ## Sets that are put together -/

namespace Construction

/-- A set is what collecting its history gives. -/
theorem result_eq_ofList (c : Construction) : c.result = ofList c.history := by
  induction c with
  | empty => rfl
  | of t => rfl
  | collect types => rfl
  | insert whole t ih =>
    rw [result, history, ofList_append, ih]
    rfl
  | extend whole types ih => rw [result, history, ofList_append, ih]
  | union first second ih ih' =>
    rw [result, history, ofList_append, ih, ih', TypeSet.union, extend_members_ofList]
  | without whole t ih => rw [result, history, ih, TypeSet.without, filter_ofList]
  | retain whole keep ih => rw [result, history, ih, filter_ofList]

theorem mem_history_iff (c : Construction) (t : NamedType) : t ∈ c.history ↔ t ∈ c.meaning := by
  induction c with
  | empty => exact iff_of_false List.not_mem_nil (Set.notMem_empty t)
  | of u => exact List.mem_singleton
  | collect types => exact Iff.rfl
  | insert whole u ih =>
    rw [history, meaning, List.mem_append, ih, List.mem_singleton, Set.mem_insert_iff, or_comm]
  | extend whole types ih =>
    rw [history, meaning, List.mem_append, ih, Set.mem_union]
    rfl
  | union first second ih ih' => rw [history, meaning, List.mem_append, ih, ih', Set.mem_union]
  | without whole u ih =>
    rw [history, meaning, List.mem_filter, ih, decide_eq_true_eq, Set.mem_sdiff,
      Set.mem_singleton_iff]
  | retain whole keep ih => rw [history, meaning, List.mem_filter, ih, Set.mem_sep_iff]

theorem members_result (c : Construction) : c.result.members = c.history.eraseDups := by
  rw [result_eq_ofList, members_ofList]

theorem mem_result_iff (c : Construction) (t : NamedType) : t ∈ c.result ↔ t ∈ c.meaning := by
  rw [result_eq_ofList, mem_ofList, mem_history_iff]

end Construction

end TypeSet

open TypeSet in
/-- **The operations keep sets in the order of first insertion.** However a set is put together, no
type is stored twice, the types stand in the order in which those that are kept were first put in,
and the members are those that the operations mean. Inserting says that a type was new exactly if it
was. Two sets are the same exactly if they have the same members. So union is associative,
commutative and idempotent and has the empty set as its unit, and a type that is added by a union
leaves no trace once it is taken out. -/
theorem operations_keep_ordered_sets :
    (∀ c : Construction, c.result.members.Nodup ∧ c.result.members = c.history.eraseDups ∧
      ∀ t, t ∈ c.result ↔ t ∈ c.meaning) ∧
    (∀ (s : TypeSet) t, (s.add t).1 = s.insert t ∧ ((s.add t).2 = true ↔ ¬ t ∈ s)) ∧
    (∀ s other : TypeSet, s.same other = true ↔ ∀ t, t ∈ s ↔ t ∈ other) ∧
    (∀ s other third : TypeSet,
      ((s.union other).union third).same (s.union (other.union third)) = true) ∧
    (∀ s other : TypeSet, (s.union other).same (other.union s) = true) ∧
    (∀ s : TypeSet, (s.union s).same s = true) ∧
    (∀ s : TypeSet, (s.union empty).same s = true ∧ (empty.union s).same s = true) ∧
    ∀ (s : TypeSet) t, ((s.union (singleton t)).without t).same (s.without t) = true := by
  refine ⟨?_, ?_, fun s other => same_iff, ?_, ?_, ?_, ?_, ?_⟩
  · exact fun c => ⟨c.result.nodup, c.members_result, c.mem_result_iff⟩
  · exact fun s t => ⟨rfl, add_snd_eq_true_iff⟩
  · intro s other third
    refine same_iff.2 fun t => ?_
    simp only [mem_union, or_assoc]
  · intro s other
    refine same_iff.2 fun t => ?_
    rw [mem_union, mem_union, or_comm]
  · intro s
    refine same_iff.2 fun t => ?_
    rw [mem_union, or_self]
  · intro s
    have nothing (t : NamedType) : ¬ t ∈ empty := List.not_mem_nil
    refine ⟨same_iff.2 fun t => ?_, same_iff.2 fun t => ?_⟩
    · rw [mem_union, or_iff_left (nothing t)]
    · rw [mem_union, or_iff_right (nothing t)]
  · intro s t
    refine same_iff.2 fun u => ?_
    rw [mem_without, mem_without, mem_union, mem_singleton]
    constructor
    · rintro ⟨old | rfl, other⟩
      · exact ⟨old, other⟩
      · exact absurd rfl other
    · exact fun kept => ⟨.inl kept.1, kept.2⟩

/-- A type that was taken out stands behind the others when it is put in again. -/
example :
    let a : NamedType := .plain ⟨"A"⟩
    let b : NamedType := .plain ⟨"B"⟩
    (((TypeSet.Construction.collect [a, b, a]).without a).insert a).result.members = [b, a] := by
  decide

end Uncaught
