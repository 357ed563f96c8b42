import Mathlib.Data.List.Perm.Basic
import Uncaught.Codebase
import Uncaught.Proofs.Violations

/-!
What the try statements around a place let through.

The clauses are gone through one after the other, each takes away what it catches, and the rest is
not looked at once nothing is left. In the end a member of the set stays exactly if it is caught
nowhere on the way from the place up to its routine (`Hierarchy.CaughtAt`), which says nothing about
the order of the statements, of their clauses or of the members. The laws of the filter are read off
this.
-/
namespace Uncaught

/-! ## Sets that are filtered -/

namespace TypeSet

variable {s : TypeSet} {keep : NamedType → Bool}

theorem filter_insert (t : NamedType) :
    (s.insert t).filter keep = if keep t then (s.filter keep).insert t else s.filter keep := by
  apply eq_of_members
  show (s.insert t).members.filter keep = _
  rw [members_insert]
  by_cases known : t ∈ s <;> cases kept : keep t
  · rw [if_pos known, if_neg Bool.false_ne_true, filter]
  · rw [if_pos known, if_pos rfl, members_insert, if_pos (mem_filter.2 ⟨known, kept⟩), filter]
  · rw [if_neg known, if_neg Bool.false_ne_true, List.filter_append, filter]
    simp [kept]
  · have left_out : t ∉ s.filter keep := fun member => known (mem_filter.1 member).1
    rw [if_neg known, if_pos rfl, members_insert, if_neg left_out, List.filter_append, filter]
    simp [kept]

theorem filter_extend (types : List NamedType) :
    (s.extend types).filter keep = (s.filter keep).extend (types.filter keep) := by
  induction types generalizing s with
  | nil => rfl
  | cons t types ih =>
    show ((s.insert t).extend types).filter keep = _
    rw [ih, filter_insert, List.filter_cons]
    cases keep t <;> rfl

theorem filter_union (s other : TypeSet) :
    (s.union other).filter keep = (s.filter keep).union (other.filter keep) :=
  filter_extend other.members

theorem filter_self (s : TypeSet) : (s.filter keep).filter keep = s.filter keep := by
  apply eq_of_members
  simp only [filter, List.filter_filter, Bool.and_self]

end TypeSet

/-! ## The try statements around a place -/

/-- A step that does not enter a routine enters a part of a try statement. -/
theorem ScopeStep.routine?_eq_none_iff {step : ScopeStep} :
    step.routine? = none ↔ ∃ catches, step.catches? = some catches := by
  cases step <;> simp [routine?, catches?]

namespace ScopePath

variable {scopes scopes' : ScopePath}

/-- The try statements around a place are those that are entered before the innermost routine. -/
theorem mem_tries_iff {catches : Catches} :
    catches ∈ tries scopes ↔
      ∃ inner step outer, scopes = inner ++ step :: outer ∧
        (∀ s ∈ inner, s.routine? = none) ∧ step.catches? = some catches := by
  constructor
  · intro member
    induction scopes with
    | nil => exact absurd member List.not_mem_nil
    | cons step rest ih =>
      rw [tries_cons] at member
      cases enters : step.catches? with
      | none => simp [enters] at member
      | some own =>
        rw [enters] at member
        rcases List.mem_cons.1 member with here | further
        · exact ⟨[], step, rest, rfl, by simp, enters.trans (congrArg some here.symm)⟩
        · obtain ⟨inner, entered, outer, split, within, found⟩ := ih further
          refine ⟨step :: inner, entered, outer, congrArg _ split, ?_, found⟩
          intro s among
          rcases List.mem_cons.1 among with rfl | among
          · exact ScopeStep.routine?_eq_none_iff.2 ⟨own, enters⟩
          · exact within s among
  · rintro ⟨inner, step, outer, rfl, within, found⟩
    induction inner with
    | nil => simp [tries_cons, found]
    | cons s inner ih =>
      have further := ih fun u among => within u (List.mem_cons_of_mem _ among)
      obtain ⟨own, enters⟩ := ScopeStep.routine?_eq_none_iff.1 (within s List.mem_cons_self)
      rw [List.cons_append, tries_cons, enters]
      exact List.mem_cons_of_mem _ further

/-- Nothing beyond a routine is around a place within it. -/
theorem tries_append_inRoutine (inner : ScopePath) (f : Routine) (outer : ScopePath) :
    tries (inner ++ .inRoutine f :: outer) = tries inner := by
  induction inner with
  | nil => rfl
  | cons step inner ih => rw [List.cons_append, tries_cons, tries_cons, ih]

/-- Two places with the same try statements around them, in any order and with the clauses of each
in any order. -/
def SameTries (scopes scopes' : ScopePath) : Prop :=
  ∃ reordered, (tries scopes).Perm reordered ∧ List.Forall₂ List.Perm reordered (tries scopes')

theorem SameTries.perm_clauses (same : SameTries scopes scopes') :
    (clauses scopes).Perm (clauses scopes') := by
  obtain ⟨reordered, statements, within⟩ := same
  exact statements.flatten.trans (List.Perm.flatten_congr within)

end ScopePath

/-! ## What is caught at a place -/

namespace Hierarchy

variable {h : Hierarchy} {scopes : ScopePath} {t : NamedType}

/-- A type is caught at a place if a try statement that is entered before the innermost routine, in
any of its parts, has a clause to whose types the type can be cast with its ancestors. -/
def CaughtAt (h : Hierarchy) (scopes : ScopePath) (t : NamedType) : Prop :=
  ∃ inner step outer catches, scopes = inner ++ step :: outer ∧
    (∀ s ∈ inner, s.routine? = none) ∧ step.catches? = some catches ∧
    ∃ clause ∈ catches,
      (h.withAncestors t).castable (TypeSet.parseAll TypeSet.empty clause).value = true

/-- What is left of a set of types at a place once the clauses around it have been gone through. -/
def escapingFrom (h : Hierarchy) (scopes : ScopePath) (types : TypeSet) : TypeSet :=
  (h.escaping types (ScopePath.clauses scopes)).value

theorem caughtAt_iff :
    h.CaughtAt scopes t ↔
      ∃ clause ∈ ScopePath.clauses scopes,
        h.covers (TypeSet.parseAll TypeSet.empty clause).value t = true := by
  rw [ScopePath.clauses]
  constructor
  · rintro ⟨inner, step, outer, catches, split, within, enters, clause, own, casts⟩
    have around := ScopePath.mem_tries_iff.2 ⟨inner, step, outer, split, within, enters⟩
    exact ⟨clause, List.mem_flatten.2 ⟨catches, around, own⟩, casts⟩
  · rintro ⟨clause, member, casts⟩
    obtain ⟨catches, around, own⟩ := List.mem_flatten.1 member
    obtain ⟨inner, step, outer, split, within, enters⟩ := ScopePath.mem_tries_iff.1 around
    exact ⟨inner, step, outer, catches, split, within, enters, clause, own, casts⟩

theorem uncaught_iff_not_caughtAt :
    h.uncaught (ScopePath.clauses scopes) t = true ↔ ¬ h.CaughtAt scopes t := by
  rw [caughtAt_iff, uncaught, List.all_eq_true]
  simp only [not_exists, not_and, Bool.not_eq_true', Bool.not_eq_true]

instance : Decidable (h.CaughtAt scopes t) :=
  decidable_of_iff (¬ h.uncaught (ScopePath.clauses scopes) t = true)
    (by rw [uncaught_iff_not_caughtAt, not_not])

theorem uncaught_eq_decide :
    h.uncaught (ScopePath.clauses scopes) = fun t => decide (¬ h.CaughtAt scopes t) :=
  funext fun _ => Bool.eq_iff_iff.2 (uncaught_iff_not_caughtAt.trans decide_eq_true_iff.symm)

theorem escapingFrom_eq_filter (types : TypeSet) :
    h.escapingFrom scopes types = types.filter (h.uncaught (ScopePath.clauses scopes)) :=
  TypeSet.eq_of_members (h.members_escaping types _)

/-- A type is uncaught or not whatever the order of the clauses. -/
theorem uncaught_of_perm {clauses clauses' : List (List String)} (perm : clauses.Perm clauses') :
    h.uncaught clauses = h.uncaught clauses' :=
  funext fun _ => perm.all_eq

end Hierarchy

/-- **What escapes is what nothing catches.** Of any set of types exactly those escape from a place
that are caught at no step before the innermost routine, and they keep their order. So the filter
goes through a union member by member, filters nothing more the second time, and depends neither on
the order of the try statements and their clauses nor on anything from the innermost routine on. -/
theorem escaping_is_caught_nowhere (h : Hierarchy) (scopes : ScopePath) (types other : TypeSet) :
    (h.escapingFrom scopes types).members =
      types.members.filter (fun t => ¬ h.CaughtAt scopes t) ∧
    h.escapingFrom scopes (types.union other) =
      (h.escapingFrom scopes types).union (h.escapingFrom scopes other) ∧
    h.escapingFrom scopes (h.escapingFrom scopes types) = h.escapingFrom scopes types ∧
    (∀ scopes', ScopePath.SameTries scopes scopes' →
      h.escapingFrom scopes' types = h.escapingFrom scopes types) ∧
    ∀ inner f outer, h.escapingFrom (inner ++ .inRoutine f :: outer) types =
      h.escapingFrom inner types := by
  simp only [Hierarchy.escapingFrom_eq_filter]
  refine ⟨?_, TypeSet.filter_union types other, TypeSet.filter_self types, ?_, ?_⟩
  · rw [Hierarchy.uncaught_eq_decide, TypeSet.filter]
  · intro scopes' same
    rw [Hierarchy.uncaught_of_perm same.perm_clauses]
  · intro inner f outer
    rw [ScopePath.clauses, ScopePath.tries_append_inRoutine, ScopePath.clauses]

namespace NestedTries

def hierarchy : Hierarchy :=
  (Codebase.ofDeclarations
    [.classLike "Overflow" ["Range"], .classLike "Range" ["Exception"]]).program.hierarchy

/-- In a clause of one try statement and the body of another, in a routine that is declared in a
third one. -/
def scopes : ScopePath :=
  [.inCatch [["Range"], []] ["Range"], .inTry [["not a name|"], ["Other", "Failure"]],
    .inRoutine ⟨"f", .function, none⟩, .inTry [["Exception"]]]

/-- The same two statements the other way round, with their clauses exchanged. -/
def reordered : ScopePath :=
  [.inTry [["Other", "Failure"], ["not a name|"]], .inFinally [[], ["Range"]]]

def thrown : TypeSet :=
  TypeSet.ofList [⟨⟨"Exception"⟩, true⟩, ⟨⟨"Failure"⟩, false⟩, ⟨⟨"Overflow"⟩, false⟩,
    ⟨⟨"Exception"⟩, false⟩]

/-- In both orders only what the third statement would catch gets out. -/
theorem exchanged_clauses_catch_the_same :
    ScopePath.SameTries scopes reordered ∧
    hierarchy.escapingFrom reordered thrown =
      TypeSet.ofList [⟨⟨"Exception"⟩, true⟩, ⟨⟨"Exception"⟩, false⟩] := by
  have same : ScopePath.SameTries scopes reordered :=
    ⟨[[["not a name|"], ["Other", "Failure"]], [["Range"], []]], .swap _ _ _,
      .cons (.swap _ _ _) (.cons (.swap _ _ _) .nil)⟩
  refine ⟨same, ?_⟩
  rw [(escaping_is_caught_nowhere hierarchy scopes thrown thrown).2.2.2.1 reordered same]
  decide +kernel

end NestedTries

end Uncaught
