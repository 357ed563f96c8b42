import Mathlib.Data.List.Forall2
import Uncaught.Table

/-!
Values that are related piece by piece.

When the pieces of two values are related, so is what is found among them: members of lists, entries
of tables, and what may be absent. If keys are related one to one, that is if related keys are equal
exactly if what they are related to is, then a look-up finds related values in related tables
(`Table.Related.get?`).
-/

namespace Option.Rel

variable {α α' β β' : Type} {R : α → α' → Prop} {S : β → β' → Prop} {o : Option α}
  {o' : Option α'}

theorem imp {R' : α → α' → Prop} (h : Option.Rel R o o') (next : ∀ a a', R a a' → R' a a') :
    Option.Rel R' o o' := by
  cases h with
  | none => exact .none
  | some h => exact .some (next _ _ h)

theorem map (h : Option.Rel R o o') {f : α → β} {f' : α' → β'}
    (next : ∀ a a', R a a' → S (f a) (f' a')) : Option.Rel S (o.map f) (o'.map f') := by
  cases h with
  | none => exact .none
  | some h => exact .some (next _ _ h)

theorem bind (h : Option.Rel R o o') {f : α → Option β} {f' : α' → Option β'}
    (next : ∀ a a', R a a' → Option.Rel S (f a) (f' a')) :
    Option.Rel S (o.bind f) (o'.bind f') := by
  cases h with
  | none => exact .none
  | some h => exact next _ _ h

theorem getD (h : Option.Rel R o o') {a : α} {a' : α'} (default : R a a') :
    R (o.getD a) (o'.getD a') := by
  cases h with
  | none => exact default
  | some h => exact h

theorem map_eq (h : Option.Rel R o o') {f : α → α'} (same : ∀ a a', R a a' → f a = a') :
    o.map f = o' := by
  cases h with
  | none => rfl
  | some h => exact congrArg Option.some (same _ _ h)

end Option.Rel

namespace List.Forall₂

variable {α α' β β' : Type} {R : α → α' → Prop} {S : β → β' → Prop} {xs : List α} {xs' : List α'}

theorem isEmpty_eq (h : List.Forall₂ R xs xs') : xs.isEmpty = xs'.isEmpty := by
  cases h <;> rfl

/-- A test finds related members alike in related lists. -/
theorem any_eq (h : List.Forall₂ R xs xs') {p : α → Bool} {p' : α' → Bool}
    (same : ∀ a a', R a a' → p a = p' a') : xs.any p = xs'.any p' := by
  induction h with
  | nil => rfl
  | cons first _ ih => rw [List.any_cons, List.any_cons, same _ _ first, ih]

/-- The first hits in related lists are related. -/
theorem findSome? (h : List.Forall₂ R xs xs') {f : α → Option β} {f' : α' → Option β'}
    (next : ∀ a a', R a a' → Option.Rel S (f a) (f' a')) :
    Option.Rel S (xs.findSome? f) (xs'.findSome? f') := by
  induction h with
  | nil => exact .none
  | @cons a a' _ _ first _ ih =>
    have hit := next a a' first
    rw [List.findSome?_cons, List.findSome?_cons]
    generalize f a = b, f' a' = b' at hit
    cases hit with
    | none => exact ih
    | some hit => exact .some hit

theorem getElem? (h : List.Forall₂ R xs xs') (n : Nat) : Option.Rel R xs[n]? xs'[n]? := by
  induction h generalizing n with
  | nil => exact .none
  | cons first _ ih =>
    cases n with
    | zero => exact .some first
    | succ n => exact ih n

theorem set (h : List.Forall₂ R xs xs') (n : Nat) {a : α} {a' : α'} (ha : R a a') :
    List.Forall₂ R (xs.set n a) (xs'.set n a') := by
  induction h generalizing n with
  | nil => exact .nil
  | cons first rest ih =>
    cases n with
    | zero => exact .cons ha rest
    | succ n => exact .cons first (ih n)

theorem map_eq (h : List.Forall₂ R xs xs') {f : α → α'} (same : ∀ a a', R a a' → f a = a') :
    xs.map f = xs' := List.forall₂_eq_eq_eq ▸ List.forall₂_map_left_iff.2 (h.imp same)

/-- What is related to one list in two ways can be translated member by member. -/
theorem eq_map {S' : β → α' → Prop} {ys : List β} (h : List.Forall₂ R xs xs')
    (h' : List.Forall₂ S' ys xs') {f : α → β}
    (same : ∀ a b a', R a a' → S' b a' → b = f a) : ys = xs.map f := by
  induction h generalizing ys with
  | nil =>
    cases h'
    rfl
  | cons first _ ih =>
    cases h' with
    | cons first' rest' => exact congr (congrArg List.cons (same _ _ _ first first')) (ih rest')

/-- Lists that are related to related lists are related. -/
theorem join {T : α' → β' → Prop} {Q : α → β → Prop} {ys : List β} {ys' : List β'}
    (between : List.Forall₂ T xs' ys') (left : List.Forall₂ R xs xs')
    (right : List.Forall₂ S ys ys')
    (related : ∀ a a' b b', R a a' → T a' b' → S b b' → Q a b) : List.Forall₂ Q xs ys := by
  induction between generalizing xs ys with
  | nil =>
    cases left
    cases right
    exact .nil
  | cons first _ ih =>
    cases left with
    | cons here left =>
      cases right with
      | cons there right => exact .cons (related _ _ _ _ here first there) (ih left right)

end List.Forall₂

namespace Uncaught

theorem biUnique_eq {α : Type} : Relator.BiUnique (@Eq α) :=
  ⟨fun _ _ _ h h' => h.trans h'.symm, fun _ _ _ h h' => h.symm.trans h'⟩

/-! ## Tables -/

namespace Table

variable {κ κ' κ'' ν ν' ν'' : Type} {K : κ → κ'' → Prop} {K' : κ' → κ'' → Prop} {V : ν → ν'' → Prop}
  {V' : ν' → ν'' → Prop} {t : Table κ ν} {t' : Table κ' ν'} {u : Table κ'' ν''}

/-- Two tables have related entries, in the same order. -/
def Related (K : κ → κ' → Prop) (V : ν → ν' → Prop) (t : Table κ ν) (t' : Table κ' ν') : Prop :=
  List.Forall₂ (fun e e' => K e.1 e'.1 ∧ V e.2 e'.2) t.entries t'.entries

/-- A table with other keys and values. -/
def mapEntries (key : κ → κ') (value : ν → ν') (t : Table κ ν) : Table κ' ν' :=
  ⟨t.entries.map (Prod.map key value)⟩

namespace Related

theorem empty : Related K V Table.empty Table.empty := .nil

theorem size_eq (h : Related K V t u) : t.size = u.size := h.length_eq

theorem imp {L : κ → κ'' → Prop} {W : ν → ν'' → Prop} (h : Related K V t u)
    (keys : ∀ k k', K k k' → L k k') (values : ∀ v v', V v v' → W v v') : Related L W t u :=
  List.Forall₂.imp (fun _ _ entry => ⟨keys _ _ entry.1, values _ _ entry.2⟩) h

/-- What is related to one table in two ways can be translated entry by entry. -/
theorem eq_mapEntries (h : Related K V t u) (h' : Related K' V' t' u) {key : κ → κ'}
    {value : ν → ν'} (keys : ∀ a b c, K a c → K' b c → b = key a)
    (values : ∀ a b c, V a c → V' b c → b = value a) : t' = t.mapEntries key value := by
  have entries : t'.entries = t.entries.map (Prod.map key value) :=
    List.Forall₂.eq_map h h' fun _ _ _ ha hb =>
      Prod.ext (keys _ _ _ ha.1 hb.1) (values _ _ _ ha.2 hb.2)
  exact congrArg Table.mk entries

variable [DecidableEq κ] [DecidableEq κ'']

/-- What is found in related tables under related keys is related, if keys are related one to one.
-/
theorem get? (h : Related K V t u) (unique : Relator.BiUnique K) {k : κ} {k' : κ''} (hk : K k k') :
    Option.Rel V (t.get? k) (u.get? k') := by
  obtain ⟨entries⟩ := t
  obtain ⟨entries'⟩ := u
  unfold Related at h
  unfold Table.get?
  dsimp only at h ⊢
  induction h with
  | nil => exact .none
  | @cons e e' _ _ first _ ih =>
    have same : e.1 = k ↔ e'.1 = k' := Relator.rel_eq unique first.1 hk
    by_cases hit : e.1 = k
    · rw [List.find?_cons_of_pos (by simpa using hit),
        List.find?_cons_of_pos (by simpa using same.1 hit)]
      exact .some first.2
    · rw [List.find?_cons_of_neg (by simpa using hit),
        List.find?_cons_of_neg (by simpa using fun hit' => hit (same.2 hit'))]
      exact ih

theorem insert (h : Related K V t u) (unique : Relator.BiUnique K) {k : κ} {k' : κ''}
    (hk : K k k') {v : ν} {v' : ν''} (hv : V v v') :
    Related K V (t.insert k v) (u.insert k' v') := by
  refine .cons ⟨hk, hv⟩ (List.rel_filter (fun e e' he => ?_) h)
  show decide (e.1 ≠ k) = true ↔ decide (e'.1 ≠ k') = true
  rw [decide_eq_true_eq, decide_eq_true_eq]
  exact not_congr (Relator.rel_eq unique he.1 hk)

end Related

end Table

/-! ## Outcomes -/

/-- Two outcomes are related if they are related values or one and the same failure. -/
inductive OutcomeRel {ε α β : Type} (R : α → β → Prop) : Except ε α → Except ε β → Prop where
  | ok {a : α} {b : β} (h : R a b) : OutcomeRel R (.ok a) (.ok b)
  | error (e : ε) : OutcomeRel R (.error e) (.error e)

namespace OutcomeRel

variable {ε α β : Type} {R S : α → β → Prop} {x : Except ε α} {y : Except ε β}

theorem imp (h : OutcomeRel R x y) (next : ∀ a b, R a b → S a b) : OutcomeRel S x y := by
  cases h with
  | ok h => exact .ok (next _ _ h)
  | error e => exact .error e

theorem map_eq (h : OutcomeRel R x y) {f : α → β} (same : ∀ a b, R a b → f a = b) :
    x.map f = y := by
  cases h with
  | ok h => exact congrArg Except.ok (same _ _ h)
  | error e => rfl

end OutcomeRel

end Uncaught
