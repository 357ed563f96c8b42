import Uncaught.Proofs.Report

/-!
Statistics as a commutative monoid.

Merging adds every counter and the count of every reason to abstain, so it has the laws of addition.
Two statistics are equal only if the same reasons have entries, though, and an entry of zero would
tell apart two statistics that count the same. None ever comes up: a reason gets its entry when it
is given for the first time, and a merge has the entries of its two parts (`IsTight.record`,
`IsTight.merge`). So statistics that were put together from nothing are determined by what they count
(`statistics_form_a_monoid`).
-/
namespace Uncaught

namespace AbstentionCounts

variable {a b : AbstentionCounts} {reason : Abstention}

/-- A reason has an entry only if it was given. -/
def IsTight (counts : AbstentionCounts) : Prop := ∀ reason, counts.entry? reason ≠ some 0

theorem entry?_record (counts : AbstentionCounts) (reason other : Abstention) :
    entry? (counts.record reason) other =
      if other = reason then some (counts.get reason + 1) else counts.entry? other := by
  cases reason <;> cases other <;> rfl

theorem entry?_merge :
    entry? (a.merge b) reason = Option.merge (· + ·) (a.entry? reason) (b.entry? reason) := by
  cases reason <;> rfl

theorem isTight_zero : zero.IsTight := by
  intro reason
  cases reason <;> simp [zero, entry?]

theorem IsTight.record (tight : a.IsTight) : (a.record reason).IsTight := by
  intro other
  rw [entry?_record]
  split
  · simp
  · exact tight other

theorem IsTight.merge (tight : a.IsTight) (tight' : b.IsTight) : (a.merge b).IsTight := by
  intro reason
  have first := tight reason
  have second := tight' reason
  rw [entry?_merge]
  cases left : a.entry? reason with
  | none => simpa using second
  | some m =>
    cases right : b.entry? reason with
    | none => simpa [left] using first
    | some n =>
      rw [left] at first
      simp only [ne_eq, Option.some.injEq, Option.merge_some_some] at first ⊢
      omega

/-- What a reason counts decides about its entry. -/
theorem IsTight.entry?_eq (tight : a.IsTight) :
    a.entry? reason = if a.get reason = 0 then none else some (a.get reason) := by
  have given := tight reason
  rw [get]
  cases count : a.entry? reason with
  | none => simp
  | some n =>
    rw [count] at given
    simp only [ne_eq, Option.some.injEq] at given
    simp [given]

theorem ext_entry? (same : ∀ reason, a.entry? reason = b.entry? reason) : a = b := by
  cases a
  cases b
  rw [mk.injEq]
  exact ⟨same .notFound, same .ambiguous, same .deferred, same .unresolvable⟩

/-- Counts without an entry of zero are equal if they count the same. -/
theorem IsTight.eq_iff (tight : a.IsTight) (tight' : b.IsTight) :
    a = b ↔ ∀ reason, a.get reason = b.get reason := by
  constructor
  · rintro rfl reason
    rfl
  · intro same
    apply ext_entry?
    intro reason
    rw [tight.entry?_eq, tight'.entry?_eq, same]

theorem total_merge (a b : AbstentionCounts) : (a.merge b).total = a.total + b.total := by
  simp only [total, get_merge]
  omega

end AbstentionCounts

namespace Stats

variable {s t : Stats}

theorem eq_iff :
    s = t ↔ (∀ counter, s.get counter = t.get counter) ∧ s.abstentions = t.abstentions := by
  constructor
  · rintro rfl
    exact ⟨fun _ => rfl, rfl⟩
  · rintro ⟨counters, abstentions⟩
    cases s
    cases t
    rw [mk.injEq]
    exact ⟨counters .filesChecked, counters .functionsVisited, counters .throwSites,
      counters .callSites, counters .diagnostics, counters .unknownTypes, abstentions⟩

theorem totalAbstentions_merge (s t : Stats) :
    (s.merge t).totalAbstentions = s.totalAbstentions + t.totalAbstentions := by
  have counts : (s.merge t).abstentions.total = s.abstentions.total + t.abstentions.total :=
    AbstentionCounts.total_merge ..
  have unknown : (s.merge t).unknownTypes = s.unknownTypes + t.unknownTypes := rfl
  simp only [totalAbstentions, counts, unknown]
  omega

/-- A way to put statistics together. -/
inductive Construction where
  | zero
  | add (whole : Construction) (counter : Counter) (amount : Nat)
  | addAbstention (whole : Construction) (reason : Abstention)
  | merge (first second : Construction)

namespace Construction

/-- The statistics that are put together. -/
def result : Construction → Stats
  | zero => .zero
  | add whole counter amount => whole.result.add counter amount
  | addAbstention whole reason => whole.result.addAbstention reason
  | merge first second => first.result.merge second.result

theorem isTight_result (c : Construction) : c.result.abstentions.IsTight := by
  induction c with
  | zero => exact AbstentionCounts.isTight_zero
  | add whole counter amount ih => cases counter <;> exact ih
  | addAbstention whole reason ih => exact ih.record
  | merge first second ih ih' => exact ih.merge ih'

end Construction

end Stats

open Stats in
/-- **Statistics form a commutative monoid.** Merging is associative and commutative, and merging
with empty statistics changes nothing. However two statistics are put together from empty ones, they
are equal, entries of reasons included, exactly if all their counters and the counts of all reasons
agree. Every counter, the count of every reason and the total of abstentions of a merge is the sum of
those of its parts. -/
theorem statistics_form_a_monoid :
    (∀ s t u : Stats, (s.merge t).merge u = s.merge (t.merge u)) ∧
    (∀ s t : Stats, s.merge t = t.merge s) ∧
    (∀ s : Stats, zero.merge s = s ∧ s.merge zero = s) ∧
    (∀ c d : Construction, c.result = d.result ↔
      (∀ counter, c.result.get counter = d.result.get counter) ∧
      ∀ reason, c.result.abstentions.get reason = d.result.abstentions.get reason) ∧
    (∀ (s t : Stats) counter, (s.merge t).get counter = s.get counter + t.get counter) ∧
    (∀ (s t : Stats) reason, (s.merge t).abstentions.get reason =
      s.abstentions.get reason + t.abstentions.get reason) ∧
    ∀ s t : Stats, (s.merge t).totalAbstentions = s.totalAbstentions + t.totalAbstentions := by
  refine ⟨merge_assoc, merge_comm, fun s => ⟨zero_merge s, merge_zero s⟩, ?_, get_merge, ?_,
    totalAbstentions_merge⟩
  · intro c d
    rw [eq_iff, c.isTight_result.eq_iff d.isTight_result]
  · intro s t reason
    exact AbstentionCounts.get_merge _ _ reason

/-- An entry of zero counts nothing, but it makes a difference. -/
example :
    let counts : AbstentionCounts := ⟨some 0, none, none, none⟩
    counts.get .notFound = AbstentionCounts.zero.get .notFound ∧ counts ≠ .zero := by
  decide

end Uncaught
