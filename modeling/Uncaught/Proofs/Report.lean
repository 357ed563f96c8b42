import Uncaught.Check.Contracts

/-!
The laws of reports.

Reports of consecutive parts are put one after the other, so they form a monoid: the report of
nothing changes nothing, and it does not matter how parts are grouped. The statistics alone are even
commutative, which is why a part that only counts may be moved past any other. `Report.concat` is
the report of a list of parts, and `log_forM` says that a check done for every member of a list
leaves exactly that.
-/
namespace Uncaught

namespace AbstentionCounts

theorem merge_assoc (a b c : AbstentionCounts) : (a.merge b).merge c = a.merge (b.merge c) := by
  have entries (x y z : Option Nat) :
      (x.merge (· + ·) y).merge (· + ·) z = x.merge (· + ·) (y.merge (· + ·) z) :=
    (Option.associative_merge _).assoc x y z
  simp only [merge, entries]

theorem merge_comm (a b : AbstentionCounts) : a.merge b = b.merge a := by
  have entries (x y : Option Nat) : x.merge (· + ·) y = y.merge (· + ·) x :=
    (Option.commutative_merge _).comm x y
  simp only [merge, entries a.notFound, entries a.ambiguous, entries a.deferred,
    entries a.unresolvable]

@[simp] theorem zero_merge (a : AbstentionCounts) : zero.merge a = a := by
  simp only [merge, zero, Option.merge_none_left]

theorem get_merge (a b : AbstentionCounts) (reason : Abstention) :
    (a.merge b).get reason = a.get reason + b.get reason := by
  have entries (x y : Option Nat) : (x.merge (· + ·) y).getD 0 = x.getD 0 + y.getD 0 := by
    cases x <;> cases y <;> simp
  cases reason <;> exact entries _ _

end AbstentionCounts

namespace Stats

theorem merge_assoc (a b c : Stats) : (a.merge b).merge c = a.merge (b.merge c) := by
  simp only [merge, Nat.add_assoc, AbstentionCounts.merge_assoc]

theorem merge_comm (a b : Stats) : a.merge b = b.merge a := by
  simp only [merge, Nat.add_comm, AbstentionCounts.merge_comm a.abstentions]

@[simp] theorem zero_merge (a : Stats) : zero.merge a = a := by
  simp only [merge, zero, Nat.zero_add, AbstentionCounts.zero_merge]

@[simp] theorem merge_zero (a : Stats) : a.merge zero = a := by
  rw [merge_comm, zero_merge]

theorem get_merge (a b : Stats) (counter : Counter) :
    (a.merge b).get counter = a.get counter + b.get counter := by
  cases counter <;> rfl

end Stats

namespace Report

variable {a b c : Report}

@[simp] theorem diagnostics_empty : (∅ : Report).diagnostics = [] := rfl

@[simp] theorem diagnostics_append : (a ++ b).diagnostics = a.diagnostics ++ b.diagnostics := rfl

@[simp] theorem stats_append : (a ++ b).stats = a.stats.merge b.stats := rfl

@[ext] theorem ext (diagnostics : a.diagnostics = b.diagnostics) (stats : a.stats = b.stats)
    (mentions : a.mentions = b.mentions) (asked : a.askedIgnored = b.askedIgnored) : a = b := by
  cases a
  cases b
  simp_all

@[simp] theorem empty_append (a : Report) : ∅ ++ a = a :=
  Report.ext rfl (Stats.zero_merge _) rfl rfl

@[simp] theorem append_empty (a : Report) : a ++ ∅ = a :=
  Report.ext (List.append_nil _) (Stats.merge_zero _) (List.append_nil _) (Bool.or_false _)

theorem append_assoc (a b c : Report) : a ++ b ++ c = a ++ (b ++ c) :=
  Report.ext (List.append_assoc ..) (Stats.merge_assoc ..) (List.append_assoc ..)
    (Bool.or_assoc ..)

/-! ## Parts that only count -/

/-- The report of a part that has only counted something. -/
def ofStats (stats : Stats) : Report := { Report.empty with stats }

theorem ofStats_append_comm (stats : Stats) (a : Report) : ofStats stats ++ a = a ++ ofStats stats :=
  Report.ext (List.append_nil _).symm (Stats.merge_comm ..) (List.append_nil _).symm
    (Bool.or_false _).symm

theorem ofStats_merge (s t : Stats) : ofStats (s.merge t) = ofStats s ++ ofStats t := rfl

/-! ## Many parts -/

def concat (parts : List Report) : Report := parts.foldr (· ++ ·) ∅

@[simp] theorem concat_nil : concat [] = ∅ := rfl

@[simp] theorem concat_cons (part : Report) (rest : List Report) :
    concat (part :: rest) = part ++ concat rest := rfl

@[simp] theorem concat_append (xs ys : List Report) : concat (xs ++ ys) = concat xs ++ concat ys := by
  induction xs with
  | nil => simp
  | cons part rest ih => rw [List.cons_append, concat_cons, concat_cons, ih, append_assoc]

theorem concat_flatMap {α : Type} (xs : List α) (parts : α → List Report) :
    concat (xs.flatMap parts) = concat (xs.map fun x => concat (parts x)) := by
  induction xs with
  | nil => rfl
  | cons x xs ih => rw [List.flatMap_cons, concat_append, List.map_cons, concat_cons, ih]

@[simp] theorem diagnostics_concat (parts : List Report) :
    (concat parts).diagnostics = parts.flatMap (·.diagnostics) := by
  induction parts with
  | nil => rfl
  | cons part rest ih => rw [concat_cons, diagnostics_append, ih, List.flatMap_cons]

end Report

/-! ## What a check writes -/

namespace Check

variable {α : Type}

@[simp] theorem value_lift (answer : Noted α) : (liftM answer : Check α).value = answer.value := rfl

@[simp] theorem diagnostics_lift (answer : Noted α) :
    (liftM answer : Check α).log.diagnostics = [] := rfl

@[simp] theorem diagnostics_count (counter : Counter) : (count counter).log.diagnostics = [] := rfl

@[simp] theorem diagnostics_abstain (reason : Abstention) :
    (abstain reason).log.diagnostics = [] := rfl

@[simp] theorem diagnostics_unknownType : unknownType.log.diagnostics = [] := rfl

@[simp] theorem diagnostics_emit (d : Diagnostic) : (emit d).log.diagnostics = [d] := rfl

/-- A check done for each member of a list leaves the reports of the members in their order. -/
theorem log_forM (xs : List α) (check : α → Check Unit) :
    (xs.forM check).log = Report.concat (xs.map fun x => (check x).log) := by
  induction xs with
  | nil => rfl
  | cons x xs ih =>
    show (check x).log ++ (xs.forM check).log = _
    rw [ih, List.map_cons, Report.concat_cons]

end Check

end Uncaught
