/-!
Look-up tables.

A table holds at most one value for a key. Writing replaces what the key had, and reading gives back
what was written last.
-/
namespace Uncaught

/-- Keys with their values, the key written last in front. -/
structure Table (κ ν : Type) where
  entries : List (κ × ν)
deriving Repr

namespace Table

variable {κ ν : Type}

def empty : Table κ ν := ⟨[]⟩

def size (t : Table κ ν) : Nat := t.entries.length

variable [DecidableEq κ]

def get? (t : Table κ ν) (k : κ) : Option ν := (t.entries.find? (·.1 = k)).map (·.2)

/-- Gives a key a value in place of any it had. -/
def insert (t : Table κ ν) (k : κ) (v : ν) : Table κ ν :=
  ⟨(k, v) :: t.entries.filter (·.1 ≠ k)⟩

@[simp] theorem get?_empty (k : κ) : (empty : Table κ ν).get? k = none := rfl

@[simp] theorem get?_insert_self (t : Table κ ν) (k : κ) (v : ν) :
    (t.insert k v).get? k = some v := by
  simp [get?, insert]

theorem get?_insert_of_ne (t : Table κ ν) {k k' : κ} (v : ν) (h : k' ≠ k) :
    (t.insert k v).get? k' = t.get? k' := by
  have hk : (fun e : κ × ν => !decide (e.1 = k) && decide (e.1 = k')) =
      fun e => decide (e.1 = k') := by
    funext e
    by_cases he : e.1 = k' <;> simp [he, h]
  simp [get?, insert, Ne.symm h, List.find?_filter, hk]

theorem get?_insert (t : Table κ ν) (k k' : κ) (v : ν) :
    (t.insert k v).get? k' = if k' = k then some v else t.get? k' := by
  split
  next h => simp [h]
  next h => exact get?_insert_of_ne t v h

/-- What is found after an entry was written is that entry or was there before. -/
theorem eq_or_get?_of_get?_insert {t : Table κ ν} {k k' : κ} {v v' : ν}
    (found : (t.insert k v).get? k' = some v') : k' = k ∧ v' = v ∨ t.get? k' = some v' := by
  rw [get?_insert] at found
  split at found
  next same => exact .inl ⟨same, (Option.some.inj found).symm⟩
  next => exact .inr found

end Table

end Uncaught
