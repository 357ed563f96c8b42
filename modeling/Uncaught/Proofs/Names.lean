import Mathlib.Data.List.Nodup
import Mathlib.Data.List.Perm.Subperm
import Uncaught.NameTable

/-!
Numbers of names.

A name table only grows: what is spelled out is entered, and what is there stays (`has_noteAll`).
The number of a name is its place, so it depends on what was entered before it. Of two tables one of
which has the names of the other, each numbers these names in its own way, and a `Renumbering` leads
from one way to the other.
-/
namespace Uncaught

namespace Roster

variable {α : Type} [DecidableEq α] {r r' : Roster α} {a b : α} {m n : Nat}

/-- Looking a value up and looking its number up are inverse to each other. -/
theorem find?_eq_some_iff : r.find? a = some n ↔ r.resolve? n = some a := by
  rw [find?, resolve?, List.idxOf?_eq_some_iff, List.getElem?_eq_some_iff]
  constructor
  · intro h
    obtain ⟨inside, here, -⟩ := h
    exact ⟨inside, here⟩
  · intro h
    obtain ⟨inside, here⟩ := h
    refine ⟨inside, here, fun j before there => ?_⟩
    -- No value has two places.
    have same : j = n := (List.Nodup.getElem_inj_iff r.nodup).1 (there.trans here.symm)
    omega

theorem exists_find?_iff : (∃ n, r.find? a = some n) ↔ a ∈ r.entries := by
  simp only [find?_eq_some_iff, resolve?, List.mem_iff_getElem?]

/-- A value keeps its number when others are entered. -/
theorem find?_enter (found : r.find? b = some n) : (r.enter a).find? b = some n := by
  rw [find?_eq_some_iff] at found ⊢
  rw [enter]
  split
  next => exact found
  next =>
    obtain ⟨inside, -⟩ := List.getElem?_eq_some_iff.1 found
    exact (List.getElem?_append_left inside).trans found

/-- A value that is entered gets the number that it is found under. -/
theorem find?_enter_self : (r.enter a).find? a = some (r.intern a).1 :=
  find?_eq_some_iff.2 (List.getElem?_idxOf (mem_enter.2 (.inr rfl)))

omit [DecidableEq α] in
theorem size_le (within : r.entries ⊆ r'.entries) : r.size ≤ r'.size :=
  (List.subperm_of_subset r.nodup within).length_le

/-- The number that the value with some number has in another roster. -/
def renumber (r r' : Roster α) (n : Nat) : Nat := ((r.resolve? n).bind r'.find?).getD n

theorem find?_renumber (within : r.entries ⊆ r'.entries) (found : r.find? a = some n) :
    r'.find? a = some (r.renumber r' n) := by
  obtain ⟨n', found'⟩ := exists_find?_iff.2 (within (exists_find?_iff.1 ⟨n, found⟩))
  rw [renumber, find?_eq_some_iff.1 found, Option.bind_some, found', Option.getD_some]

theorem renumber_injective (within : r.entries ⊆ r'.entries) (hm : m < r.size) (hn : n < r.size)
    (same : r.renumber r' m = r.renumber r' n) : m = n := by
  obtain ⟨a, ha⟩ : ∃ a, r.resolve? m = some a := ⟨_, List.getElem?_eq_getElem hm⟩
  obtain ⟨b, hb⟩ : ∃ b, r.resolve? n = some b := ⟨_, List.getElem?_eq_getElem hn⟩
  -- Two numbers with one image are numbers of the same value.
  have first := find?_eq_some_iff.1 (find?_renumber within (find?_eq_some_iff.2 ha))
  have second := find?_eq_some_iff.1 (find?_renumber within (find?_eq_some_iff.2 hb))
  obtain rfl : a = b := by
    rw [same, second] at first
    exact (Option.some.inj first).symm
  rw [← find?_eq_some_iff] at ha hb
  exact Option.some.inj (ha.symm.trans hb)

/-- What is found in a roster is found in one that has its values. -/
theorem resolve?_find?_mono (within : r.entries ⊆ r'.entries) :
    ∀ b ∈ (r.find? a).bind r.resolve?, b ∈ (r'.find? a).bind r'.resolve? := by
  intro b found
  obtain ⟨n, number, value⟩ := Option.bind_eq_some_iff.1 found
  have same : a = b := by
    rw [find?_eq_some_iff.1 number] at value
    exact Option.some.inj value
  have number' := find?_renumber within number
  rw [← same]
  exact Option.bind_eq_some_iff.2 ⟨_, number', find?_eq_some_iff.1 number'⟩

end Roster

namespace NameTable

variable {t t' : NameTable} {name other : Mention}

/-- The number of a name, if it has been entered. -/
def number? (t : NameTable) : Mention → Option Nat
  | .type name => t.types.find? name
  | .callable name => t.callables.find? name

def Has (t : NameTable) : Mention → Prop
  | .type name => name ∈ t.types.entries
  | .callable name => name ∈ t.callables.entries

theorem exists_number?_iff : (∃ n, t.number? name = some n) ↔ t.Has name := by
  cases name with
  | type name => exact Roster.exists_find?_iff
  | callable name => exact Roster.exists_find?_iff

theorem has_note : (t.note other).Has name ↔ t.Has name ∨ name = other := by
  cases other <;> cases name <;> simp [note, Has, Roster.mem_enter]

/-- What is spelled out is entered, and what is there stays. -/
theorem has_noteAll {names : List Mention} :
    (t.noteAll names).Has name ↔ t.Has name ∨ name ∈ names := by
  induction names generalizing t with
  | nil => simp [noteAll]
  | cons other names ih =>
    rw [noteAll, List.foldl_cons]
    refine ih.trans ?_
    rw [has_note, or_assoc, List.mem_cons]

/-- A table has the names of another one. -/
def Within (t t' : NameTable) : Prop := ∀ name, t.Has name → t'.Has name

theorem Within.types (within : t.Within t') : t.types.entries ⊆ t'.types.entries :=
  fun name member => within (.type name) member

theorem Within.callables (within : t.Within t') : t.callables.entries ⊆ t'.callables.entries :=
  fun name member => within (.callable name) member

theorem Within.noteAll (within : t.Within t') (names : List Mention) :
    (t.noteAll names).Within (t'.noteAll names) := by
  intro name has
  rw [has_noteAll] at has ⊢
  exact has.imp_left (within name)

theorem Within.noteAll_right (within : t.Within t') (names : List Mention) :
    t.Within (t'.noteAll names) :=
  fun name has => has_noteAll.2 (.inl (within name has))

/-- How the numbers of one table become those of another one. -/
structure Renumbering (t t' : NameTable) where
  ofType : Nat → Nat
  ofCallable : Nat → Nat
  type_injective : ∀ m < t.types.size, ∀ n < t.types.size, ofType m = ofType n → m = n
  callable_injective :
    ∀ m < t.callables.size, ∀ n < t.callables.size, ofCallable m = ofCallable n → m = n

namespace Renumbering

/-- The number of a name in the second table. -/
def apply (renumbering : Renumbering t t') : Mention → Nat → Nat
  | .type _, n => renumbering.ofType n
  | .callable _, n => renumbering.ofCallable n

/-- The numbers of the names that the first table has. -/
def ofWithin (within : t.Within t') : Renumbering t t' where
  ofType := t.types.renumber t'.types
  ofCallable := t.callables.renumber t'.callables
  type_injective _ hm _ hn := Roster.renumber_injective within.types hm hn
  callable_injective _ hm _ hn := Roster.renumber_injective within.callables hm hn

theorem number?_ofWithin (within : t.Within t') {n : Nat} (found : t.number? name = some n) :
    t'.number? name = some ((ofWithin within).apply name n) := by
  cases name with
  | type name => exact Roster.find?_renumber within.types found
  | callable name => exact Roster.find?_renumber within.callables found

end Renumbering

end NameTable

end Uncaught
