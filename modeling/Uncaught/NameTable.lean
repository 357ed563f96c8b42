import Uncaught.Name

/-!
The names met so far.

A roster numbers distinct values in the order of their first entry, and a number never changes its
meaning. A name table keeps two rosters, one for types and one for callables, so that the same text
may be in both.
-/
namespace Uncaught

/-- Distinct values in the order of their first entry; the place of a value is its number. -/
structure Roster (α : Type) where
  entries : List α
  nodup : entries.Nodup

namespace Roster

variable {α : Type}

def empty : Roster α := ⟨[], List.nodup_nil⟩

def size (r : Roster α) : Nat := r.entries.length

variable [DecidableEq α]

def find? (r : Roster α) (a : α) : Option Nat := r.entries.idxOf? a

def resolve? (r : Roster α) (n : Nat) : Option α := r.entries[n]?

/-- Enters a value unless it is there already. -/
def enter (r : Roster α) (a : α) : Roster α :=
  if h : a ∈ r.entries then r
  else ⟨r.entries ++ [a], by
    rw [List.nodup_append]
    exact ⟨r.nodup, by simp, fun x hx y hy e => h (by simp_all)⟩⟩

def intern (r : Roster α) (a : α) : Nat × Roster α := ((r.enter a).entries.idxOf a, r.enter a)

theorem mem_enter {r : Roster α} {a b : α} : b ∈ (r.enter a).entries ↔ b ∈ r.entries ∨ b = a := by
  unfold enter
  split
  next h => exact ⟨Or.inl, fun hb => hb.elim id (fun e => e ▸ h)⟩
  next => simp

end Roster

/-- The type names and the callable names met so far. -/
structure NameTable where
  types : Roster TypeName
  callables : Roster CallableName

namespace NameTable

def empty : NameTable := ⟨Roster.empty, Roster.empty⟩

def note (table : NameTable) : Mention → NameTable
  | .type name => { table with types := table.types.enter name }
  | .callable name => { table with callables := table.callables.enter name }

def noteAll (table : NameTable) (mentions : List Mention) : NameTable := mentions.foldl note table

/-- Enters the type that a spelling names and gives its number. -/
def internType (table : NameTable) (spelling : String) : Nat × NameTable :=
  let (number, types) := table.types.intern (TypeName.ofText spelling)
  (number, { table with types })

/-- The number of the type that a spelling names, if it has been entered. -/
def type? (table : NameTable) (spelling : String) : Option Nat :=
  table.types.find? (TypeName.ofText spelling)

def typeName? (table : NameTable) (number : Nat) : Option TypeName := table.types.resolve? number

/-- Enters the function or closure that a spelling names and gives its number. -/
def internCallable (table : NameTable) (spelling : String) : Nat × NameTable :=
  let (number, callables) := table.callables.intern (CallableName.ofText spelling)
  (number, { table with callables })

def internMethod (table : NameTable) (className method : String) : Nat × NameTable :=
  let (number, callables) := table.callables.intern (CallableName.ofMethod className method)
  (number, { table with callables })

/-- The number of the callable that a spelling names, if it has been entered. -/
def callable? (table : NameTable) (spelling : String) : Option Nat :=
  table.callables.find? (CallableName.ofText spelling)

def callableName? (table : NameTable) (number : Nat) : Option CallableName :=
  table.callables.resolve? number

def typeCount (table : NameTable) : Nat := table.types.size

end NameTable

end Uncaught
