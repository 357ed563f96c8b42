import Uncaught.Name

/-!
Sets of types.

A type is a name with a nullable qualifier, and `A` and `?A` are different types. A set keeps its
members in the order of their first insertion, so that whatever is derived from one comes out in a
fixed order; two sets are the same set when they have the same members (`TypeSet.same`).
-/
namespace Uncaught

/-- A type as it is written: a name, nullable or not. -/
structure NamedType where
  name : TypeName
  nullable : Bool
deriving DecidableEq, Repr

namespace NamedType

def plain (name : TypeName) : NamedType := ⟨name, false⟩

/-- The same type without the nullable qualifier. -/
def nonNull (t : NamedType) : NamedType := plain t.name

/-- The type as it is written. -/
def text (t : NamedType) : String := if t.nullable then "?" ++ t.name.text else t.name.text

end NamedType

/-- A set of types in the order of first insertion. -/
structure TypeSet where
  members : List NamedType
  nodup : members.Nodup
deriving DecidableEq

namespace TypeSet

instance : Membership NamedType TypeSet := ⟨fun s t => t ∈ s.members⟩

instance (t : NamedType) (s : TypeSet) : Decidable (t ∈ s) :=
  inferInstanceAs (Decidable (t ∈ s.members))

def empty : TypeSet := ⟨[], List.nodup_nil⟩

instance : Inhabited TypeSet := ⟨empty⟩

def isEmpty (s : TypeSet) : Bool := s.members.isEmpty

def size (s : TypeSet) : Nat := s.members.length

/-- Adds a type behind the others, unless it is a member, and says whether it was new. -/
def add (s : TypeSet) (t : NamedType) : TypeSet × Bool :=
  if h : t ∈ s.members then (s, false)
  else
    (⟨s.members ++ [t], by
      rw [List.nodup_append]
      exact ⟨s.nodup, by simp, fun x hx y hy e => h (by simp_all)⟩⟩, true)

/-- Adds a type behind the others, unless it is a member. -/
def insert (s : TypeSet) (t : NamedType) : TypeSet := (s.add t).1

def extend (s : TypeSet) (types : List NamedType) : TypeSet := types.foldl insert s

def ofList (types : List NamedType) : TypeSet := empty.extend types

def singleton (t : NamedType) : TypeSet := empty.insert t

/-- The members of either set, those of the first one in front. -/
def union (s other : TypeSet) : TypeSet := s.extend other.members

def filter (s : TypeSet) (keep : NamedType → Bool) : TypeSet :=
  ⟨s.members.filter keep, s.nodup.filter keep⟩

def without (s : TypeSet) (t : NamedType) : TypeSet := s.filter (· ≠ t)

/-- Whether two sets have the same members: as many of them, and every one of the first in the
second. -/
def same (s other : TypeSet) : Bool :=
  s.size == other.size && s.members.all (fun t => decide (t ∈ other))

/-- Whether a value whose types are `source` may stand where `target` is asked for: the two share a
name, nullable or not, or the target admits everything. -/
def castable (source target : TypeSet) : Bool :=
  target.members.any (·.name = TypeName.mixed) ||
    source.members.any (fun t => target.members.any (·.name = t.name))

@[simp] theorem members_empty : empty.members = [] := rfl

theorem mem_def {s : TypeSet} {t : NamedType} : t ∈ s ↔ t ∈ s.members := Iff.rfl

theorem eq_of_members {s other : TypeSet} (members : s.members = other.members) : s = other := by
  cases s
  cases other
  cases members
  rfl

theorem members_insert (s : TypeSet) (t : NamedType) :
    (s.insert t).members = if t ∈ s then s.members else s.members ++ [t] := by
  unfold insert add
  by_cases h : t ∈ s.members
  · simp [h, mem_def]
  · simp [h, mem_def]

@[simp] theorem mem_insert {s : TypeSet} {t u : NamedType} : u ∈ s.insert t ↔ u ∈ s ∨ u = t := by
  rw [mem_def, members_insert]
  split
  next h => exact ⟨Or.inl, fun hu => hu.elim id (fun e => e ▸ h)⟩
  next => simp [mem_def]

@[simp] theorem mem_extend {s : TypeSet} {types : List NamedType} {u : NamedType} :
    u ∈ s.extend types ↔ u ∈ s ∨ u ∈ types := by
  unfold extend
  induction types generalizing s with
  | nil => simp
  | cons t types ih => simp [ih, or_assoc]

@[simp] theorem mem_union {s other : TypeSet} {u : NamedType} :
    u ∈ s.union other ↔ u ∈ s ∨ u ∈ other := mem_extend

@[simp] theorem mem_filter {s : TypeSet} {keep : NamedType → Bool} {u : NamedType} :
    u ∈ s.filter keep ↔ u ∈ s ∧ keep u = true := by
  simp [mem_def, filter]

end TypeSet

end Uncaught
