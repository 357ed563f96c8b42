import Uncaught.Interned.TypeSet
import Uncaught.Proofs.Interning
import Uncaught.Proofs.Related

/-!
What numbers stand for.

A number stands for the name that has it in the table of names, and it does so in every later table,
since a name keeps its number when others are entered (`NameTable.KeptBy`). So numbers can be
compared in place of names, whenever they were given (`TypeId.biUnique`), and whatever is built
from numbers stands for the same thing built from names: types and sets of types here, tables and
sessions further on.

A computation that enters names is looked at beside the one that only notes them. The one `Follows`
the other from a table on if it leaves the table with the noted names, and a result that stands for
the other's. In sequence the second part follows from the table that the first has left
(`Follows.bind`); what stood for something before still does then.
-/
namespace Uncaught

namespace NameTable

/-- Every name keeps its number in a later table. -/
def KeptBy (names later : NameTable) : Prop :=
  ∀ name n, names.number? name = some n → later.number? name = some n

variable {names later last : NameTable}

theorem KeptBy.refl (names : NameTable) : names.KeptBy names := fun _ _ number => number

theorem KeptBy.trans (first : names.KeptBy later) (second : later.KeptBy last) :
    names.KeptBy last :=
  fun name n number => second name n (first name n number)

theorem keptBy_noteAll (names : NameTable) (mentions : List Mention) :
    names.KeptBy (names.noteAll mentions) := by
  induction mentions generalizing names with
  | nil => exact KeptBy.refl names
  | cons name rest ih => exact KeptBy.trans (fun _ _ => number?_note) (ih (names.note name))

theorem noteAll_append (names : NameTable) (xs ys : List Mention) :
    names.noteAll (xs ++ ys) = (names.noteAll xs).noteAll ys := List.foldl_append

end NameTable

/-- Types that are all new are added behind the others. -/
theorem TypeSet.members_extend_of_nodup {s : TypeSet} {types : List NamedType}
    (nodup : (s.members ++ types).Nodup) : (s.extend types).members = s.members ++ types := by
  induction types generalizing s with
  | nil => exact (List.append_nil _).symm
  | cons t types ih =>
    have new : t ∉ s := fun old => List.disjoint_of_nodup_append nodup old List.mem_cons_self
    have grown : (s.insert t).members = s.members ++ [t] := (members_insert s t).trans (if_neg new)
    have split : s.members ++ t :: types = (s.insert t).members ++ types := by
      rw [grown, List.append_assoc, List.singleton_append]
    rw [split] at nodup ⊢
    exact ih nodup

namespace Interned

/-! ## Numbers -/

def TypeId.StandsFor (names : NameTable) (id : TypeId) (name : TypeName) : Prop :=
  names.number? (.type name) = some id.number

def CallableId.StandsFor (names : NameTable) (id : CallableId) (name : CallableName) : Prop :=
  names.number? (.callable name) = some id.number

section

variable {names later : NameTable}

theorem TypeId.StandsFor.mono {id : TypeId} {name : TypeName} (h : id.StandsFor names name)
    (kept : names.KeptBy later) : id.StandsFor later name := kept _ _ h

theorem CallableId.StandsFor.mono {id : CallableId} {name : CallableName}
    (h : id.StandsFor names name) (kept : names.KeptBy later) : id.StandsFor later name :=
  kept _ _ h

theorem TypeId.StandsFor.name_eq {id : TypeId} {name : TypeName} (h : id.StandsFor names name) :
    id.name names = name := by
  rw [TypeId.name, NameTable.typeName?, Roster.find?_eq_some_iff.1 h, Option.getD_some]

theorem CallableId.StandsFor.name_eq {id : CallableId} {name : CallableName}
    (h : id.StandsFor names name) : id.name names = name := by
  rw [CallableId.name, NameTable.callableName?, Roster.find?_eq_some_iff.1 h, Option.getD_some]

/-- A number stands for one name, and no other number does. -/
theorem TypeId.biUnique (names : NameTable) : Relator.BiUnique (TypeId.StandsFor names) := by
  constructor
  · intro id id' name h h'
    have same := (NameTable.eq_iff_of_number? h h' rfl).2 rfl
    cases id
    cases id'
    exact congrArg TypeId.mk same
  · intro id name name' h h'
    exact Mention.type.inj ((NameTable.eq_iff_of_number? h h' rfl).1 rfl)

theorem CallableId.biUnique (names : NameTable) :
    Relator.BiUnique (CallableId.StandsFor names) := by
  constructor
  · intro id id' name h h'
    have same := (NameTable.eq_iff_of_number? h h' rfl).2 rfl
    cases id
    cases id'
    exact congrArg CallableId.mk same
  · intro id name name' h h'
    exact Mention.callable.inj ((NameTable.eq_iff_of_number? h h' rfl).1 rfl)

end

/-! ## Types -/

structure TypeRef.StandsFor (names : NameTable) (t : TypeRef) (u : NamedType) : Prop where
  id : t.id.StandsFor names u.name
  nullable : t.nullable = u.nullable

namespace TypeRef

variable {names later : NameTable} {t : TypeRef} {u : NamedType}

theorem StandsFor.mono (h : t.StandsFor names u) (kept : names.KeptBy later) :
    t.StandsFor later u := ⟨h.id.mono kept, h.nullable⟩

theorem StandsFor.named_eq (h : t.StandsFor names u) : t.named names = u := by
  rw [named, h.id.name_eq, h.nullable]

theorem standsFor_plain {id : TypeId} {name : TypeName} (h : id.StandsFor names name) :
    (plain id).StandsFor names (.plain name) := ⟨h, rfl⟩

theorem biUnique (names : NameTable) : Relator.BiUnique (StandsFor names) := by
  constructor
  · rintro ⟨id, n⟩ ⟨id', n'⟩ u h h'
    rw [mk.injEq]
    exact ⟨(TypeId.biUnique names).1 h.id h'.id, h.nullable.trans h'.nullable.symm⟩
  · rintro t ⟨name, n⟩ ⟨name', n'⟩ h h'
    rw [NamedType.mk.injEq]
    exact ⟨(TypeId.biUnique names).2 h.id h'.id, h.nullable.symm.trans h'.nullable⟩

end TypeRef

/-! ## Sets of types -/

def TypeSet.StandsFor (names : NameTable) (s : TypeSet) (s' : Uncaught.TypeSet) : Prop :=
  List.Forall₂ (TypeRef.StandsFor names) s.members s'.members

namespace TypeSet

variable {names later : NameTable} {s other : TypeSet} {s' other' : Uncaught.TypeSet}
  {t : TypeRef} {t' : NamedType}

theorem StandsFor.mono (h : s.StandsFor names s') (kept : names.KeptBy later) :
    s.StandsFor later s' := List.Forall₂.imp (fun _ _ h => h.mono kept) h

theorem standsFor_empty : empty.StandsFor names .empty := .nil

theorem StandsFor.isEmpty_eq (h : s.StandsFor names s') : s.isEmpty = s'.isEmpty :=
  List.Forall₂.isEmpty_eq h

theorem StandsFor.insert (h : s.StandsFor names s') (ht : t.StandsFor names t') :
    (s.insert t).StandsFor names (s'.insert t') := by
  have known : t ∈ s.members ↔ t' ∈ s' := List.rel_mem (TypeRef.biUnique names) ht h
  unfold TypeSet.StandsFor TypeSet.insert
  rw [Uncaught.TypeSet.members_insert]
  by_cases member : t ∈ s.members
  · rw [if_pos member, if_pos (known.1 member)]
    exact h
  · rw [if_neg member, if_neg (fun member' => member (known.2 member'))]
    exact List.rel_append h (.cons ht .nil)

theorem StandsFor.extend (h : s.StandsFor names s') {types : List TypeRef}
    {types' : List NamedType} (ht : List.Forall₂ (TypeRef.StandsFor names) types types') :
    (s.extend types).StandsFor names (s'.extend types') := by
  unfold TypeSet.extend Uncaught.TypeSet.extend
  induction ht generalizing s s' with
  | nil => exact h
  | cons first _ ih => exact ih (h.insert first)

theorem StandsFor.union (h : s.StandsFor names s') (h' : other.StandsFor names other') :
    (s.union other).StandsFor names (s'.union other') := h.extend h'

theorem standsFor_singleton (ht : t.StandsFor names t') :
    (singleton t).StandsFor names (.singleton t') := standsFor_empty.insert ht

theorem StandsFor.filter (h : s.StandsFor names s') {keep : TypeRef → Bool}
    {keep' : NamedType → Bool} (same : ∀ t t', t.StandsFor names t' → keep t = keep' t') :
    (s.filter keep).StandsFor names (s'.filter keep') := by
  refine List.rel_filter (fun t t' ht => ?_) h
  show keep t = true ↔ keep' t' = true
  rw [same t t' ht]

theorem StandsFor.castable_eq {mixed : TypeId} (hm : mixed.StandsFor names TypeName.mixed)
    (h : s.StandsFor names s') (h' : other.StandsFor names other') :
    castable mixed s other = s'.castable other' := by
  have admitsAll (t t') (ht : TypeRef.StandsFor names t t') :
      decide (t.id = mixed) = decide (t'.name = TypeName.mixed) :=
    decide_eq_decide.2 (Relator.rel_eq (TypeId.biUnique names) ht.id hm)
  have shared (t t') (ht : TypeRef.StandsFor names t t') :
      other.members.any (·.id = t.id) = other'.members.any (·.name = t'.name) :=
    List.Forall₂.any_eq h' fun u u' hu =>
      decide_eq_decide.2 (Relator.rel_eq (TypeId.biUnique names) hu.id ht.id)
  rw [castable, Uncaught.TypeSet.castable, List.Forall₂.any_eq h' admitsAll,
    List.Forall₂.any_eq h shared]

theorem StandsFor.map_named (h : s.StandsFor names s') :
    s.members.map (TypeRef.named names) = s'.members :=
  List.Forall₂.map_eq h fun _ _ ht => ht.named_eq

/-- What a set of numbers stands for can be read off the table of names. -/
theorem StandsFor.named_eq (h : s.StandsFor names s') : s.named names = s' := by
  refine Uncaught.TypeSet.eq_of_members ?_
  rw [named, h.map_named]
  exact Uncaught.TypeSet.members_extend_of_nodup s'.nodup

theorem StandsFor.render_eq (h : s.StandsFor names s') : s.render names = s'.render := by
  rw [render, Uncaught.TypeSet.render, ← h.map_named, List.map_map]
  rfl

end TypeSet

/-! ## Computations that enter names -/

/-- From a table on, a computation enters the names that another one notes, and its result is
related to the other's under the table that it leaves. -/
structure Follows {α β : Type} (names : NameTable) (related : NameTable → α → β → Prop)
    (x : Interning α) (y : Noted β) : Prop where
  names_eq : (x.run names).2 = names.noteAll y.log
  value : related (x.run names).2 (x.run names).1 y.value

namespace Follows

variable {α β γ δ : Type} {names : NameTable} {related : NameTable → α → β → Prop}
  {related' : NameTable → γ → δ → Prop} {x : Interning α} {y : Noted β}

theorem keptBy (h : Follows names related x y) : names.KeptBy (x.run names).2 := by
  rw [h.names_eq]
  exact names.keptBy_noteAll y.log

protected theorem pure {a : α} {b : β} (h : related names a b) :
    Follows names related (pure a) (pure b) := ⟨rfl, h⟩

protected theorem bind {f : α → Interning γ} {g : β → Noted δ} (first : Follows names related x y)
    (next : ∀ later a b, names.KeptBy later → related later a b →
      Follows later related' (f a) (g b)) :
    Follows names related' (x >>= f) (y >>= g) := by
  -- The second part starts from the table with the names of the first one, and adds its own.
  have next := next _ _ _ first.keptBy first.value
  refine ⟨?_, next.value⟩
  rw [Logged.log_bind]
  exact (next.names_eq.trans (by rw [first.names_eq])).trans (names.noteAll_append _ _).symm

protected theorem map {f : α → γ} {g : β → δ} (first : Follows names related x y)
    (next : ∀ later a b, related later a b → related' later (f a) (g b)) :
    Follows names related' (f <$> x) (g <$> y) := by
  have sequence : g <$> y = y >>= fun b => pure (g b) := rfl
  rw [sequence, map_eq_pure_bind]
  exact first.bind fun later a b _ h => Follows.pure (next later a b h)

/-- A run follows another one if each of its steps does. -/
protected theorem foldl {ι : Type} {step : Interning α → ι → Interning α}
    {step' : Noted β → ι → Noted β} (xs : List ι)
    (each : ∀ a b i, Follows names related a b → Follows names related (step a i) (step' b i))
    (before : Follows names related x y) :
    Follows names related (xs.foldl step x) (xs.foldl step' y) := by
  induction xs generalizing x y with
  | nil => exact before
  | cons i xs ih => exact ih (each x y i before)

/-- Looking at the table enters nothing. -/
protected theorem get {f : NameTable → Interning α} (h : Follows names related (f names) y) :
    Follows names related (get >>= f) y := ⟨h.names_eq, h.value⟩

theorem internType (names : NameTable) (name : TypeName) :
    Follows names (fun later id _ => id.StandsFor later name) (Interned.internType name)
      (mention (.type name)) := ⟨rfl, Roster.find?_enter_self⟩

theorem internCallable (names : NameTable) (name : CallableName) :
    Follows names (fun later id _ => id.StandsFor later name) (Interned.internCallable name)
      (mention (.callable name)) := ⟨rfl, Roster.find?_enter_self⟩

end Follows

/-! ## Reading sets of types -/

namespace TypeSet

variable {names : NameTable} {s : TypeSet} {s' : Uncaught.TypeSet}

theorem follows_parsePieces (h : s.StandsFor names s') (pieces : List (List Char)) :
    Follows names StandsFor (s.parsePieces pieces) (s'.parsePieces pieces) := by
  induction pieces generalizing names s s' with
  | nil => exact Follows.pure h
  | cons piece rest ih =>
    rw [parsePieces, Uncaught.TypeSet.parsePieces]
    cases NamedType.ofPiece? piece with
    | none => exact Follows.pure standsFor_empty
    | some t =>
      refine (Follows.internType names t.name).bind fun later id _ kept hid => ?_
      exact ih ((h.mono kept).insert ⟨hid, rfl⟩)

theorem follows_parse (names : NameTable) (source : String) :
    Follows names StandsFor (parse source) (Uncaught.TypeSet.parse source) :=
  follows_parsePieces standsFor_empty _

theorem follows_parseAll (h : s.StandsFor names s') (sources : List String) :
    Follows names StandsFor (s.parseAll sources) (s'.parseAll sources) := by
  induction sources generalizing names s s' with
  | nil => exact Follows.pure h
  | cons source rest ih =>
    refine (follows_parse names source).bind fun later types types' kept ht => ?_
    exact ih ((h.mono kept).union ht)

end TypeSet

end Interned

end Uncaught
