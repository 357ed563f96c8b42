import Mathlib.Data.Finset.Card
import Uncaught.Proofs.Names

/-!
The numbers that a name table gives.

A table of names is called with spellings. Some calls enter the name that is spelled out, some only
look it up, and all of them answer with its number, if it has one. A history of calls leaves the
table with the names that were to be entered and with nothing else (`after_eq_noteAll`), and
whatever a call has answered is still the number of the name afterwards (`number?_of_mem_transcript`).
So numbers stand for names as if each name had been given one beforehand: calls answer with the same
number exactly if they spell out the same name, and the number leads back to the name at any later
time (`numbers_stand_for_names`). Names of types and names of callables are numbered independently;
what is done with the ones is not seen in the others (`AgreeOn`).
-/
namespace Uncaught

/-- Types and callables are numbered apart. -/
inductive NameKind where
  | type
  | callable
deriving DecidableEq

def Mention.kind : Mention → NameKind
  | .type _ => .type
  | .callable _ => .callable

/-- What a table of names can be called for. -/
inductive NameCall where
  | internType (spelling : String)
  | findType (spelling : String)
  | internCallable (spelling : String)
  | internMethod (className method : String)
  | findCallable (spelling : String)
deriving DecidableEq

namespace NameCall

/-- The name that is spelled out. -/
def name : NameCall → Mention
  | internType spelling | findType spelling => .type (TypeName.ofText spelling)
  | internCallable spelling | findCallable spelling => .callable (CallableName.ofText spelling)
  | internMethod className method => .callable (CallableName.ofMethod className method)

def kind (c : NameCall) : NameKind := c.name.kind

/-- The name is to be entered, not only to be looked up. -/
def isIntern : NameCall → Bool
  | internType _ | internCallable _ | internMethod _ _ => true
  | findType _ | findCallable _ => false

/-- The names that some calls enter. -/
def interned (calls : List NameCall) : List Mention := (calls.filter isIntern).map name

end NameCall

namespace NameTable

/-- The answer to a call and the table after it. -/
def perform (t : NameTable) : NameCall → Option Nat × NameTable
  | .internType spelling => (t.internType spelling).map some id
  | .findType spelling => (t.type? spelling, t)
  | .internCallable spelling => (t.internCallable spelling).map some id
  | .internMethod className method => (t.internMethod className method).map some id
  | .findCallable spelling => (t.callable? spelling, t)

def after (t : NameTable) (calls : List NameCall) : NameTable :=
  calls.foldl (fun t c => (t.perform c).2) t

/-- The calls of a history, each with its answer. -/
def transcript (t : NameTable) : List NameCall → List (NameCall × Option Nat)
  | [] => []
  | c :: rest => (c, (t.perform c).1) :: (t.perform c).2.transcript rest

/-- The name that a number stands for. -/
def resolve? (t : NameTable) : NameKind → Nat → Option Mention
  | .type, n => (t.typeName? n).map .type
  | .callable, n => (t.callableName? n).map .callable

variable {t t' : NameTable} {name other : Mention} {kind : NameKind} {c : NameCall}
  {calls : List NameCall} {m n : Nat}

/-! ## Names and numbers -/

theorem number?_eq_some_iff : t.number? name = some n ↔ t.resolve? name.kind n = some name := by
  cases name with
  | type name =>
    show t.types.find? name = some n ↔ (t.types.resolve? n).map Mention.type = some (.type name)
    simp [Roster.find?_eq_some_iff]
  | callable name =>
    show t.callables.find? name = some n ↔
      (t.callables.resolve? n).map Mention.callable = some (.callable name)
    simp [Roster.find?_eq_some_iff]

/-- A name has one number, and no other name of its kind has it. -/
theorem eq_iff_of_number? (number : t.number? name = some m) (number' : t.number? other = some n)
    (kinds : name.kind = other.kind) : m = n ↔ name = other := by
  constructor
  · rintro rfl
    rw [number?_eq_some_iff] at number number'
    rw [kinds, number'] at number
    exact (Option.some.inj number).symm
  · rintro rfl
    exact Option.some.inj (number.symm.trans number')

/-- A name keeps its number when others are entered. -/
theorem number?_note (found : t.number? name = some n) : (t.note other).number? name = some n := by
  cases name with
  | type name =>
    cases other with
    | type other => exact Roster.find?_enter found
    | callable other => exact found
  | callable name =>
    cases other with
    | type other => exact found
    | callable other => exact Roster.find?_enter found

/-! ## Calls -/

/-- A call to enter a name notes the name, and a call to look one up changes nothing. -/
theorem perform_snd : (t.perform c).2 = t.noteAll (NameCall.interned [c]) := by
  cases c <;> rfl

/-- A call answers with the number that the name has afterwards. -/
theorem perform_fst : (t.perform c).1 = (t.perform c).2.number? c.name := by
  cases c with
  | internType spelling => exact Roster.find?_enter_self.symm
  | internCallable spelling => exact Roster.find?_enter_self.symm
  | internMethod className method => exact Roster.find?_enter_self.symm
  | findType spelling => rfl
  | findCallable spelling => rfl

/-- A call answers if it enters the name or the name is there. -/
theorem isSome_perform_iff :
    (t.perform c).1.isSome = true ↔ c.isIntern = true ∨ t.Has c.name := by
  -- A call answers exactly if its name is in the table after it.
  rw [perform_fst, Option.isSome_iff_exists, exists_number?_iff, perform_snd, has_noteAll, or_comm]
  cases c <;> simp [NameCall.interned, NameCall.isIntern]

/-! ## Histories -/

theorem after_eq_noteAll : t.after calls = t.noteAll (NameCall.interned calls) := by
  induction calls generalizing t with
  | nil => rfl
  | cons c rest ih =>
    have parts : NameCall.interned (c :: rest) = NameCall.interned [c] ++ NameCall.interned rest := by
      simp only [NameCall.interned, ← List.map_append, ← List.filter_append, List.singleton_append]
    rw [after, List.foldl_cons, ← after, ih, perform_snd, parts]
    exact List.foldl_append.symm

/-- A name has been entered exactly if some call entered it. -/
theorem has_after_empty : (empty.after calls).Has name ↔ name ∈ NameCall.interned calls := by
  have nothing : ¬ empty.Has name := by cases name <;> exact List.not_mem_nil
  rw [after_eq_noteAll, has_noteAll, or_iff_right nothing]

theorem number?_after (found : t.number? name = some n) :
    (t.after calls).number? name = some n := by
  rw [after_eq_noteAll]
  induction NameCall.interned calls generalizing t with
  | nil => exact found
  | cons other rest ih => exact ih (number?_note found)

/-- What a call has answered is still the number of the name after the history. -/
theorem number?_of_mem_transcript (answered : (c, some n) ∈ t.transcript calls) :
    (t.after calls).number? c.name = some n := by
  induction calls generalizing t with
  | nil => cases answered
  | cons first rest ih =>
    rcases List.mem_cons.1 answered with same | later
    · obtain ⟨rfl, number⟩ := Prod.mk.inj same
      -- The rest of the history leaves the number alone.
      rw [perform_fst] at number
      show ((t.perform c).2.after rest).number? c.name = some n
      exact number?_after number.symm
    · exact ih later

/-- There are as many types as the calls that enter types have names. -/
theorem typeCount_after_empty :
    (empty.after calls).typeCount =
      ((NameCall.interned calls).filter (·.kind = .type)).toFinset.card := by
  -- Both sides count the members of one list without repetition.
  have distinct : ((empty.after calls).types.entries.map Mention.type).Nodup :=
    (empty.after calls).types.nodup.map fun _ _ same => Mention.type.inj same
  have members : ((NameCall.interned calls).filter (·.kind = .type)).toFinset =
      ((empty.after calls).types.entries.map Mention.type).toFinset := by
    ext name
    rw [List.mem_toFinset, List.mem_toFinset, List.mem_filter, ← has_after_empty]
    cases name <;> simp [Has, Mention.kind]
  rw [members, List.toFinset_card_of_nodup distinct, List.length_map]
  rfl

/-! ## Types apart from callables -/

/-- Two tables have the same names of one kind with the same numbers. -/
def AgreeOn : NameKind → NameTable → NameTable → Prop
  | .type, t, t' => t.types = t'.types
  | .callable, t, t' => t.callables = t'.callables

namespace AgreeOn

theorem resolve? (agree : AgreeOn kind t t') : t.resolve? kind n = t'.resolve? kind n := by
  cases kind with
  | type => exact congrArg (fun names => (Roster.resolve? names n).map Mention.type) agree
  | callable => exact congrArg (fun names => (Roster.resolve? names n).map Mention.callable) agree

/-- A call sees names of its kind only. -/
theorem perform (agree : AgreeOn c.kind t t') :
    (t.perform c).1 = (t'.perform c).1 ∧ AgreeOn c.kind (t.perform c).2 (t'.perform c).2 := by
  obtain ⟨types, callables⟩ := t
  obtain ⟨types', callables'⟩ := t'
  cases c with
  | internType spelling | findType spelling =>
    obtain rfl : types = types' := agree
    exact ⟨rfl, rfl⟩
  | internCallable spelling | findCallable spelling | internMethod className method =>
    obtain rfl : callables = callables' := agree
    exact ⟨rfl, rfl⟩

/-- A call leaves the names of the other kind alone. -/
theorem perform_left (agree : AgreeOn kind t t') (other : c.kind ≠ kind) :
    AgreeOn kind (t.perform c).2 t' := by
  cases kind with
  | type =>
    cases c with
    | internType spelling | findType spelling => exact absurd rfl other
    | internCallable spelling | findCallable spelling | internMethod className method => exact agree
  | callable =>
    cases c with
    | internType spelling | findType spelling => exact agree
    | internCallable spelling | findCallable spelling | internMethod className method =>
      exact absurd rfl other

/-- The names of one kind are the same without the calls of the other kind. -/
theorem after (agree : AgreeOn kind t t') :
    AgreeOn kind (t.after calls) (t'.after (calls.filter (·.kind = kind))) := by
  induction calls generalizing t t' with
  | nil => exact agree
  | cons c rest ih =>
    by_cases own : c.kind = kind
    · subst own
      rw [List.filter_cons_of_pos (by simp)]
      exact ih agree.perform.2
    · rw [List.filter_cons_of_neg (by simpa using own)]
      exact ih (agree.perform_left own)

end AgreeOn

end NameTable

open NameTable in
/-- **Numbers stand for names.** Let a new table of names go through any history of calls. Two
answers to calls for types, or for callables, are the same number exactly if the calls spelled out
the same name, and the number leads to that name after the whole history. A further call answers
exactly if it enters its name or an earlier call has entered it, and one that only looks a name up
changes nothing. There are as many types as the calls have entered distinct ones. Without the calls
for names of the other kind, every further call would be answered the same, every number would stand
for the same name, and there would be as many types. -/
theorem numbers_stand_for_names (calls : List NameCall) :
    let t := NameTable.empty.after calls
    let answered := NameTable.empty.transcript calls
    (∀ c m d n, (c, some m) ∈ answered → (d, some n) ∈ answered → c.kind = d.kind →
      (m = n ↔ c.name = d.name)) ∧
    (∀ c n, (c, some n) ∈ answered → t.resolve? c.kind n = some c.name) ∧
    (∀ c, ((t.perform c).1.isSome = true ↔
        c.isIntern = true ∨ c.name ∈ NameCall.interned calls) ∧
      (c.isIntern = false → (t.perform c).2 = t)) ∧
    t.typeCount = ((NameCall.interned calls).filter (·.kind = .type)).toFinset.card ∧
    ∀ kind,
      let apart := NameTable.empty.after (calls.filter (·.kind = kind))
      (∀ c, c.kind = kind → (t.perform c).1 = (apart.perform c).1) ∧
      (∀ n, t.resolve? kind n = apart.resolve? kind n) ∧
      (kind = .type → t.typeCount = apart.typeCount) := by
  intro t answered
  refine ⟨?_, ?_, ?_, typeCount_after_empty, ?_⟩
  · intro c m d n first second kinds
    exact eq_iff_of_number? (number?_of_mem_transcript first) (number?_of_mem_transcript second) kinds
  · intro c n answer
    exact number?_eq_some_iff.1 (number?_of_mem_transcript answer)
  · intro c
    constructor
    · rw [isSome_perform_iff, has_after_empty]
    · intro only
      rw [perform_snd, NameCall.interned, List.filter_cons_of_neg (by simp [only])]
      rfl
  · intro kind apart
    have agree : AgreeOn kind t apart := by
      apply AgreeOn.after
      cases kind <;> rfl
    refine ⟨?_, fun n => agree.resolve?, ?_⟩
    · rintro c rfl
      exact agree.perform.1
    · rintro rfl
      exact congrArg Roster.size agree

namespace Respelled

/-- One method by its class and by its identity, and two types that are spelled alike but for case,
of which only one is entered. -/
def calls : List NameCall :=
  [.findType "\\A", .internMethod " \\A" "m", .internType "A ", .findCallable "A::m ",
    .internCallable "a::m", .findType "a"]

/-- The method has one number in both spellings and the other callable a different one; the type
that was only looked up has none. -/
theorem respelled_names_share_numbers :
    let t := NameTable.empty.after calls
    let answered := NameTable.empty.transcript calls
    (.internMethod " \\A" "m", some 0) ∈ answered ∧ (.findCallable "A::m ", some 0) ∈ answered ∧
    (.internCallable "a::m", some 1) ∈ answered ∧
    (NameCall.internMethod " \\A" "m").name = (NameCall.findCallable "A::m ").name ∧
    (NameCall.internMethod " \\A" "m").name ≠ (NameCall.internCallable "a::m").name ∧
    t.resolve? .callable 0 = some (.callable ⟨"A::m"⟩) ∧
    (t.perform (.findType "a")).1 = none ∧ (t.perform (.findType "a")).2 = t ∧ t.typeCount = 1 := by
  intro t answered
  obtain ⟨same, leads, answers, types, -⟩ := numbers_stand_for_names calls
  have first : (.internMethod " \\A" "m", some 0) ∈ answered := by decide +kernel
  have again : (.findCallable "A::m ", some 0) ∈ answered := by decide +kernel
  have other : (.internCallable "a::m", some 1) ∈ answered := by decide +kernel
  have missing : (NameCall.findType "a").name ∉ NameCall.interned calls := by decide +kernel
  refine ⟨first, again, other, (same _ _ _ _ first again rfl).1 rfl,
    mt (same _ _ _ _ first other rfl).2 (by decide), ?_, ?_, (answers _).2 rfl, ?_⟩
  · exact (leads _ _ first).trans (by decide +kernel)
  · refine Option.not_isSome_iff_eq_none.1 fun found => ?_
    rcases (answers _).1.1 found with enters | entered
    · cases enters
    · exact missing entered
  · exact types.trans (by decide +kernel)

end Respelled

end Uncaught
