import Mathlib.Data.List.Nodup
import Uncaught.Program.Resolution

/-!
The methods that a look-up comes by.

A look-up of a method goes through the types of a receiver and notes the method of each, its own or
an inherited one, unless it has it already. Then it chooses: the first method that it has come by
(`head?_methodsOn`, `head?_of_chooseMethod`), or a reason why none of them will do. Whatever it
comes by is a method that some class has (`isMethod_of_chosenMethod`).
-/
namespace Uncaught

namespace Program

variable {p : Program} {name : String} {found : List MethodInfo} {types : TypeSet}
  {info : MethodInfo}

/-! ## The methods found on a set -/

/-- A method of a name that some class has. -/
def IsMethod (p : Program) (name : String) (info : MethodInfo) : Prop :=
  ∃ owner, p.methods.get? (MethodKey.ofName owner name) = some info

/-- A method that a look-up on a set may come by. -/
def Reaches (p : Program) (types : TypeSet) (name : String) (info : MethodInfo) : Prop :=
  ∃ t ∈ types, p.inheritedMethod? t.name name = some info

/-- The method that a look-up on a set comes by first. -/
def firstMethod? (p : Program) (types : TypeSet) (name : String) : Option MethodInfo :=
  types.members.findSome? fun t => p.inheritedMethod? t.name name

theorem isMethod_of_inheritedMethod? {className : TypeName}
    (inherits : p.inheritedMethod? className name = some info) : p.IsMethod name info := by
  obtain ⟨owner, -, own⟩ := List.exists_of_findSome?_eq_some inherits
  exact ⟨owner, own⟩

/-- The first method that is found stays in front. -/
theorem head?_methodsOn (found : List MethodInfo) (types : List NamedType) :
    (p.methodsOn name found types).head? =
      found.head?.or (types.findSome? fun t => p.inheritedMethod? t.name name) := by
  induction types generalizing found with
  | nil => simp [methodsOn]
  | cons t types ih =>
    rw [methodsOn, List.findSome?_cons]
    cases p.inheritedMethod? t.name name with
    | none => exact ih found
    | some entry =>
      cases found with
      | nil => exact ih [entry]
      | cons first rest =>
        simp only [ih]
        split <;> simp

theorem nodup_methodsOn (nodup : (found.map (·.id)).Nodup) (types : List NamedType) :
    ((p.methodsOn name found types).map (·.id)).Nodup := by
  induction types generalizing found with
  | nil => exact nodup
  | cons t types ih =>
    rw [methodsOn]
    cases p.inheritedMethod? t.name name with
    | none => exact ih nodup
    | some entry =>
      simp only
      split
      next => exact ih nodup
      next new =>
        refine ih ?_
        have new : ∀ i ∈ found, i.id ≠ entry.id := by simpa using new
        rw [List.map_append, List.nodup_append]
        refine ⟨nodup, by simp, ?_⟩
        intro a ha b hb same
        obtain ⟨i, hi, rfl⟩ := List.mem_map.1 ha
        have last : b = entry.id := by simpa using hb
        exact new i hi (same.trans last)

/-- Every method that is found on some types is one that a class has. -/
theorem isMethod_of_mem_methodsOn {types : List NamedType}
    (methods : ∀ i ∈ found, p.IsMethod name i) (member : info ∈ p.methodsOn name found types) :
    p.IsMethod name info := by
  induction types generalizing found with
  | nil => exact methods info member
  | cons t types ih =>
    rw [methodsOn] at member
    cases inherits : p.inheritedMethod? t.name name with
    | none =>
      rw [inherits] at member
      exact ih methods member
    | some entry =>
      simp only [inherits] at member
      split at member
      next => exact ih methods member
      next =>
        refine ih ?_ member
        intro i hi
        rcases List.mem_append.1 hi with hi | hi
        · exact methods i hi
        · rw [List.mem_singleton.1 hi]
          exact isMethod_of_inheritedMethod? inherits

/-- A look-up on a set reaches what it comes by first. -/
theorem reaches_of_firstMethod? (first : p.firstMethod? types name = some info) :
    p.Reaches types name info := by
  obtain ⟨t, ht, inherits⟩ := List.exists_of_findSome?_eq_some first
  exact ⟨t, ht, inherits⟩

theorem firstMethod?_eq_none_iff :
    p.firstMethod? types name = none ↔ ∀ info, ¬ p.Reaches types name info := by
  rw [firstMethod?, List.findSome?_eq_none_iff]
  constructor
  · intro h info reaches
    obtain ⟨t, ht, inherits⟩ := reaches
    rw [h t ht] at inherits
    cases inherits
  · intro h t ht
    by_contra found
    obtain ⟨info, inherits⟩ := Option.ne_none_iff_exists'.1 found
    exact h info ⟨t, ht, inherits⟩

/-! ## What a look-up chooses -/

/-- The method that a look-up on a set chooses. -/
def chosenMethod (p : Program) (types : TypeSet) (name : String) (lookup : LookupMode) :
    Except Abstention MethodInfo :=
  if types.isEmpty then .error .unresolvable
  else chooseMethod lookup (p.methodsOn name [] types.members)

theorem chooseMethod_object (found : List MethodInfo) :
    chooseMethod .object found = found.head?.elim (.error .deferred) .ok := by
  match found with
  | [] | [_] | _ :: _ :: _ => rfl

theorem chooseMethod_forgiving (found : List MethodInfo) :
    chooseMethod (.static true) found =
      found.head?.elim (.error .deferred) fun m =>
        if m.isStatic then .ok m else .error .deferred := by
  match found with
  | [] | [_] | _ :: _ :: _ => rfl

/-- What is chosen is the first method that was found. -/
theorem head?_of_chooseMethod {lookup : LookupMode} (chosen : chooseMethod lookup found = .ok info) :
    found.head? = some info := by
  cases found with
  | nil => cases chosen
  | cons m rest =>
    cases lookup with
    | object => cases rest <;> simpa [chooseMethod] using chosen
    | static forgiving => cases forgiving <;> cases rest <;> grind [chooseMethod]

/-- A look-up gives up on the methods found for one of two reasons. -/
theorem deferred_or_ambiguous_of_chooseMethod {lookup : LookupMode} {reason : Abstention}
    (given_up : chooseMethod lookup found = .error reason) :
    reason = .deferred ∨ reason = .ambiguous := by
  cases found with
  | nil => exact .inl (Except.error.inj given_up).symm
  | cons m rest =>
    cases lookup with
    | object => cases rest <;> cases given_up
    | static forgiving => cases forgiving <;> cases rest <;> grind [chooseMethod]

theorem methodTargetOn_eq (p : Program) (types : TypeSet) (name : String) (lookup : LookupMode) :
    p.methodTargetOn types name lookup =
      match p.chosenMethod types name lookup with
      | .error reason => .error reason
      | .ok info =>
        match p.callable? info.id with
        | some callable => .ok callable
        | none => .error .notFound := by
  rw [methodTargetOn, chosenMethod]
  split
  · rfl
  · rfl

theorem isMethod_of_chosenMethod {lookup : LookupMode}
    (chosen : p.chosenMethod types name lookup = .ok info) : p.IsMethod name info := by
  rw [chosenMethod] at chosen
  split at chosen
  · cases chosen
  · refine isMethod_of_mem_methodsOn ?_ (List.mem_of_head? (head?_of_chooseMethod chosen))
    exact fun _ hi => absurd hi List.not_mem_nil

/-- On a single class an object's method is the class's own or the inherited one. -/
theorem chosenMethod_singleton (p : Program) (t : NamedType) (name : String) :
    p.chosenMethod (TypeSet.singleton t) name .object =
      (p.inheritedMethod? t.name name).elim (.error .deferred) .ok := by
  show chooseMethod .object (p.methodsOn name [] [t]) = _
  rw [chooseMethod_object, head?_methodsOn, List.findSome?_cons]
  cases p.inheritedMethod? t.name name with
  | none => rfl
  | some info => rfl

end Program

end Uncaught
