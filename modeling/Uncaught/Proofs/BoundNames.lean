import Uncaught.Proofs.References

/-!
What a variable calls.

The callables of a variable are looked up by their names when the variable is bound, and the name of
a call when it is called. Both look for the lower case of the name, but only a call drops the
separators in front first, as the table of names does with its keys. Lower case leaves a separator
in front where it is and puts none there (`isRooted_lowercase`). So no key is rooted, a rooted name
binds nothing, and any other name binds exactly what a call by it reaches
(`boundCallables_ofDeclarations`). A call of the variable therefore reaches what calls by its names
reach, except for those names that are rooted (`bound_names_are_called`).
-/
namespace Uncaught

namespace Text

/-! ## Lower case and the separator -/

theorem separator_lt_image : ∀ run ∈ lowercaseRuns, '\\'.toNat < run.image := by
  decide +kernel

/-- A code point stays as it is or comes to lie above a bound of all images. -/
theorem lowercaseCode_eq_or_lt {runs : List CaseRun} {bound : Nat}
    (above : ∀ run ∈ runs, bound < run.image) (n : Nat) :
    lowercaseCode runs n = n ∨ bound < lowercaseCode runs n := by
  induction runs with
  | nil => exact .inl rfl
  | cons run rest ih =>
    have image := above run List.mem_cons_self
    rw [lowercaseCode]
    split
    · exact .inl rfl
    · split
      · right
        omega
      · exact ih fun r hr => above r (List.mem_cons_of_mem run hr)

theorem toNat_ofNat_eq_or_zero (n : Nat) : (Char.ofNat n).toNat = n ∨ (Char.ofNat n).toNat = 0 := by
  by_cases valid : n.isValidChar
  · exact .inl (congrArg Char.toNat (dif_pos valid))
  · exact .inr (congrArg Char.toNat (dif_neg valid))

theorem head?_lowercaseChar_append {c : Char} {rest : List Char} :
    (lowercaseChar c ++ rest).head? = some '\\' ↔ c = '\\' := by
  rw [lowercaseChar]
  split
  next dotted =>
    rw [dotted, List.cons_append, List.head?_cons]
    decide
  next =>
    rw [List.singleton_append, List.head?_cons, Option.some.injEq]
    constructor
    · intro separator
      have code := toNat_ofNat_eq_or_zero (lowercaseCode lowercaseRuns c.toNat)
      rcases lowercaseCode_eq_or_lt separator_lt_image c.toNat with same | above
      · rw [← Char.ofNat_toNat c, ← same, separator]
      · rw [separator] at code
        have positive : 0 < '\\'.toNat := by decide
        omega
    · rintro rfl
      decide +kernel

theorem head?_lowercaseAfter {before cs : List Char} :
    (lowercaseAfter before cs).head? = some '\\' ↔ cs.head? = some '\\' := by
  cases cs with
  | nil => rfl
  | cons c rest =>
    rw [lowercaseAfter, List.head?_cons, Option.some.injEq]
    split
    next sigma =>
      rw [sigma, List.singleton_append, List.head?_cons]
      split <;> decide
    next => exact head?_lowercaseChar_append

end Text

/-! ## Rooted names -/

/-- A separator stands in front of the name. -/
def IsRooted (name : String) : Prop := name.toList.head? = some '\\'

instance : DecidablePred IsRooted := fun name =>
  inferInstanceAs (Decidable (name.toList.head? = some '\\'))

section

variable {name : String}

theorem isRooted_lowercase : IsRooted (Text.lowercase name) ↔ IsRooted name := by
  rw [IsRooted, Text.lowercase, String.toList_ofList]
  exact Text.head?_lowercaseAfter

theorem not_isRooted_stripLeading : ¬ IsRooted (Text.stripLeading '\\' name) := by
  intro rooted
  rw [IsRooted, Text.toList_stripLeading] at rooted
  have other := List.head?_dropWhile_not (· == '\\') name.toList
  rw [rooted] at other
  exact absurd other (by decide)

theorem not_isRooted_lookupKey : ¬ IsRooted (lookupKey name) := fun rooted =>
  not_isRooted_stripLeading (isRooted_lowercase.1 rooted)

theorem stripLeading_of_not_isRooted (unrooted : ¬ IsRooted name) :
    Text.stripLeading '\\' name = name := by
  apply String.toList_injective
  rw [Text.toList_stripLeading]
  rw [IsRooted] at unrooted
  cases chars : name.toList with
  | nil => rfl
  | cons c rest =>
    rw [chars, List.head?_cons, Option.some.injEq] at unrooted
    exact List.dropWhile_cons_of_neg (by simpa using unrooted)

theorem lookupKey_of_not_isRooted (unrooted : ¬ IsRooted name) :
    lookupKey name = Text.lowercase name := by
  rw [lookupKey, stripLeading_of_not_isRooted unrooted]

end

/-! ## What names are bound to -/

/-- What is left out changes nothing if and only if it has no values. -/
theorem filterMap_filter_eq_iff {α β : Type} {test : α → Bool} {f : α → Option β} {l : List α} :
    (l.filter test).filterMap f = l.filterMap f ↔ ∀ a ∈ l, test a = false → f a = none := by
  induction l with
  | nil => simp
  | cons a rest ih =>
    rw [List.forall_mem_cons, ← ih]
    cases kept : test a with
    | true =>
      rw [List.filter_cons_of_pos kept, List.filterMap_cons, List.filterMap_cons]
      cases f a <;> simp
    | false =>
      rw [List.filter_cons_of_neg (by simp [kept])]
      cases value : f a with
      | none =>
        rw [List.filterMap_cons_none value]
        simp
      | some b =>
        rw [List.filterMap_cons_some value]
        have fewer := ((List.filter_sublist (p := test) (l := rest)).filterMap f).length_le
        have longer : (rest.filter test).filterMap f ≠ b :: rest.filterMap f := by
          intro same
          rw [same, List.length_cons] at fewer
          omega
        simp [longer]

namespace Codebase

variable {ds : List Declaration} {names : List String}

/-- No name that leads to a callable is rooted. -/
theorem index_of_isRooted {key : String} (rooted : IsRooted key) :
    (ofDeclarations ds).program.index.get? key = none := by
  rw [index_ofDeclarations, Option.map_eq_none_iff, lastRegistration?_eq_none_iff]
  intro d _ r _
  refine decide_eq_false fun same => ?_
  rw [← same] at rooted
  exact not_isRooted_lookupKey rooted

/-- Names are bound to what the unrooted ones lead to. -/
theorem boundCallables_ofDeclarations :
    (ofDeclarations ds).program.boundCallables names =
      (names.filter (¬ IsRooted ·)).filterMap fun name =>
        (ofDeclarations ds).program.index.get? (lookupKey name) := by
  rw [Program.boundCallables, List.filterMap_filter]
  refine List.filterMap_congr fun name _ => ?_
  by_cases rooted : IsRooted name
  · rw [index_of_isRooted (isRooted_lowercase.2 rooted)]
    simp [rooted]
  · rw [lookupKey_of_not_isRooted rooted]
    simp [rooted]

end Codebase

namespace Program

variable {p : Program} {scope : Routine}

/-- The callables that calls by some names reach, one call after the other. -/
def targetsOfNames (p : Program) (scope : Routine) (names : List String) : List Callable :=
  names.flatMap fun name => (p.callTargets scope (.name name)).toOption.getD []

theorem callTargets_name (name : String) :
    p.callTargets scope (.name name) =
      (p.callableNamed? name).elim (.error .notFound) fun callable => .ok [callable] := by
  rw [callTargets]
  cases p.callableNamed? name <;> rfl

theorem callTargets_name_eq_notFound {name : String} :
    p.callTargets scope (.name name) = .error .notFound ↔ p.callableNamed? name = none := by
  rw [callTargets_name]
  cases p.callableNamed? name <;> simp

theorem targetsOfNames_eq (names : List String) :
    p.targetsOfNames scope names = names.filterMap p.callableNamed? := by
  rw [targetsOfNames, List.filterMap_eq_flatMap_toList]
  congr 1
  funext name
  rw [callTargets_name]
  cases p.callableNamed? name <;> rfl

/-- A call of a variable that was bound just now reaches what it was bound to. -/
theorem callTargets_var_declare {function spelling holder : String} {names : List String}
    (same : VariableKey.ofNames function spelling = VariableKey.ofNames scope.fullName holder) :
    (p.declare (.variableCallables function spelling names)).value.callTargets scope
        (.var holder) = .ok ((p.boundCallables names).filterMap p.callable?) := by
  have held : (p.declare (.variableCallables function spelling names)).value.variableCallables?
      scope.fullName holder = some (p.boundCallables names) := by
    rw [variableCallables?, variableCallables_declare, ← same]
    exact Table.get?_insert_self ..
  rw [callTargets, held]
  rfl

end Program

/-- **A variable calls what its unrooted names call.** Directly after a variable of a function was
bound to names, a call of it in this function reaches what calls by these names reach, in their
order and without the names that are not declared, except that nothing is reached by the rooted
ones. So it reaches all that the names call if and only if no rooted one of them calls anything. -/
theorem bound_names_are_called (ds : List Declaration) (names : List String)
    {function spelling holder : String} {scope : Routine}
    (same : VariableKey.ofNames function spelling = VariableKey.ofNames scope.fullName holder) :
    let p := (Codebase.ofDeclarations (ds ++ [.variableCallables function spelling names])).program
    p.callTargets scope (.var holder) =
      .ok (p.targetsOfNames scope (names.filter (¬ IsRooted ·))) ∧
    (p.callTargets scope (.var holder) = .ok (p.targetsOfNames scope names) ↔
      ∀ name ∈ names, IsRooted name → p.callTargets scope (.name name) = .error .notFound) := by
  intro p
  let q := (Codebase.ofDeclarations ds).program
  have declared : p = (q.declare (.variableCallables function spelling names)).value :=
    Codebase.program_ofDeclarations_append ds _
  have reached : p.callTargets scope (.var holder) =
      .ok ((names.filter (¬ IsRooted ·)).filterMap p.callableNamed?) := by
    rw [declared, Program.callTargets_var_declare same, Codebase.boundCallables_ofDeclarations,
      List.filterMap_filterMap]
    rfl
  constructor
  · rw [reached, Program.targetsOfNames_eq]
  · rw [reached, Program.targetsOfNames_eq, Except.ok.injEq, filterMap_filter_eq_iff]
    simp only [Program.callTargets_name_eq_notFound, decide_not, Bool.not_eq_false',
      decide_eq_true_eq]

namespace RespelledCallees

/-- A method and a function in other spellings, between them a name that is not declared, and the
function once more with a separator in front. -/
def names : List String := ["a::M", "gone", "G", "\\g"]

def declarations : List Declaration := [.function "g" (some "X"), .method "A" "m" none]

theorem unrooted_callees_are_called :
    let p := (Codebase.ofDeclarations
      (declarations ++ [.variableCallables "\\F" "$v" names])).program
    let scope : Routine := ⟨"f", .function, none⟩
    p.callTargets scope (.var "v") = .ok (p.targetsOfNames scope ["a::M", "gone", "G"]) ∧
    p.targetsOfNames scope ["a::M", "gone", "G"] = [⟨⟨"A::m"⟩, "A::m"⟩, ⟨⟨"g"⟩, "g"⟩] := by
  intro p scope
  have unrooted : names.filter (¬ IsRooted ·) = ["a::M", "gone", "G"] := by decide +kernel
  have same : VariableKey.ofNames "\\F" "$v" = VariableKey.ofNames scope.fullName "v" := by
    decide +kernel
  have called := (bound_names_are_called declarations names same).1
  rw [unrooted] at called
  exact ⟨called, by decide +kernel⟩

end RespelledCallees

namespace RootedCallee

def declarations : List Declaration :=
  [.function "load" (some "X"), .variableCallables "f" "v" ["\\load"]]

/-- A call of the variable reaches nothing, a call by the only name that it was bound to reaches a
function, and what this function throws is missed. -/
theorem rooted_callee_is_not_called :
    let p := (Codebase.ofDeclarations declarations).program
    let scope : Routine := ⟨"f", .function, none⟩
    p.callTargets scope (.var "v") = .ok [] ∧
    p.targetsOfNames scope ["\\load"] = [⟨⟨"load"⟩, "load"⟩] ∧
    p.contract ⟨⟨"load"⟩, "load"⟩ = .ofTypeName "X" := by
  decide +kernel

end RootedCallee

end Uncaught
