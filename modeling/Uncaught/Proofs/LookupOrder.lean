import Mathlib.Data.List.Perm.Subperm
import Uncaught.Proofs.MethodContracts
import Uncaught.Proofs.MethodIdentity
import Uncaught.Proofs.References

/-!
The order of a receiver's types.

A set of types has no order, but it is kept in one, and a look-up of a method goes through the types
in this order. A strict static look-up does not show it: it goes by how many methods there are, and
by the method if there is only one. The other look-ups take the first method that they come by
(`head?_methodsOn`), so two orders of one set have the same answer if and only if their first
methods are the same, or if the look-up is static and neither of the two is. Since every member of a
set can be written in front, all orders have the same answer if and only if there is at most one
method to be found, or the look-up is static and none of the methods is
(`methodTargetOn_orders_iff`).
-/
namespace Uncaught

/-! ## Two orders of one set -/

namespace TypeSet

variable {s other : TypeSet}

theorem same_iff_perm : s.same other = true ↔ s.members.Perm other.members := by
  rw [same, Bool.and_eq_true, beq_iff_eq, List.all_eq_true]
  constructor
  · intro h
    obtain ⟨sizes, members⟩ := h
    have sub : s.members ⊆ other.members := fun t ht => of_decide_eq_true (members t ht)
    exact (List.subperm_of_subset s.nodup sub).perm_of_length_le (Nat.le_of_eq sizes.symm)
  · intro perm
    exact ⟨perm.length_eq, fun t ht => decide_eq_true (perm.mem_iff.1 ht)⟩

/-- Every member of a set that is read out of a text can be written in front. -/
theorem exists_same_starting_with {source : String} {t : NamedType}
    (member : t ∈ (parse source).value) :
    ∃ other rest, (parse source).value.same (parse other).value = true ∧
      (parse other).value.members = t :: rest := by
  have perm : (parse source).value.members.Perm (t :: (parse source).value.members.erase t) :=
    List.perm_cons_erase member
  let front : TypeSet := ⟨_, perm.nodup_iff.1 (parse source).value.nodup⟩
  have readable : front.IsReadable := fun u hu => isReadable_parse source u (perm.mem_iff.2 hu)
  refine ⟨front.render, _, ?_, congrArg members (parse_render readable)⟩
  rw [parse_render readable]
  exact same_iff_perm.2 perm

end TypeSet

namespace Program

/-! ## Which methods are found -/

section

variable {p : Program} {name : String} {found : List MethodInfo} {types : List NamedType}

/-- What a look-up of a method needs of the tables: among methods of one name the identity tells the
method, and every method is registered as a callable. -/
structure MethodsKnown (p : Program) : Prop where
  told : ∀ {name owner owner' info info'},
    p.methods.get? (MethodKey.ofName owner name) = some info →
    p.methods.get? (MethodKey.ofName owner' name) = some info' → info.id = info'.id → info = info'
  registered : ∀ {name owner info}, p.methods.get? (MethodKey.ofName owner name) = some info →
    ∃ callable, p.callable? info.id = some callable ∧ callable.id = info.id

theorem MethodsKnown.eq (known : p.MethodsKnown) {info info' : MethodInfo}
    (method : p.IsMethod name info) (method' : p.IsMethod name info') (same : info.id = info'.id) :
    info = info' := by
  obtain ⟨owner, own⟩ := method
  obtain ⟨owner', own'⟩ := method'
  exact known.told own own' same

/-- What is found are the methods that the types have. -/
theorem mem_methodsOn (known : p.MethodsKnown) (methods : ∀ i ∈ found, p.IsMethod name i)
    {info : MethodInfo} :
    info ∈ p.methodsOn name found types ↔
      info ∈ found ∨ ∃ t ∈ types, p.inheritedMethod? t.name name = some info := by
  induction types generalizing found with
  | nil => simp [methodsOn]
  | cons t types ih =>
    rw [methodsOn]
    cases inherits : p.inheritedMethod? t.name name with
    | none =>
      rw [ih methods]
      simp [inherits]
    | some entry =>
      have method := isMethod_of_inheritedMethod? inherits
      simp only
      split
      next any =>
        -- What has the identity of the entry is the entry, so it is there already.
        obtain ⟨i, hi, same⟩ := List.any_eq_true.1 any
        have present : entry ∈ found := by
          rwa [← known.eq (methods i hi) method (of_decide_eq_true same)]
        rw [ih methods]
        constructor
        · intro h
          rcases h with old | ⟨u, hu, hi⟩
          · exact .inl old
          · exact .inr ⟨u, List.mem_cons_of_mem t hu, hi⟩
        · intro h
          rcases h with old | ⟨u, hu, hi⟩
          · exact .inl old
          · rcases List.mem_cons.1 hu with rfl | hu
            · rw [inherits] at hi
              exact .inl (Option.some.inj hi ▸ present)
            · exact .inr ⟨u, hu, hi⟩
      next =>
        rw [ih]
        · simp [inherits, or_assoc, eq_comm]
        · intro i hi
          rcases List.mem_append.1 hi with hi | hi
          · exact methods i hi
          · rwa [List.mem_singleton.1 hi]

end

/-! ## What a look-up chooses -/

section

variable {p : Program} {name : String} {types other : TypeSet}

/-- Two methods come to the same in a static look-up if they are one, or if neither is static. -/
theorem ite_isStatic_eq_iff (info info' : MethodInfo) :
    ((if info.isStatic then .ok info else .error .deferred : Except Abstention MethodInfo) =
        if info'.isStatic then .ok info' else .error .deferred) ↔
      info = info' ∨ info.isStatic = false ∧ info'.isStatic = false := by
  by_cases same : info = info'
  · rw [same]
    exact iff_of_true rfl (.inl rfl)
  · cases info.isStatic <;> cases info'.isStatic <;> simp [same]

/-- A strict look-up does not see the order of what is found. -/
theorem chooseMethod_strict_perm {found found' : List MethodInfo} (perm : found.Perm found') :
    chooseMethod (.static false) found = chooseMethod (.static false) found' := by
  match found, found', perm.length_eq with
  | [], [], _ => rfl
  | [m], [m'], _ =>
    have same : m = m' := by simpa using perm
    rw [same]
  | _ :: _ :: _, _ :: _ :: _, _ => rfl

theorem perm_methodsOn (known : p.MethodsKnown) (same : types.members.Perm other.members) :
    (p.methodsOn name [] types.members).Perm (p.methodsOn name [] other.members) := by
  have none : (([] : List MethodInfo).map (·.id)).Nodup := List.nodup_nil
  have nodup (types : List NamedType) : (p.methodsOn name [] types).Nodup :=
    (nodup_methodsOn none types).of_map _
  refine (List.perm_ext_iff_of_nodup (nodup _) (nodup _)).2 fun info => ?_
  rw [mem_methodsOn known (by simp), mem_methodsOn known (by simp)]
  simp only [same.mem_iff]

theorem Reaches.perm {info : MethodInfo} (same : types.members.Perm other.members)
    (reaches : p.Reaches types name info) : p.Reaches other name info := by
  obtain ⟨t, ht, inherits⟩ := reaches
  exact ⟨t, same.mem_iff.1 ht, inherits⟩

/-- Whatever a look-up may come by on the types of a text, it comes by first in some order. -/
theorem exists_same_firstMethod? {source : String} {info : MethodInfo}
    (reaches : p.Reaches (TypeSet.parse source).value name info) :
    ∃ other, (TypeSet.parse source).value.same (TypeSet.parse other).value = true ∧
      p.firstMethod? (TypeSet.parse other).value name = some info := by
  obtain ⟨t, member, inherits⟩ := reaches
  obtain ⟨other, rest, same, starts⟩ := TypeSet.exists_same_starting_with member
  refine ⟨other, same, ?_⟩
  rw [firstMethod?, starts, List.findSome?_cons, inherits]

end

/-! ## Two look-ups compared -/

section

variable {p : Program} {name : String} {types other : TypeSet}

theorem isEmpty_congr (same : types.members.Perm other.members) :
    types.isEmpty = other.isEmpty := by
  rw [TypeSet.isEmpty, TypeSet.isEmpty, Bool.eq_iff_iff, List.isEmpty_iff, List.isEmpty_iff]
  exact ⟨fun h => List.nil_perm.1 (h ▸ same), fun h => List.perm_nil.1 (h ▸ same)⟩

/-- In both orders there is a first method, or in neither. -/
theorem firstMethod?_cases (p : Program) (name : String)
    (same : types.members.Perm other.members) :
    p.firstMethod? types name = none ∧ p.firstMethod? other name = none ∨
      ∃ info info', p.firstMethod? types name = some info ∧
        p.firstMethod? other name = some info' := by
  cases first : p.firstMethod? types name with
  | none =>
    have nothing := firstMethod?_eq_none_iff.1 first
    have first' : p.firstMethod? other name = none :=
      firstMethod?_eq_none_iff.2 fun info reaches => nothing info (reaches.perm same.symm)
    exact .inl ⟨rfl, first'⟩
  | some info =>
    cases first' : p.firstMethod? other name with
    | none =>
      have reaches := (reaches_of_firstMethod? first).perm same
      exact absurd reaches (firstMethod?_eq_none_iff.1 first' info)
    | some info' => exact .inr ⟨info, info', rfl, rfl⟩

/-- Two orders of a set lead a look-up to the same choice if it is strict, if they have the same
first method, or if it is static and neither of the two first methods is. -/
theorem chosenMethod_eq_iff (known : p.MethodsKnown) (same : types.members.Perm other.members)
    (lookup : LookupMode) :
    p.chosenMethod types name lookup = p.chosenMethod other name lookup ↔
      lookup = .static false ∨ p.firstMethod? types name = p.firstMethod? other name ∨
        lookup = .static true ∧ (∀ info ∈ p.firstMethod? types name, info.isStatic = false) ∧
          ∀ info ∈ p.firstMethod? other name, info.isStatic = false := by
  have head (types : TypeSet) :
      (p.methodsOn name [] types.members).head? = p.firstMethod? types name :=
    head?_methodsOn [] types.members
  rw [chosenMethod, chosenMethod, isEmpty_congr same]
  split
  next empty =>
    -- On the empty set there is no first method in either order.
    have first' : p.firstMethod? other name = none := by
      rw [firstMethod?, List.isEmpty_iff.1 empty]
      rfl
    rcases firstMethod?_cases p name same with ⟨first, -⟩ | ⟨_, _, -, some'⟩
    · exact iff_of_true rfl (.inr (.inl (first.trans first'.symm)))
    · rw [first'] at some'
      cases some'
  next =>
    cases lookup with
    | object =>
      rw [chooseMethod_object, chooseMethod_object, head, head]
      rcases firstMethod?_cases p name same with
        ⟨first, first'⟩ | ⟨info, info', first, first'⟩
      · simp [first, first']
      · simp [first, first']
    | static forgiving =>
      cases forgiving with
      | false =>
        exact iff_of_true (chooseMethod_strict_perm (perm_methodsOn known same)) (.inl rfl)
      | true =>
        rw [chooseMethod_forgiving, chooseMethod_forgiving, head, head]
        rcases firstMethod?_cases p name same with
          ⟨first, first'⟩ | ⟨info, info', first, first'⟩
        · simp [first, first']
        · simp [first, first', ite_isStatic_eq_iff]

/-- Different methods are different callables, so targets are compared by the methods chosen. -/
theorem methodTargetOn_eq_iff_chosenMethod (known : p.MethodsKnown) (lookup : LookupMode) :
    p.methodTargetOn types name lookup = p.methodTargetOn other name lookup ↔
      p.chosenMethod types name lookup = p.chosenMethod other name lookup := by
  have registered {types : TypeSet} {info : MethodInfo}
      (chosen : p.chosenMethod types name lookup = .ok info) :
      ∃ callable, p.callable? info.id = some callable ∧ callable.id = info.id := by
    obtain ⟨owner, own⟩ := isMethod_of_chosenMethod chosen
    exact known.registered own
  rw [methodTargetOn_eq, methodTargetOn_eq]
  cases chosen : p.chosenMethod types name lookup with
  | error reason =>
    cases chosen' : p.chosenMethod other name lookup with
    | error reason' => simp
    | ok info' =>
      obtain ⟨callable', entered', -⟩ := registered chosen'
      simp [entered']
  | ok info =>
    obtain ⟨callable, entered, id⟩ := registered chosen
    cases chosen' : p.chosenMethod other name lookup with
    | error reason' => simp [entered]
    | ok info' =>
      obtain ⟨callable', entered', id'⟩ := registered chosen'
      simp only [entered, entered', Except.ok.injEq]
      constructor
      · intro same
        have ids : info.id = info'.id := by rw [← id, ← id', same]
        exact known.eq (isMethod_of_chosenMethod chosen)
          (isMethod_of_chosenMethod chosen') ids
      · intro same
        rw [same, entered'] at entered
        exact (Option.some.inj entered).symm

/-- Two orders of a set lead a look-up to the same target if it is strict, if they have the same
first method, or if it is static and neither of the two first methods is. -/
theorem methodTargetOn_eq_iff (known : p.MethodsKnown) (same : types.members.Perm other.members)
    (lookup : LookupMode) :
    p.methodTargetOn types name lookup = p.methodTargetOn other name lookup ↔
      lookup = .static false ∨ p.firstMethod? types name = p.firstMethod? other name ∨
        lookup = .static true ∧ (∀ info ∈ p.firstMethod? types name, info.isStatic = false) ∧
          ∀ info ∈ p.firstMethod? other name, info.isStatic = false :=
  (methodTargetOn_eq_iff_chosenMethod known lookup).trans (chosenMethod_eq_iff known same lookup)

/-- If a look-up that is not strict goes alike in all orders of a set, any two of its methods are
one method, or it is static and neither of them is. -/
theorem eq_or_of_orders (known : p.MethodsKnown) {source : String} {lookup : LookupMode}
    (alike : ∀ other, (TypeSet.parse source).value.same (TypeSet.parse other).value = true →
      p.methodTargetOn (TypeSet.parse source).value name lookup =
        p.methodTargetOn (TypeSet.parse other).value name lookup)
    (lax : lookup ≠ .static false) {info info' : MethodInfo}
    (reaches : p.Reaches (TypeSet.parse source).value name info)
    (reaches' : p.Reaches (TypeSet.parse source).value name info') :
    info = info' ∨ lookup = .static true ∧ info.isStatic = false ∧ info'.isStatic = false := by
  -- Each of the two comes first in some order.
  obtain ⟨other, same, first⟩ := exists_same_firstMethod? reaches
  obtain ⟨other', same', first'⟩ := exists_same_firstMethod? reaches'
  have orders : (TypeSet.parse other).value.members.Perm (TypeSet.parse other').value.members :=
    (TypeSet.same_iff_perm.1 same).symm.trans (TypeSet.same_iff_perm.1 same')
  have alike := (alike other same).symm.trans (alike other' same')
  rcases (methodTargetOn_eq_iff known orders lookup).1 alike with
    strict | firsts | ⟨static, plain, plain'⟩
  · exact absurd strict lax
  · rw [first, first'] at firsts
    exact .inl (Option.some.inj firsts)
  · exact .inr ⟨static, plain info first, plain' info' first'⟩

/-- A look-up goes alike in all orders of a set if and only if it is strict, if there is at most one
method to be found, or if it is static and none of the methods is. -/
theorem methodTargetOn_orders_iff (known : p.MethodsKnown) (source : String)
    (lookup : LookupMode) :
    (∀ other, (TypeSet.parse source).value.same (TypeSet.parse other).value = true →
      p.methodTargetOn (TypeSet.parse source).value name lookup =
        p.methodTargetOn (TypeSet.parse other).value name lookup) ↔
      lookup = .static false ∨
        (∀ info info', p.Reaches (TypeSet.parse source).value name info →
          p.Reaches (TypeSet.parse source).value name info' → info = info') ∨
        lookup = .static true ∧ ∀ info, p.Reaches (TypeSet.parse source).value name info →
          info.isStatic = false := by
  constructor
  · intro alike
    by_cases strict : lookup = .static false
    · exact .inl strict
    by_cases single : ∀ info info', p.Reaches (TypeSet.parse source).value name info →
        p.Reaches (TypeSet.parse source).value name info' → info = info'
    · exact .inr (.inl single)
    · simp only [not_forall] at single
      obtain ⟨info, info', reaches, reaches', differ⟩ := single
      obtain ⟨static, plain, -⟩ :=
        (eq_or_of_orders known alike strict reaches reaches').resolve_left differ
      refine .inr (.inr ⟨static, fun other reached => ?_⟩)
      rcases eq_or_of_orders known alike strict reached reaches with rfl | ⟨-, plain', -⟩
      · exact plain
      · exact plain'
  · intro h other same
    have perm := TypeSet.same_iff_perm.1 same
    refine (methodTargetOn_eq_iff known perm lookup).2 ?_
    rcases h with strict | single | ⟨static, plain⟩
    · exact .inl strict
    · refine .inr (.inl ?_)
      rcases firstMethod?_cases p name perm with ⟨first, first'⟩ | ⟨info, info', first, first'⟩
      · rw [first, first']
      · have reaches' := (reaches_of_firstMethod? first').perm perm.symm
        rw [first, first', single info info' (reaches_of_firstMethod? first) reaches']
    · refine .inr (.inr ⟨static, fun info first => ?_, fun info first' => ?_⟩)
      · exact plain info (reaches_of_firstMethod? first)
      · exact plain info ((reaches_of_firstMethod? first').perm perm.symm)

end

/-! ## Declared programs -/

theorem methodsKnown_ofDeclarations (ds : List Declaration) :
    (Codebase.ofDeclarations ds).program.MethodsKnown where
  told := by
    intro name owner owner' info info' own own' same
    rw [Codebase.methods_ofDeclarations] at own own'
    exact eq_of_lastMethod?_id own own' same
  registered := fun own => ((isLinked_ofDeclarations ds).methods _ _ own).exists_callable?

/-- A look-up on known types does not ask for the types of variables. -/
theorem methodTargetOn_variableTypes (p : Program) (table : Table VariableKey TypeSet)
    (types : TypeSet) (name : String) (lookup : LookupMode) :
    { p with variableTypes := table }.methodTargetOn types name lookup =
      p.methodTargetOn types name lookup := by
  have methods (found : List MethodInfo) (types : List NamedType) :
      { p with variableTypes := table }.methodsOn name found types =
        p.methodsOn name found types := by
    induction types generalizing found with
    | nil => rfl
    | cons t types ih =>
      have inherits : { p with variableTypes := table }.inheritedMethod? t.name name =
          p.inheritedMethod? t.name name := rfl
      rw [methodsOn, methodsOn, inherits]
      simp only [ih]
  rw [methodTargetOn, methodTargetOn, methods]
  rfl

/-- A look-up on a variable whose types were just entered goes by these types. -/
theorem value_methodTarget_insert (p : Program) {scope : Routine} {key : VariableKey}
    {receiver : String} (bound : key = VariableKey.ofNames scope.fullName receiver)
    (types : TypeSet) (name : String) (lookup : LookupMode) :
    ({ p with variableTypes := p.variableTypes.insert key types }.methodTarget scope (.var receiver)
        name lookup).value = p.methodTargetOn types name lookup := by
  have entered : (p.variableTypes.insert key types).get?
      (VariableKey.ofNames scope.fullName receiver) = some types := by
    rw [bound, Table.get?_insert_self]
  have known : ({ p with variableTypes := p.variableTypes.insert key types }.receiverTypes scope
      (.var receiver)).value = types := by
    simp [receiverTypes, typesOf, variableTypes?, entered]
  rw [methodTarget, Logged.value_bind, known, Logged.value_pure, methodTargetOn_variableTypes]

/-- A look-up on a variable goes by the types that the variable was declared with last. -/
theorem value_methodTarget_variable (ds : List Declaration) {scope : Routine}
    {function spelling receiver : String}
    (bound : VariableKey.ofNames function spelling = VariableKey.ofNames scope.fullName receiver)
    (source name : String) (lookup : LookupMode) :
    ((Codebase.ofDeclarations (ds ++ [.variableTypes function spelling source])).program.methodTarget
        scope (.var receiver) name lookup).value =
      (Codebase.ofDeclarations ds).program.methodTargetOn (TypeSet.parse source).value name
        lookup := by
  have declared :
      (Codebase.ofDeclarations (ds ++ [.variableTypes function spelling source])).program =
      { (Codebase.ofDeclarations ds).program with
        variableTypes := (Codebase.ofDeclarations ds).program.variableTypes.insert
          (VariableKey.ofNames function spelling) (TypeSet.parse source).value } :=
    Codebase.program_ofDeclarations_append ds _
  rw [declared, value_methodTarget_insert _ bound]

end Program

/-! ## When the order decides -/

/-- **The first method decides.** Let the variable that a method is looked up on be declared with
the types of a text, and compare this with the same types in another order. A strict static look-up
answers alike. Any other one does if and only if it comes by the same method first, or if it is
static and neither of the two first methods is. So it answers alike in every order if and only if
the types have at most one method of the name among them, or if it is static and none of the methods
is. -/
theorem first_method_decides (ds : List Declaration) {scope : Routine}
    {function spelling receiver : String}
    (bound : VariableKey.ofNames function spelling = VariableKey.ofNames scope.fullName receiver)
    (name source : String) (lookup : LookupMode) :
    let p := (Codebase.ofDeclarations ds).program
    let types (source : String) := (TypeSet.parse source).value
    let target (source : String) :=
      ((Codebase.ofDeclarations (ds ++ [.variableTypes function spelling source])).program.methodTarget
        scope (.var receiver) name lookup).value
    (∀ other, (types source).same (types other) = true →
      (target source = target other ↔
        lookup = .static false ∨
          p.firstMethod? (types source) name = p.firstMethod? (types other) name ∨
          lookup = .static true ∧
            (∀ info ∈ p.firstMethod? (types source) name, info.isStatic = false) ∧
            ∀ info ∈ p.firstMethod? (types other) name, info.isStatic = false)) ∧
    ((∀ other, (types source).same (types other) = true → target source = target other) ↔
      lookup = .static false ∨
        (∀ info info', p.Reaches (types source) name info → p.Reaches (types source) name info' →
          info = info') ∨
        lookup = .static true ∧ ∀ info, p.Reaches (types source) name info →
          info.isStatic = false) := by
  intro p types target
  have known := Program.methodsKnown_ofDeclarations ds
  have on (source : String) : target source = p.methodTargetOn (types source) name lookup :=
    Program.value_methodTarget_variable ds bound source name lookup
  simp only [on]
  refine ⟨fun other same => ?_, Program.methodTargetOn_orders_iff known source lookup⟩
  exact Program.methodTargetOn_eq_iff known (TypeSet.same_iff_perm.1 same) lookup

namespace ReorderedUnion

/-- Two classes with a static method of the same name. -/
def declarations : List Declaration :=
  [.staticMethod "A" "m" (some "X"), .staticMethod "B" "m" (some "Y")]

/-- What a look-up on `$v` in `f` comes to when `$v` is declared with the types of a text. -/
def target (types : String) (lookup : LookupMode) : Except Abstention Callable :=
  ((Codebase.ofDeclarations (declarations ++ [.variableTypes "\\F" "$v" types])).program.methodTarget
    ⟨"f", .function, none⟩ (.var "v") "m" lookup).value

theorem strict_lookup_sees_no_order :
    VariableKey.ofNames "\\F" "$v" =
      VariableKey.ofNames (Routine.fullName ⟨"f", .function, none⟩) "v" ∧
    (TypeSet.parse "A|B").value.same (TypeSet.parse "B|A").value = true ∧
    target "A|B" (.static false) = target "B|A" (.static false) := by
  have bound : VariableKey.ofNames "\\F" "$v" =
      VariableKey.ofNames (Routine.fullName ⟨"f", .function, none⟩) "v" := by decide +kernel
  have same : (TypeSet.parse "A|B").value.same (TypeSet.parse "B|A").value = true := by
    decide +kernel
  have alike := (first_method_decides declarations bound "m" "A|B" (.static false)).1 "B|A" same
  exact ⟨bound, same, alike.2 (.inl rfl)⟩

/-- The other two look-ups take the method of the class that is written first. -/
theorem order_decides :
    (TypeSet.parse "A|B").value.same (TypeSet.parse "B|A").value = true ∧
    ∀ lookup ∈ [LookupMode.object, .static true],
      target "A|B" lookup ≠ target "B|A" lookup ∧
      (target "A|B" lookup).toOption.map (·.name) = some "A::m" ∧
      (target "B|A" lookup).toOption.map (·.name) = some "B::m" := by
  decide +kernel

end ReorderedUnion

end Uncaught
