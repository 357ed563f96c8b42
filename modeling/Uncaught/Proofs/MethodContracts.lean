import Uncaught.Proofs.Ancestors
import Uncaught.Proofs.MethodLookup
import Uncaught.Proofs.Registrations
import Uncaught.Proofs.TypeText

/-!
The contract of a method, from inside and from outside.

The body of a method is checked against a contract that is looked up by name, as that of any
routine: neither the case of the class nor that of the method counts. A call of the method goes by
the class of its receiver, whose case does count, and by the name of the method in lower case. Each
way ends at what some declaration has registered last, the one under the key of the full name and
the other for the class (`contract_callableOf`, `methodTarget_of_lastMethod?`). If both have the same
identity, body and callers see the same contract; if not, each sees what was declared last
for its own (`method_contract_is_shared`). A class whose name differs in case only, declared later,
can come between.
-/
namespace Uncaught

/-- A declaration gives a class a method with a name. -/
def Declaration.DeclaresMethod (d : Declaration) (owner : TypeName) (name : String) : Prop :=
  ∃ className throws, TypeName.ofText className = owner ∧
    (d = .method className name throws ∨ d = .staticMethod className name throws)

/-- The routine that the body of a method is. -/
def Routine.ofMethod (className name : String) : Routine := ⟨name, .method, some className⟩

section

variable {className name : String}

/-- A path as the name of a class is taken without the separator in front. -/
theorem TypeName.ofText_of_isTypePath (path : isTypePath className.toList = true) :
    (TypeName.ofText className).text = Text.stripLeading '\\' className := by
  have solid : Text.trim className = className := by
    rw [Text.trim, Text.trimChars_eq_self fun c hc => isBlank_of_isTypePath path hc,
      String.ofList_toList]
  rw [TypeName.ofText, solid]

theorem Routine.fullName_ofMethod (path : isTypePath className.toList = true) :
    (Routine.ofMethod className name).fullName = (CallableName.ofMethod className name).text := by
  rw [CallableName.ofMethod, TypeName.ofText_of_isTypePath path]
  rfl

end

/-! ## Where a declared method is entered -/

section

variable {ds : List Declaration} {className name : String}

/-- A declared method is found under the key of its full name. -/
theorem exists_lastRegistration?_of_method (path : isTypePath className.toList = true)
    (declared : ∃ d ∈ ds, d.DeclaresMethod (TypeName.ofText className) name) :
    ∃ r, lastRegistration? ds (·.key = lookupKey (Routine.ofMethod className name).fullName) =
      some r := by
  obtain ⟨d, member, spelling, throws, owner, declares⟩ := declared
  have registers : ∃ contract, d.registration? = some
      ⟨⟨(CallableName.ofMethod spelling name).text, contract⟩,
        CallableName.ofMethod spelling name⟩ := by
    rcases declares with rfl | rfl <;> exact ⟨_, rfl⟩
  obtain ⟨contract, registers⟩ := registers
  refine exists_lastRegistration? member registers (decide_eq_true ?_)
  rw [Routine.fullName_ofMethod path, Registration.key, CallableName.ofMethod, owner]
  rfl

/-- A declared method is found for its class. -/
theorem exists_lastMethod?
    (declared : ∃ d ∈ ds, d.DeclaresMethod (TypeName.ofText className) name) :
    ∃ info, lastMethod? ds (TypeName.ofText className) name = some info := by
  obtain ⟨d, member, spelling, throws, owner, declares⟩ := declared
  have gives : ∃ info, d.method? =
      some (MethodKey.ofName (TypeName.ofText className) name, info) := by
    rw [← owner]
    rcases declares with rfl | rfl <;> exact ⟨_, rfl⟩
  obtain ⟨info, gives⟩ := gives
  have passes : d.method?.filter (·.1 = MethodKey.ofName (TypeName.ofText className) name) =
      some (MethodKey.ofName (TypeName.ofText className) name, info) :=
    Option.filter_eq_some_iff.2 ⟨gives, decide_eq_true rfl⟩
  have found : ∃ entry, latest? (fun d : Declaration =>
      d.method?.filter (·.1 = MethodKey.ofName (TypeName.ofText className) name)) ds =
        some entry :=
    exists_latest? member passes
  obtain ⟨entry, last⟩ := found
  exact ⟨entry.2, by rw [lastMethod?, last, Option.map_some]⟩

/-- The method that a class has is registered as a callable. -/
theorem exists_lastRegistration?_of_lastMethod? {owner : TypeName} {info : MethodInfo}
    (last : lastMethod? ds owner name = some info) :
    ∃ r, lastRegistration? ds (·.id = info.id) = some r := by
  obtain ⟨entry, found, rfl⟩ := Option.map_eq_some_iff.1 last
  obtain ⟨d, member, gives⟩ := exists_of_latest? found
  have declares : d.method? = some entry := (Option.filter_eq_some_iff.1 gives).1
  obtain ⟨r, registers, same⟩ := Declaration.exists_registration?_of_method? declares
  exact exists_lastRegistration? member registers (decide_eq_true same)

end

/-! ## From inside and from outside -/

namespace Program

variable {p : Program} {owner : TypeName} {name : String} {info : MethodInfo}

/-- What a class has itself comes before what it inherits. -/
theorem inheritedMethod?_of_own (own : p.methods.get? (MethodKey.ofName owner name) = some info) :
    p.inheritedMethod? owner name = some info := by
  obtain ⟨rest, nearest⟩ := p.hierarchy.exists_ancestors_eq_cons owner
  rw [inheritedMethod?, nearest, List.findSome?_cons, own]

theorem methodTargetOn_singleton {t : NamedType} {callable : Callable} (class_ : t.name = owner)
    (found : p.inheritedMethod? owner name = some info)
    (entered : p.callable? info.id = some callable) :
    p.methodTargetOn (TypeSet.singleton t) name .object = .ok callable := by
  rw [methodTargetOn_eq, chosenMethod_singleton, class_, found]
  simp only [Option.elim_some, entered]

end Program

section

variable {ds : List Declaration}

/-- The body of a method is checked against the contract declared last for what its full name leads
to. -/
theorem contract_callableOf {scope : Routine} {r : Registration}
    (last : lastRegistration? ds (·.key = lookupKey scope.fullName) = some r) :
    (lastRegistration? ds (·.id = r.id)).map (·.contract) =
      some ((Codebase.ofDeclarations ds).program.contract
        ((Codebase.ofDeclarations ds).program.callableOf scope).value) := by
  obtain ⟨s, byIdentity⟩ := Codebase.exists_lastRegistration?_id last
  have named : (Codebase.ofDeclarations ds).program.callableNamed? scope.fullName =
      some ⟨r.id, s.name⟩ := by
    rw [Program.callableNamed?, Codebase.index_ofDeclarations, last, Option.map_some,
      Option.bind_some, Codebase.callable?_ofDeclarations, byIdentity, Option.map_some]
  rw [Program.callableOf, named, Codebase.contract_ofDeclarations]
  show _ = some (((lastRegistration? ds (·.id = r.id)).map (·.contract)).getD .undeclared)
  rw [byIdentity]
  rfl

/-- A call of a method on a class that has it reaches what the class was given last. -/
theorem methodTarget_of_lastMethod? {owner : TypeName} {name : String} {info : MethodInfo}
    (last : lastMethod? ds owner name = some info) {caller : Routine} {receiver : Expr}
    {t : NamedType} (class_ : t.name = owner)
    (known : ((Codebase.ofDeclarations ds).program.receiverTypes caller receiver).value =
      TypeSet.singleton t) :
    ∃ target,
      ((Codebase.ofDeclarations ds).program.methodTarget caller receiver name .object).value =
        .ok target ∧
      (lastRegistration? ds (·.id = info.id)).map (·.contract) =
        some ((Codebase.ofDeclarations ds).program.contract target) := by
  obtain ⟨s, byIdentity⟩ := exists_lastRegistration?_of_lastMethod? last
  have own : (Codebase.ofDeclarations ds).program.methods.get? (MethodKey.ofName owner name) =
      some info := by
    rw [Codebase.methods_ofDeclarations, last]
  have entered : (Codebase.ofDeclarations ds).program.callable? info.id =
      some ⟨info.id, s.name⟩ := by
    rw [Codebase.callable?_ofDeclarations, byIdentity, Option.map_some]
  refine ⟨⟨info.id, s.name⟩, ?_, ?_⟩
  · rw [Program.methodTarget, Logged.value_bind, known]
    exact Program.methodTargetOn_singleton class_ (Program.inheritedMethod?_of_own own) entered
  · rw [Codebase.contract_ofDeclarations, byIdentity]
    rfl

end

/-- **Body and callers of a method share its contract, unless something else has taken its name.**
Let a class have a method. The body of the method is checked against the contract declared last for
the identity of what is registered last under the key of its full name. A call of the method on the
class always finds a target, and the contract of the target is the one declared last for the
identity of what the class was given last under the name of the method. If these two identities are
the same, so are the contracts. -/
theorem method_contract_is_shared (ds : List Declaration) {className name : String}
    (path : isTypePath className.toList = true)
    (declared : ∃ d ∈ ds, d.DeclaresMethod (TypeName.ofText className) name) :
    let p := (Codebase.ofDeclarations ds).program
    let body := Routine.ofMethod className name
    let inside := p.contract (p.callableOf body).value
    ∃ byName byClass,
      lastRegistration? ds (·.key = lookupKey body.fullName) = some byName ∧
      lastMethod? ds (TypeName.ofText className) name = some byClass ∧
      (lastRegistration? ds (·.id = byName.id)).map (·.contract) = some inside ∧
      ∀ caller receiver t, t.name = TypeName.ofText className →
        (p.receiverTypes caller receiver).value = TypeSet.singleton t →
        ∃ target, (p.methodTarget caller receiver name .object).value = .ok target ∧
          (lastRegistration? ds (·.id = byClass.id)).map (·.contract) = some (p.contract target) ∧
          (byName.id = byClass.id → p.contract target = inside) := by
  intro p body inside
  obtain ⟨byName, lastByName⟩ := exists_lastRegistration?_of_method path declared
  obtain ⟨byClass, lastByClass⟩ := exists_lastMethod? declared
  have seenInside := contract_callableOf lastByName
  refine ⟨byName, byClass, lastByName, lastByClass, seenInside, ?_⟩
  intro caller receiver t class_ known
  obtain ⟨target, reached, seenOutside⟩ := methodTarget_of_lastMethod? lastByClass class_ known
  refine ⟨target, reached, seenOutside, fun same => ?_⟩
  rw [same, seenOutside] at seenInside
  exact Option.some.inj seenInside

namespace OverwrittenMethod

/-- The method is declared again in another case and made static. -/
def declarations : List Declaration :=
  [.method "\\App\\Repo" "Save" (some "X"), .function "save" (some "Y"),
    .staticMethod "App\\Repo" "save" (some "Z")]

theorem overwritten_method_is_shared :
    isTypePath "\\App\\Repo".toList = true ∧
    ∃ target,
      ((Codebase.ofDeclarations declarations).program.methodTarget ⟨"f", .function, none⟩
        (.new "App\\Repo") "Save" .object).value = .ok target ∧
      (Codebase.ofDeclarations declarations).program.contract target =
        (Codebase.ofDeclarations declarations).program.contract
          ((Codebase.ofDeclarations declarations).program.callableOf
            (Routine.ofMethod "\\App\\Repo" "Save")).value := by
  have path : isTypePath "\\App\\Repo".toList = true := by decide +kernel
  have declared : ∃ d ∈ declarations, d.DeclaresMethod (TypeName.ofText "\\App\\Repo") "Save" :=
    ⟨_, List.mem_cons_self, _, _, rfl, .inl rfl⟩
  obtain ⟨byName, byClass, lastByName, lastByClass, -, outside⟩ :=
    method_contract_is_shared declarations path declared
  have sameIdentity : (lastRegistration? declarations
        (·.key = lookupKey (Routine.ofMethod "\\App\\Repo" "Save").fullName)).map (·.id) =
      (lastMethod? declarations (TypeName.ofText "\\App\\Repo") "Save").map (·.id) := by
    decide +kernel
  rw [lastByName, lastByClass] at sameIdentity
  obtain ⟨target, reached, -, shared⟩ := outside ⟨"f", .function, none⟩ (.new "App\\Repo")
    (.plain ⟨"App\\Repo"⟩) (by decide +kernel) (by decide +kernel)
  exact ⟨path, target, reached, shared (Option.some.inj sameIdentity)⟩

end OverwrittenMethod

namespace ClassesInTwoCases

/-- Two classes whose names differ in case only, each with a method of the same name. -/
def declarations : List Declaration := [.method "A" "m" (some "X"), .method "a" "m" (some "Y")]

theorem other_class_takes_over :
    let p := (Codebase.ofDeclarations declarations).program
    p.contract (p.callableOf (Routine.ofMethod "A" "m")).value = .ofTypeName "Y" ∧
    (p.methodTarget ⟨"f", .function, none⟩ (.classRef "A") "m" .object).value.toOption.map
      p.contract = some (.ofTypeName "X") ∧
    Contract.ofTypeName "X" ≠ Contract.ofTypeName "Y" := by
  decide +kernel

end ClassesInTwoCases

end Uncaught
