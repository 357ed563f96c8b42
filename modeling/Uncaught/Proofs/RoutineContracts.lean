import Uncaught.Program.Resolution
import Uncaught.Proofs.Registrations

/-!
The contract of a routine.

The body of a routine is judged by the contract that its full name leads to. If the name leads to
none, the routine is given an identity of its own, and what has been declared for this identity
judges it (`contract_callableOf_eq_getD`). Nothing should have been. But an identity is made without
the blanks around a name, and these blanks count when the name is looked up. So the identity may be
that of a callable with another name, and then the routine has a contract that nobody has declared
for it. Blanks are the only way to get there: if neither the routine nor the callable has any around
its name, the identity of each is its name, and the name of the one would lead to the other
(`isPadded_of_registers_undeclaredId`). A routine that is not declared is therefore judged by no
contract, except for padded names (`routine_is_judged_by_its_name`).
-/
namespace Uncaught

/-- A text has blanks in front or behind. -/
def Text.IsPadded (text : String) : Prop := Text.trim text ≠ text

instance : DecidablePred Text.IsPadded := fun text =>
  inferInstanceAs (Decidable (Text.trim text ≠ text))

/-- There are blanks around the full name of a routine or around its class. -/
def Routine.IsPadded (f : Routine) : Prop :=
  Text.IsPadded f.fullName ∨ ∃ className ∈ f.className, Text.IsPadded className

instance : DecidablePred Routine.IsPadded := fun f =>
  inferInstanceAs
    (Decidable (Text.IsPadded f.fullName ∨ ∃ className ∈ f.className, Text.IsPadded className))

/-! ## Identities and names -/

/-- Without blanks around its name an undeclared routine is known by the name. -/
theorem Program.text_undeclaredId {scope : Routine} (solid : ¬ scope.IsPadded) :
    (undeclaredId scope).text = scope.fullName := by
  obtain ⟨solidName, solidClass⟩ := not_or.1 solid
  have byName : (CallableName.ofText scope.fullName).text = scope.fullName := not_not.1 solidName
  rw [undeclaredId]
  split
  next className _ inClass =>
    have trimmed : Text.trim className = className :=
      not_not.1 fun padded => solidClass ⟨className, inClass, padded⟩
    rw [CallableName.ofMethod, TypeName.ofText, trimmed, Routine.fullName, inClass]
  next => exact byName

/-- Without blanks around its name a callable is known by the name. -/
theorem Declaration.text_id_of_registration? {d : Declaration} {r : Registration}
    (registers : d.registration? = some r) (solid : ¬ Text.IsPadded r.name) :
    r.id.text = r.name := by
  cases d with
  | function name throws =>
    obtain rfl := Option.some.inj registers
    exact not_not.1 solid
  | closure name throws =>
    obtain rfl := Option.some.inj registers
    exact not_not.1 solid
  | method className name throws =>
    obtain rfl := Option.some.inj registers
    rfl
  | staticMethod className name throws =>
    obtain rfl := Option.some.inj registers
    rfl
  | _ => exact absurd registers (Option.some_ne_none r).symm

/-! ## What judges a routine -/

/-- A routine whose name leads to no contract is judged by what is declared for its identity. -/
theorem Program.contract_callableOf_eq_getD (p : Program) (scope : Routine) :
    p.contract (p.callableOf scope).value =
      (p.contractNamed? scope.fullName).getD
        (p.contract ⟨undeclaredId scope, scope.fullName⟩) := by
  rw [callableOf, contractNamed?]
  cases p.callableNamed? scope.fullName <;> rfl

section

variable {ds : List Declaration} {name : String} {scope : Routine}

/-- A name leads to no contract exactly if no callable is declared under its key. -/
theorem Codebase.contractNamed?_eq_none_iff :
    (ofDeclarations ds).program.contractNamed? name = none ↔
      ∀ d ∈ ds, ∀ r ∈ d.registration?, r.key ≠ lookupKey name := by
  have unnamed : lastRegistration? ds (·.key = lookupKey name) = none ↔
      ∀ d ∈ ds, ∀ r ∈ d.registration?, r.key ≠ lookupKey name := by
    simp only [lastRegistration?_eq_none_iff, decide_eq_false_iff_not, ne_eq]
  rw [← unnamed, contractNamed?_ofDeclarations, Option.map_eq_none_iff]
  cases byName : lastRegistration? ds (·.key = lookupKey name) with
  | none => simp
  | some r =>
    obtain ⟨s, byIdentity⟩ := exists_lastRegistration?_id byName
    simp [byIdentity]

/-- Only blanks bring a routine to a callable that its name does not lead to. -/
theorem isPadded_of_registers_undeclaredId
    (unnamed : ∀ d ∈ ds, ∀ r ∈ d.registration?, r.key ≠ lookupKey scope.fullName)
    {d : Declaration} {r : Registration} (member : d ∈ ds) (registers : d.registration? = some r)
    (same : r.id = Program.undeclaredId scope) : scope.IsPadded ∨ Text.IsPadded r.name := by
  by_contra neither
  obtain ⟨solid, solid'⟩ := not_or.1 neither
  have names : r.name = scope.fullName := by
    rw [← Declaration.text_id_of_registration? registers solid', same,
      Program.text_undeclaredId solid]
  exact unnamed d member r registers (congrArg lookupKey names)

end

/-- **A routine is judged by the contract that its name leads to, and by none without it, blanks
aside.** If the full name of a routine leads to a contract, this is what the routine is judged by.
If it leads to none, the routine is judged by what was declared last for the identity that is made
of its name, if anything was. This is a contract only if there are blanks around the name of the
routine or of its class, or around the name that the contract was declared with. -/
theorem routine_is_judged_by_its_name (ds : List Declaration) (scope : Routine) :
    let p := (Codebase.ofDeclarations ds).program
    let own := p.contract (p.callableOf scope).value
    (∀ contract, p.contractNamed? scope.fullName = some contract → own = contract) ∧
    (p.contractNamed? scope.fullName = none →
      own = ((lastRegistration? ds (·.id = Program.undeclaredId scope)).map
        (·.contract)).getD .undeclared ∧
      (own ≠ .undeclared → scope.IsPadded ∨
        ∃ d ∈ ds, ∃ r ∈ d.registration?, r.id = Program.undeclaredId scope ∧ r.contract = own ∧
          Text.IsPadded r.name)) := by
  intro p own
  have judged : own = (p.contractNamed? scope.fullName).getD
      (p.contract ⟨Program.undeclaredId scope, scope.fullName⟩) :=
    p.contract_callableOf_eq_getD scope
  constructor
  · intro contract named
    rw [judged, named, Option.getD_some]
  · intro unnamed
    have byIdentity : own = ((lastRegistration? ds (·.id = Program.undeclaredId scope)).map
        (·.contract)).getD .undeclared := by
      rw [judged, unnamed, Option.getD_none, Codebase.contract_ofDeclarations]
    refine ⟨byIdentity, fun someContract => ?_⟩
    cases last : lastRegistration? ds (·.id = Program.undeclaredId scope) with
    | none =>
      rw [last] at byIdentity
      exact absurd byIdentity someContract
    | some r =>
      rw [last] at byIdentity
      obtain ⟨⟨d, member, registers⟩, passes⟩ := mem_of_lastRegistration? last
      have same : r.id = Program.undeclaredId scope := of_decide_eq_true passes
      refine (isPadded_of_registers_undeclaredId (Codebase.contractNamed?_eq_none_iff.1 unnamed)
        member registers same).imp_right fun padded => ?_
      exact ⟨d, member, r, registers, same, byIdentity.symm, padded⟩

namespace UnknownMethod

/-- A class has one method, and there is a function with the name of another one. -/
def declarations : List Declaration :=
  [.method "\\Util" "run" (some "X"), .function "helper" (some "Y")]

/-- The other method is not declared, so it is judged by no contract; the declared one is judged by
its own in any spelling. -/
theorem unknown_method_declares_nothing :
    let p := (Codebase.ofDeclarations declarations).program
    let helper : Routine := ⟨"helper", .method, some "Util"⟩
    let run : Routine := ⟨"RUN", .closure, some "\\util"⟩
    p.contractNamed? helper.fullName = none ∧ ¬ helper.IsPadded ∧
    p.contract (p.callableOf helper).value = .undeclared ∧
    p.contract (p.callableOf run).value = .ofTypeName "X" := by
  intro p helper run
  have unnamed : p.contractNamed? helper.fullName = none := by decide +kernel
  have solid : ¬ helper.IsPadded := by decide +kernel
  refine ⟨unnamed, solid, ?_, ?_⟩
  · by_contra someContract
    rcases ((routine_is_judged_by_its_name declarations helper).2 unnamed).2 someContract with
      padded | ⟨d, member, r, registers, -, -, padded⟩
    · exact solid padded
    · have plain : ∀ d ∈ declarations, ∀ r ∈ d.registration?, ¬ Text.IsPadded r.name := by
        decide +kernel
      exact plain d member r registers padded
  · exact (routine_is_judged_by_its_name declarations run).1 _ (by decide +kernel)

end UnknownMethod

namespace PaddedRoutine

def declarations : List Declaration := [.function "f" (some "X")]

/-- The name of the routine leads to no contract, but its identity does. -/
theorem padded_routine_is_judged_by_another :
    let p := (Codebase.ofDeclarations declarations).program
    let scope : Routine := ⟨" f", .function, none⟩
    p.contractNamed? scope.fullName = none ∧
    p.contract (p.callableOf scope).value = .ofTypeName "X" ∧
    Contract.ofTypeName "X" ≠ .undeclared := by
  decide +kernel

end PaddedRoutine

end Uncaught
