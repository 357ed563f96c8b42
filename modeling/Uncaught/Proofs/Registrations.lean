import Mathlib.Data.List.Induction
import Uncaught.Codebase

/-!
What was registered last.

A declaration of a function, a closure or a method writes one entry in each of several tables: one
under the look-up key of the name that the callable is shown with, which holds the identity of the
callable; one under this identity, which holds what is declared of it; and for a method also one
under its class. A table keeps for every key what was written last (`get?_ofDeclarations`), so each
of them answers by the last declaration that has a certain property (`latest?`).

To find a contract by name takes two of these steps, from the key to an identity and from there to
the contract, and it is the second step that decides: the contract is the last one that was declared
for the identity (`last_registration_wins`). Mostly both steps lead to the same declaration. They do
not if a name with blanks around it is declared later, since the blanks belong to its key but not to
its identity.
-/
namespace Uncaught

/-! ## The last declaration that gives a value -/

section

variable {α : Type} {value? : Declaration → Option α} {ds : List Declaration} {a : α}

/-- The value of the last declaration that has one. -/
def latest? (value? : Declaration → Option α) (ds : List Declaration) : Option α :=
  ds.reverse.findSome? value?

theorem latest?_append_singleton (ds : List Declaration) (d : Declaration) :
    latest? value? (ds ++ [d]) = (value? d).or (latest? value? ds) := by
  rw [latest?, List.reverse_append]
  exact List.findSome?_cons.trans (by cases value? d <;> rfl)

theorem latest?_eq_none_iff : latest? value? ds = none ↔ ∀ d ∈ ds, value? d = none := by
  rw [latest?, List.findSome?_eq_none_iff]
  simp only [List.mem_reverse]

/-- No declaration after the one that gives the last value gives another one. -/
theorem latest?_eq_some_iff :
    latest? value? ds = some a ↔
      ∃ before d after, ds = before ++ d :: after ∧ value? d = some a ∧
        ∀ e ∈ after, value? e = none := by
  rw [latest?, List.findSome?_eq_some_iff]
  constructor
  · intro h
    obtain ⟨after, d, before, order, gives, nothing⟩ := h
    refine ⟨before.reverse, d, after.reverse, ?_, gives, fun e he => nothing e ?_⟩
    · rw [← List.reverse_reverse ds, order, List.reverse_append, List.reverse_cons,
        List.append_assoc, List.singleton_append]
    · exact List.mem_reverse.1 he
  · intro h
    obtain ⟨before, d, after, rfl, gives, nothing⟩ := h
    refine ⟨after.reverse, d, before.reverse, ?_, gives, fun e he => nothing e ?_⟩
    · rw [List.reverse_append, List.reverse_cons, List.append_assoc, List.singleton_append]
    · exact List.mem_reverse.1 he

theorem exists_of_latest? (last : latest? value? ds = some a) : ∃ d ∈ ds, value? d = some a := by
  obtain ⟨before, d, after, rfl, gives, -⟩ := latest?_eq_some_iff.1 last
  exact ⟨d, List.mem_append_right _ List.mem_cons_self, gives⟩

theorem exists_latest? {d : Declaration} (member : d ∈ ds) (gives : value? d = some a) :
    ∃ b, latest? value? ds = some b := by
  refine Option.ne_none_iff_exists'.1 fun none => ?_
  rw [latest?_eq_none_iff.1 none d member] at gives
  cases gives

/-- The last value stays the last if it is looked for in fewer declarations, its own among them. -/
theorem latest?_of_imp {other? : Declaration → Option α}
    (fewer : ∀ d ∈ ds, ∀ b, other? d = some b → value? d = some b)
    (own : ∀ d ∈ ds, value? d = some a → other? d = some a)
    (last : latest? value? ds = some a) : latest? other? ds = some a := by
  obtain ⟨before, d, after, rfl, gives, nothing⟩ := latest?_eq_some_iff.1 last
  refine latest?_eq_some_iff.2 ⟨before, d, after, rfl, ?_, fun e he => ?_⟩
  · exact own d (List.mem_append_right _ List.mem_cons_self) gives
  · by_contra given
    obtain ⟨b, given⟩ := Option.ne_none_iff_exists'.1 given
    have member : e ∈ before ++ d :: after :=
      List.mem_append_right _ (List.mem_cons_of_mem d he)
    have absent := nothing e he
    rw [fewer e member b given] at absent
    cases absent

end

/-! ## What a declaration writes -/

/-- What a declaration of a callable enters: an identity, a name to be shown with, a contract. -/
structure Registration extends CallableInfo where
  id : CallableName

def Registration.key (r : Registration) : String := lookupKey r.name

namespace Declaration

/-- The callable that a declaration registers, if it is one of a callable. -/
def registration? : Declaration → Option Registration
  | .function name throws | .closure name throws =>
    some ⟨⟨name, (Program.parseContract throws).value⟩, CallableName.ofText name⟩
  | .method className name throws | .staticMethod className name throws =>
    let id := CallableName.ofMethod className name
    some ⟨⟨id.text, (Program.parseContract throws).value⟩, id⟩
  | _ => none

/-- The method that a declaration gives to a class, if it is one of a method. -/
def method? : Declaration → Option (MethodKey × MethodInfo)
  | .method className name _ =>
    some (MethodKey.ofName (TypeName.ofText className) name,
      ⟨CallableName.ofMethod className name, false⟩)
  | .staticMethod className name _ =>
    some (MethodKey.ofName (TypeName.ofText className) name,
      ⟨CallableName.ofMethod className name, true⟩)
  | _ => none

/-- A method of a class is registered as a callable as well. -/
theorem exists_registration?_of_method? {d : Declaration} {entry : MethodKey × MethodInfo}
    (declares : d.method? = some entry) : ∃ r, d.registration? = some r ∧ r.id = entry.2.id := by
  cases d with
  | method className name throws =>
    obtain rfl := Option.some.inj declares
    exact ⟨_, rfl, rfl⟩
  | staticMethod className name throws =>
    obtain rfl := Option.some.inj declares
    exact ⟨_, rfl, rfl⟩
  | _ => exact absurd declares (Option.some_ne_none entry).symm

end Declaration

/-- The last registration that passes a test. -/
def lastRegistration? (ds : List Declaration) (test : Registration → Bool) : Option Registration :=
  latest? (fun d => d.registration?.filter test) ds

/-- The last method of a class with a name, in any case. -/
def lastMethod? (ds : List Declaration) (owner : TypeName) (name : String) : Option MethodInfo :=
  (latest? (fun d => d.method?.filter (·.1 = MethodKey.ofName owner name)) ds).map (·.2)

section

variable {ds : List Declaration} {test : Registration → Bool} {r : Registration}

theorem mem_of_lastRegistration? (last : lastRegistration? ds test = some r) :
    (∃ d ∈ ds, d.registration? = some r) ∧ test r = true := by
  obtain ⟨d, member, gives⟩ := exists_of_latest? last
  obtain ⟨registers, passes⟩ := Option.filter_eq_some_iff.1 gives
  exact ⟨⟨d, member, registers⟩, passes⟩

theorem exists_lastRegistration? {d : Declaration} (member : d ∈ ds)
    (registers : d.registration? = some r) (passes : test r = true) :
    ∃ s, lastRegistration? ds test = some s :=
  exists_latest? member (Option.filter_eq_some_iff.2 ⟨registers, passes⟩)

theorem lastRegistration?_eq_none_iff :
    lastRegistration? ds test = none ↔ ∀ d ∈ ds, ∀ r ∈ d.registration?, test r = false := by
  rw [lastRegistration?, latest?_eq_none_iff]
  simp only [Option.filter_eq_none_iff, Bool.not_eq_true, Option.mem_def]

theorem lastMethod?_eq_none_iff {owner : TypeName} {name : String} :
    lastMethod? ds owner name = none ↔
      ∀ d ∈ ds, ∀ entry ∈ d.method?, entry.1 ≠ MethodKey.ofName owner name := by
  rw [lastMethod?, Option.map_eq_none_iff, latest?_eq_none_iff]
  simp only [Option.filter_eq_none_iff, decide_eq_true_eq, Option.mem_def]

end

/-! ## Tables -/

namespace Program

variable (p : Program)

theorem index_declare (d : Declaration) :
    (p.declare d).value.index = d.registration?.elim p.index fun r => p.index.insert r.key r.id := by
  cases d <;> rfl

theorem callables_declare (d : Declaration) :
    (p.declare d).value.callables =
      d.registration?.elim p.callables fun r => p.callables.insert r.id r.toCallableInfo := by
  cases d <;> rfl

theorem methods_declare (d : Declaration) :
    (p.declare d).value.methods =
      d.method?.elim p.methods fun entry => p.methods.insert entry.1 entry.2 := by
  cases d <;> rfl

end Program

namespace Codebase

variable {ds : List Declaration}

/-- A table that every declaration writes at most one entry into holds for each key what was written
last. -/
theorem get?_ofDeclarations {α κ ν : Type} [DecidableEq κ] {table : Program → Table κ ν}
    {written? : Declaration → Option α} {key : α → κ} {content : α → ν}
    (start : table Program.empty = Table.empty)
    (step : ∀ p d, table (p.declare d).value =
      (written? d).elim (table p) fun a => (table p).insert (key a) (content a))
    (ds : List Declaration) (k : κ) :
    (table (ofDeclarations ds).program).get? k =
      (latest? (fun d => (written? d).filter (key · = k)) ds).map content := by
  induction ds using List.reverseRecOn with
  | nil =>
    show (table Program.empty).get? k = none
    rw [start, Table.get?_empty]
  | append_singleton ds d ih =>
    rw [program_ofDeclarations_append, step, latest?_append_singleton]
    cases written? d with
    | none => exact ih
    | some a =>
      rw [Option.elim_some, Table.get?_insert, Option.filter_some]
      by_cases same : k = key a
      · rw [if_pos same, if_pos (decide_eq_true same.symm)]
        rfl
      · rw [if_neg same, if_neg (fun h => same (of_decide_eq_true h).symm)]
        exact ih

theorem index_ofDeclarations (k : String) :
    (ofDeclarations ds).program.index.get? k =
      (lastRegistration? ds (·.key = k)).map (·.id) :=
  get?_ofDeclarations rfl Program.index_declare ds k

theorem callables_ofDeclarations (id : CallableName) :
    (ofDeclarations ds).program.callables.get? id =
      (lastRegistration? ds (·.id = id)).map (·.toCallableInfo) :=
  get?_ofDeclarations rfl Program.callables_declare ds id

theorem methods_ofDeclarations (owner : TypeName) (name : String) :
    (ofDeclarations ds).program.methods.get? (MethodKey.ofName owner name) =
      lastMethod? ds owner name :=
  get?_ofDeclarations rfl Program.methods_declare ds _

/-! ## Callables by identity and by name -/

theorem callable?_ofDeclarations (id : CallableName) :
    (ofDeclarations ds).program.callable? id =
      (lastRegistration? ds (·.id = id)).map fun r => ⟨id, r.name⟩ := by
  rw [Program.callable?, callables_ofDeclarations, Option.map_map]
  rfl

theorem contract_ofDeclarations (callable : Callable) :
    (ofDeclarations ds).program.contract callable =
      ((lastRegistration? ds (·.id = callable.id)).map (·.contract)).getD .undeclared := by
  rw [Program.contract, callables_ofDeclarations, Option.map_map]
  rfl

/-- What is registered under a key has an identity that something is registered for. -/
theorem exists_lastRegistration?_id {test : Registration → Bool} {r : Registration}
    (last : lastRegistration? ds test = some r) :
    ∃ s, lastRegistration? ds (·.id = r.id) = some s := by
  obtain ⟨⟨d, member, registers⟩, -⟩ := mem_of_lastRegistration? last
  exact exists_lastRegistration? member registers (decide_eq_true rfl)

theorem contractNamed?_ofDeclarations (name : String) :
    (ofDeclarations ds).program.contractNamed? name =
      ((lastRegistration? ds (·.key = lookupKey name)).bind fun r =>
        lastRegistration? ds (·.id = r.id)).map (·.contract) := by
  rw [Program.contractNamed?, Program.callableNamed?, index_ofDeclarations]
  cases byName : lastRegistration? ds (·.key = lookupKey name) with
  | none => rfl
  | some r =>
    obtain ⟨s, byIdentity⟩ := exists_lastRegistration?_id byName
    simp only [Option.map_some, Option.bind_some, callable?_ofDeclarations, byIdentity,
      contract_ofDeclarations, Option.getD_some]

end Codebase

/-- **The last registration of an identity wins.** A contract is found by name if and only if some
callable is registered whose name has the same look-up key. It is the contract declared last for the
identity of the last of these callables; so it is the contract of this callable, unless another one
shares the identity and has a different key. -/
theorem last_registration_wins (ds : List Declaration) (name : String) :
    let found := (Codebase.ofDeclarations ds).program.contractNamed? name
    let last := lastRegistration? ds (·.key = lookupKey name)
    (found = none ↔ ∀ d ∈ ds, ∀ r ∈ d.registration?, lookupKey r.name ≠ lookupKey name) ∧
    found = (last.bind fun r => lastRegistration? ds (·.id = r.id)).map (·.contract) ∧
    ((∀ r ∈ last, ∀ d ∈ ds, ∀ s ∈ d.registration?, s.id = r.id →
        lookupKey s.name = lookupKey name) →
      found = last.map (·.contract)) := by
  intro found last
  have steps : found = (last.bind fun r => lastRegistration? ds (·.id = r.id)).map (·.contract) :=
    Codebase.contractNamed?_ofDeclarations name
  refine ⟨?_, steps, ?_⟩
  · have unnamed : last = none ↔ ∀ d ∈ ds, ∀ r ∈ d.registration?, ¬ r.key = lookupKey name := by
      simp only [last, lastRegistration?_eq_none_iff, decide_eq_false_iff_not]
    refine Iff.trans ?_ unnamed
    rw [steps]
    cases byName : last with
    | none => exact ⟨fun _ => rfl, fun _ => rfl⟩
    | some r =>
      obtain ⟨s, byIdentity⟩ := Codebase.exists_lastRegistration?_id byName
      simp [byIdentity]
  · intro unshared
    rw [steps]
    cases byName : last with
    | none => rfl
    | some r =>
      -- Under these conditions the identity has no registration that the key does not have.
      have same : lastRegistration? ds (·.id = r.id) = some r := by
        refine latest?_of_imp (fun d member s gives => ?_) (fun d member gives => ?_) byName
        · obtain ⟨registers, passes⟩ := Option.filter_eq_some_iff.1 gives
          have key := unshared r byName d member s registers (of_decide_eq_true passes)
          exact Option.filter_eq_some_iff.2 ⟨registers, decide_eq_true key⟩
        · obtain ⟨registers, -⟩ := Option.filter_eq_some_iff.1 gives
          exact Option.filter_eq_some_iff.2 ⟨registers, decide_eq_true rfl⟩
      rw [Option.bind_some, same]

/-- The contract that declares a single type. -/
def Contract.ofTypeName (name : String) : Contract :=
  .declared (TypeSet.singleton (.plain ⟨name⟩))

namespace RespelledName

/-- The same key in two spellings, which have two identities. -/
def declarations : List Declaration :=
  [.function "\\F" (some "X"), .method "A" "f" none, .function "f" (some "Y")]

theorem respelled_name_wins :
    (Codebase.ofDeclarations declarations).program.contractNamed? "\\f" =
      some (.ofTypeName "Y") := by
  have unshared : ∀ r ∈ lastRegistration? declarations (·.key = lookupKey "\\f"),
      ∀ d ∈ declarations, ∀ s ∈ d.registration?, s.id = r.id →
        lookupKey s.name = lookupKey "\\f" := by
    decide +kernel
  exact ((last_registration_wins declarations "\\f").2.2 unshared).trans (by decide +kernel)

end RespelledName

namespace PaddedName

/-- The second name has the identity of the first one, but not its key. -/
def declarations : List Declaration := [.function "f" (some "X"), .function " f" (some "Y")]

theorem padded_name_takes_over :
    (lastRegistration? declarations (·.key = lookupKey "f")).map (·.contract) =
      some (.ofTypeName "X") ∧
    (Codebase.ofDeclarations declarations).program.contractNamed? "f" =
      some (.ofTypeName "Y") ∧
    Contract.ofTypeName "X" ≠ Contract.ofTypeName "Y" := by
  decide +kernel

end PaddedName

end Uncaught
