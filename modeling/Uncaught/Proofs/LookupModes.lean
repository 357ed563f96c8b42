import Uncaught.Proofs.Inheritance
import Uncaught.Proofs.LookupOrder

/-!
The three ways to look up a method, compared.

A look-up on an object takes the first method that it comes by, a forgiving static one takes it too
if it is static, and a strict one wants it to be the only one besides. So each of them succeeds
under stronger conditions than the one before, and where two succeed they have the same result
(`laxer_lookups_agree`). The reasons to give up are told apart in the same way: a receiver without
types fails every look-up, and no look-up of an object fails otherwise unless there is no method at
all; only a strict look-up calls anything ambiguous, and it does exactly if the types of the receiver
have two different methods of the name.
-/
namespace Uncaught

namespace Program

/-! ## What is chosen among the methods found -/

section

variable {found : List MethodInfo} {info : MethodInfo} {lookup : LookupMode}

theorem chooseMethod_object_eq_ok_iff :
    chooseMethod .object found = .ok info ↔ found.head? = some info := by
  rw [chooseMethod_object]
  cases found.head? with
  | none => simp
  | some m => simp

theorem chooseMethod_forgiving_eq_ok_iff :
    chooseMethod (.static true) found = .ok info ↔
      found.head? = some info ∧ info.isStatic = true := by
  rw [chooseMethod_forgiving]
  cases found.head? with
  | none => simp
  | some m =>
    rw [Option.elim_some, Option.some.injEq]
    split
    next static =>
      rw [Except.ok.injEq]
      exact ⟨fun same => ⟨same, same ▸ static⟩, And.left⟩
    next plain => exact iff_of_false (by simp) fun h => plain (h.1 ▸ h.2)

theorem chooseMethod_strict_eq_ok_iff :
    chooseMethod (.static false) found = .ok info ↔ found = [info] ∧ info.isStatic = true := by
  match found with
  | [] => simp [chooseMethod]
  | [m] =>
    -- With a single method the two static look-ups are one.
    have alike : chooseMethod (.static false) [m] = chooseMethod (.static true) [m] := rfl
    rw [alike, chooseMethod_forgiving_eq_ok_iff]
    simp
  | _ :: _ :: _ => simp [chooseMethod]

theorem chooseMethod_object_eq_deferred_iff :
    chooseMethod .object found = .error .deferred ↔ found = [] := by
  cases found with
  | nil => simp [chooseMethod]
  | cons m rest => simp [chooseMethod_object]

theorem chooseMethod_eq_ambiguous_iff :
    chooseMethod lookup found = .error .ambiguous ↔ lookup = .static false ∧ 1 < found.length := by
  cases found with
  | nil => simp [chooseMethod]
  | cons m rest =>
    cases lookup with
    | object => cases rest <;> simp [chooseMethod]
    | static forgiving => cases forgiving <;> cases rest <;> grind [chooseMethod]

end

/-! ## What is found on a set -/

section

variable {p : Program} {name : String} {types : TypeSet}

theorem methodsOn_eq_nil_iff :
    p.methodsOn name [] types.members = [] ↔ ∀ t ∈ types, p.inheritedMethod? t.name name = none := by
  rw [← List.head?_eq_none_iff, head?_methodsOn]
  exact List.findSome?_eq_none_iff

/-- Several methods are found exactly if two different ones are reached. -/
theorem one_lt_length_methodsOn_iff (known : p.MethodsKnown) :
    1 < (p.methodsOn name [] types.members).length ↔
      ∃ info info', p.Reaches types name info ∧ p.Reaches types name info' ∧
        info.id ≠ info'.id := by
  have reached (info : MethodInfo) :
      info ∈ p.methodsOn name [] types.members ↔ p.Reaches types name info := by
    rw [mem_methodsOn known fun i member => absurd member List.not_mem_nil]
    exact or_iff_right List.not_mem_nil
  have nodup : ((p.methodsOn name [] types.members).map (·.id)).Nodup :=
    nodup_methodsOn (by simp) types.members
  simp only [← reached]
  match p.methodsOn name [] types.members, nodup with
  | [], _ => simp
  | [m], _ =>
    refine iff_of_false (Nat.lt_irrefl 1) ?_
    rintro ⟨info, info', member, member', differ⟩
    rw [List.mem_singleton.1 member, List.mem_singleton.1 member'] at differ
    exact differ rfl
  | m :: m' :: rest, nodup =>
    have differ : m.id ≠ m'.id := by
      intro same
      rw [List.map_cons, List.map_cons, same] at nodup
      exact (List.nodup_cons.1 nodup).1 List.mem_cons_self
    refine iff_of_true (by simp) ⟨m, m', List.mem_cons_self, ?_, differ⟩
    exact List.mem_cons_of_mem m List.mem_cons_self

end

/-! ## What a look-up comes to -/

section

variable {p : Program} {name : String} {types other : TypeSet} {lookup : LookupMode}
  {callable : Callable} {reason : Abstention}

theorem methodTargetOn_eq_ok_iff :
    p.methodTargetOn types name lookup = .ok callable ↔
      types.isEmpty = false ∧ ∃ info,
        chooseMethod lookup (p.methodsOn name [] types.members) = .ok info ∧
        p.callable? info.id = some callable := by
  rw [methodTargetOn_eq, chosenMethod]
  cases types.isEmpty with
  | true => simp
  | false =>
    rw [if_neg Bool.false_ne_true]
    cases chooseMethod lookup (p.methodsOn name [] types.members) with
    | error reason => simp
    | ok info =>
      cases entered : p.callable? info.id with
      | none => simp [entered]
      | some callable' => simp [entered]

/-- A look-up that succeeds whenever another one does, with the same choice, has its target then. -/
theorem methodTargetOn_eq_ok_of_imp {laxer : LookupMode}
    (agrees : ∀ found info, chooseMethod lookup found = .ok info →
      chooseMethod laxer found = .ok info)
    (target : p.methodTargetOn types name lookup = .ok callable) :
    p.methodTargetOn types name laxer = .ok callable := by
  obtain ⟨some, info, chosen, entered⟩ := methodTargetOn_eq_ok_iff.1 target
  exact methodTargetOn_eq_ok_iff.2 ⟨some, info, agrees _ _ chosen, entered⟩

theorem methodTargetOn_forgiving_of_strict
    (target : p.methodTargetOn types name (.static false) = .ok callable) :
    p.methodTargetOn types name (.static true) = .ok callable := by
  refine methodTargetOn_eq_ok_of_imp (fun found info chosen => ?_) target
  obtain ⟨rfl, static⟩ := chooseMethod_strict_eq_ok_iff.1 chosen
  exact chooseMethod_forgiving_eq_ok_iff.2 ⟨rfl, static⟩

theorem methodTargetOn_object_of_forgiving
    (target : p.methodTargetOn types name (.static true) = .ok callable) :
    p.methodTargetOn types name .object = .ok callable := by
  refine methodTargetOn_eq_ok_of_imp (fun found info chosen => ?_) target
  exact chooseMethod_object_eq_ok_iff.2 (chooseMethod_forgiving_eq_ok_iff.1 chosen).1

/-- A look-up gives up for want of types or by its choice, since what is chosen is declared. -/
theorem IsLinked.methodTargetOn_eq_error_iff (linked : p.IsLinked) :
    p.methodTargetOn types name lookup = .error reason ↔
      if types.isEmpty then reason = .unresolvable
      else chooseMethod lookup (p.methodsOn name [] types.members) = .error reason := by
  rw [methodTargetOn_eq]
  cases chosen : p.chosenMethod types name lookup with
  | error reason' =>
    rw [chosenMethod] at chosen
    split at chosen
    next none =>
      obtain rfl := Except.error.inj chosen
      simp [none, eq_comm]
    next some => simp [some, chosen]
  | ok info =>
    obtain ⟨owner, own⟩ := isMethod_of_chosenMethod chosen
    obtain ⟨callable, entered, -⟩ := (linked.methods _ info own).exists_callable?
    rw [chosenMethod] at chosen
    split at chosen
    next => cases chosen
    next some => simp [some, chosen, entered]

theorem IsLinked.methodTargetOn_eq_unresolvable_iff (linked : p.IsLinked) :
    p.methodTargetOn types name lookup = .error .unresolvable ↔ types.members = [] := by
  rw [linked.methodTargetOn_eq_error_iff, TypeSet.isEmpty]
  split
  next none => simpa using none
  next some =>
    refine iff_of_false (fun given_up => ?_) (by simpa using some)
    simpa using deferred_or_ambiguous_of_chooseMethod given_up

/-- A look-up on an object is left to another check exactly if no type has the method. -/
theorem IsLinked.methodTargetOn_object_eq_deferred_iff (linked : p.IsLinked) :
    p.methodTargetOn types name .object = .error .deferred ↔
      types.members ≠ [] ∧ ∀ t ∈ types, p.inheritedMethod? t.name name = none := by
  rw [linked.methodTargetOn_eq_error_iff, TypeSet.isEmpty]
  split
  next none => exact iff_of_false (by simp) fun h => h.1 (by simpa using none)
  next some =>
    rw [chooseMethod_object_eq_deferred_iff, methodsOn_eq_nil_iff]
    exact (and_iff_right (by simpa using some)).symm

/-- Only a strict look-up is ambiguous, and it is exactly if two different methods are reached. -/
theorem IsLinked.methodTargetOn_eq_ambiguous_iff (linked : p.IsLinked) (known : p.MethodsKnown) :
    p.methodTargetOn types name lookup = .error .ambiguous ↔
      lookup = .static false ∧ ∃ info info', p.Reaches types name info ∧
        p.Reaches types name info' ∧ info.id ≠ info'.id := by
  rw [linked.methodTargetOn_eq_error_iff, TypeSet.isEmpty]
  split
  next none =>
    refine iff_of_false (by simp) ?_
    rintro ⟨-, info, info', ⟨t, member, -⟩, -, -⟩
    rw [TypeSet.mem_def, List.isEmpty_iff.1 none] at member
    cases member
  next => rw [chooseMethod_eq_ambiguous_iff, one_lt_length_methodsOn_iff known]

end

end Program

/-- A class has no method of a name if nothing that it reaches, itself included, is given one. -/
theorem inheritedMethod?_eq_none_iff_isOwner {ds : List Declaration} {className : TypeName}
    {name : String} :
    (Codebase.ofDeclarations ds).program.inheritedMethod? className name = none ↔
      ∀ owner, ¬ IsOwner ds className name owner := by
  rw [inheritedMethod?_eq_none_iff]
  constructor
  · intro nothing owner owns
    obtain ⟨info, given⟩ := owns.given
    rw [nothing owner owns.reached] at given
    cases given
  · intro nothing owner reached
    by_contra some
    obtain ⟨info, given⟩ := Option.ne_none_iff_exists'.1 some
    exact nothing owner ⟨reached, info, given⟩

/-- **Laxer look-ups agree with stricter ones.** Look a method up on a receiver in the three ways.
What a strict look-up finds is found by a forgiving one, and what this finds is found on an object.
A receiver without types cannot be resolved in any way, and this is the only cause. On an object the
method is left to another check exactly if there are types and none of them has the method or an
ancestor that is given it. Ambiguous is only a strict look-up, and exactly if two of the types have
different methods; and it does not depend on the order of the types. -/
theorem laxer_lookups_agree (ds : List Declaration) (scope : Routine) (receiver : Expr)
    (name : String) :
    let p := (Codebase.ofDeclarations ds).program
    let types := (p.receiverTypes scope receiver).value
    let target (lookup : LookupMode) := (p.methodTarget scope receiver name lookup).value
    (∀ callable, target (.static false) = .ok callable →
      target (.static true) = .ok callable ∧ target .object = .ok callable) ∧
    (∀ callable, target (.static true) = .ok callable → target .object = .ok callable) ∧
    (∀ lookup, target lookup = .error .unresolvable ↔ types.members = []) ∧
    (target .object = .error .deferred ↔
      types.members ≠ [] ∧ ∀ t ∈ types, ∀ owner, ¬ IsOwner ds t.name name owner) ∧
    (∀ lookup, target lookup = .error .ambiguous ↔
      lookup = .static false ∧ ∃ info info', p.Reaches types name info ∧
        p.Reaches types name info' ∧ info.id ≠ info'.id) ∧
    ∀ scope' receiver', types.same (p.receiverTypes scope' receiver').value = true →
      (p.methodTarget scope' receiver' name (.static false)).value = target (.static false) := by
  intro p types target
  have linked : p.IsLinked := Program.isLinked_ofDeclarations ds
  have known : p.MethodsKnown := Program.methodsKnown_ofDeclarations ds
  have on (lookup : LookupMode) : target lookup = p.methodTargetOn types name lookup := rfl
  simp only [on]
  refine ⟨?_, ?_, ?_, ?_, ?_, ?_⟩
  · intro callable found
    have forgiving := Program.methodTargetOn_forgiving_of_strict found
    exact ⟨forgiving, Program.methodTargetOn_object_of_forgiving forgiving⟩
  · intro callable found
    exact Program.methodTargetOn_object_of_forgiving found
  · intro lookup
    exact linked.methodTargetOn_eq_unresolvable_iff
  · rw [linked.methodTargetOn_object_eq_deferred_iff]
    simp only [p, inheritedMethod?_eq_none_iff_isOwner]
  · intro lookup
    exact linked.methodTargetOn_eq_ambiguous_iff known
  · intro scope' receiver' same
    have perm := TypeSet.same_iff_perm.1 same
    exact ((Program.methodTargetOn_eq_iff known perm (.static false)).2 (.inl rfl)).symm

/-- A laxer look-up may find more: here the method that is written first is not static. -/
example :
    let p := (Codebase.ofDeclarations
      [.method "A" "m" none, .staticMethod "B" "m" none, .classLike "C" ["B"]]).program
    let target (types : String) (lookup : LookupMode) :=
      (p.methodTarget ⟨"f", .function, none⟩ (.classRef types) "M" lookup).value.map (·.name)
    [LookupMode.static false, .static true, .object].map (target "A|C") =
      [.error .ambiguous, .error .deferred, .ok "A::m"] ∧
    [LookupMode.static false, .static true, .object].map (target "C|A") =
      [.error .ambiguous, .ok "B::m", .ok "B::m"] ∧
    [LookupMode.static false, .static true, .object].map (target "C|B") =
      [.ok "B::m", .ok "B::m", .ok "B::m"] := by
  decide +kernel

end Uncaught
