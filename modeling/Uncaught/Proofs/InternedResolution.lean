import Uncaught.Interned.Check
import Uncaught.Proofs.InternedPrograms

/-!
What expressions and calls mean by number.

An expression has the types that it has by name, and a call reaches the callables that it reaches by
name, or is given up for the same reason. The methods that a look-up comes across are told apart by
their numbers, so the same ones count as one method, and the order in which they are found is that
by name.
-/
namespace Uncaught.Interned

namespace Program.StandsFor

variable {names : NameTable} {p : Program} {p' : Uncaught.Program}

/-! ## Expressions -/

theorem follows_typesOf (hp : p.StandsFor names p') (scope : Routine) (e : Expr) :
    Follows names TypeSet.StandsFor (p.typesOf scope e) (p'.typesOf scope e) := by
  cases e with
  | new className => exact TypeSet.follows_parse names className
  | var name =>
    exact Follows.pure ((hp.variableTypes? scope.fullName name).getD TypeSet.standsFor_empty)
  | _ => exact Follows.pure TypeSet.standsFor_empty

theorem follows_receiverTypes (hp : p.StandsFor names p') (scope : Routine) (e : Expr) :
    Follows names TypeSet.StandsFor (p.receiverTypes scope e) (p'.receiverTypes scope e) := by
  have typed := hp.follows_typesOf scope e
  cases e with
  | classRef name => exact TypeSet.follows_parse names name
  | _ => exact typed

/-! ## Functions -/

theorem follows_callableOf (hp : p.StandsFor names p') (scope : Routine) :
    Follows names Callable.StandsFor (p.callableOf scope) (p'.callableOf scope) := by
  have found := hp.callableNamed? scope.fullName
  unfold Program.callableOf Uncaught.Program.callableOf
  revert found
  generalize p.callableNamed? scope.fullName = declared,
    p'.callableNamed? scope.fullName = declared'
  intro found
  cases found with
  | some h => exact Follows.pure h
  | none =>
    exact (Follows.internCallable names (Uncaught.Program.undeclaredId scope)).bind
      fun _ _ _ _ hid => Follows.pure ⟨hid, rfl⟩

theorem callNamed (hp : p.StandsFor names p') (name : String) :
    OutcomeRel (List.Forall₂ (Callable.StandsFor names))
      (match p.callableNamed? name with
        | some callable => .ok [callable]
        | none => .error Abstention.notFound)
      (match p'.callableNamed? name with
        | some callable => .ok [callable]
        | none => .error Abstention.notFound) := by
  have found := hp.callableNamed? name
  revert found
  generalize p.callableNamed? name = declared, p'.callableNamed? name = declared'
  intro found
  cases found with
  | some h => exact .ok (.cons h .nil)
  | none => exact .error _

theorem callTargets (hp : p.StandsFor names p') (scope : Routine) (e : Expr) :
    OutcomeRel (List.Forall₂ (Callable.StandsFor names)) (p.callTargets scope e)
      (p'.callTargets scope e) := by
  cases e with
  | name name => exact hp.callNamed name
  | stringLiteral name => exact hp.callNamed name
  | var name =>
    have found := hp.variableCallables? scope.fullName name
    unfold Program.callTargets Uncaught.Program.callTargets
    dsimp only
    revert found
    generalize p.variableCallables? scope.fullName name = ids,
      p'.variableCallables? scope.fullName name = ids'
    intro found
    cases found with
    | some h => exact .ok (List.rel_filterMap (fun _ _ hid => hp.callable? hid) h)
    | none => exact .error _
  | _ => exact .error _

/-! ## Methods -/

/-- The methods that are found on related types are related, each of them once by number as by
name. -/
theorem methodsOn (hp : p.StandsFor names p') (method : String) {found : List MethodInfo}
    {found' : List Uncaught.MethodInfo} {types : List TypeRef} {types' : List NamedType}
    (hf : List.Forall₂ (MethodInfo.StandsFor names) found found')
    (ht : List.Forall₂ (TypeRef.StandsFor names) types types') :
    List.Forall₂ (MethodInfo.StandsFor names) (p.methodsOn method found types)
      (p'.methodsOn method found' types') := by
  induction ht generalizing found found' with
  | nil => exact hf
  | @cons t t' types types' first _ ih =>
    have entry := hp.inheritedMethod? first.id method
    unfold Program.methodsOn Uncaught.Program.methodsOn
    revert entry
    generalize p.inheritedMethod? t.id method = m, p'.inheritedMethod? t'.name method = m'
    intro entry
    cases entry with
    | none => exact ih hf
    | @some m m' hm =>
      have known : found.any (·.id = m.id) = found'.any (·.id = m'.id) :=
        hf.any_eq fun x y hx =>
          decide_eq_decide.2 (Relator.rel_eq (CallableId.biUnique names) hx.id hm.id)
      dsimp only
      rw [known]
      split
      · exact ih hf
      · exact ih (List.rel_append hf (.cons hm .nil))

theorem chooseMethod (lookup : LookupMode) {found : List MethodInfo}
    {found' : List Uncaught.MethodInfo}
    (hf : List.Forall₂ (MethodInfo.StandsFor names) found found') :
    OutcomeRel (MethodInfo.StandsFor names) (Program.chooseMethod lookup found)
      (Uncaught.Program.chooseMethod lookup found') := by
  -- A static look-up takes the first method if that is static.
  have first {m : MethodInfo} {m' : Uncaught.MethodInfo} (hm : m.StandsFor names m') :
      OutcomeRel (MethodInfo.StandsFor names)
        (if m.isStatic then .ok m else .error Abstention.deferred)
        (if m'.isStatic then .ok m' else .error Abstention.deferred) := by
    rw [hm.isStatic]
    split
    · exact .ok hm
    · exact .error _
  cases hf with
  | nil => cases lookup <;> exact .error _
  | cons hm rest =>
    cases lookup with
    | object => cases rest <;> exact .ok hm
    | static forgiving =>
      cases rest with
      | nil => cases forgiving <;> exact first hm
      | cons _ _ =>
        cases forgiving with
        | true => exact first hm
        | false => exact .error _

theorem methodTargetOn (hp : p.StandsFor names p') {types : TypeSet} {types' : Uncaught.TypeSet}
    (ht : types.StandsFor names types') (method : String) (lookup : LookupMode) :
    OutcomeRel (Callable.StandsFor names) (p.methodTargetOn types method lookup)
      (p'.methodTargetOn types' method lookup) := by
  have chosen := chooseMethod lookup (hp.methodsOn method .nil ht)
  unfold Program.methodTargetOn Uncaught.Program.methodTargetOn
  rw [ht.isEmpty_eq]
  split
  · exact .error _
  · revert chosen
    generalize Program.chooseMethod lookup (p.methodsOn method [] types.members) = m,
      Uncaught.Program.chooseMethod lookup (p'.methodsOn method [] types'.members) = m'
    intro chosen
    cases chosen with
    | error reason => exact .error reason
    | @ok m m' hm =>
      have found := hp.callable? hm.id
      dsimp only
      revert found
      generalize p.callable? m.id = c, p'.callable? m'.id = c'
      intro found
      cases found with
      | some hc => exact .ok hc
      | none => exact .error _

theorem follows_methodTarget (hp : p.StandsFor names p') (scope : Routine) (receiver : Expr)
    (method : String) (lookup : LookupMode) :
    Follows names (fun later => OutcomeRel (Callable.StandsFor later))
      (p.methodTarget scope receiver method lookup)
      (p'.methodTarget scope receiver method lookup) :=
  (hp.follows_receiverTypes scope receiver).bind fun _ _ _ kept ht =>
    Follows.pure ((hp.mono kept).methodTargetOn ht method lookup)

/-! ## Catch clauses -/

/-- What escapes clauses by number stands for what escapes them by name, and the clauses are read
only as far as by name. -/
theorem follows_escaping (hp : p.StandsFor names p') {types : TypeSet} {types' : Uncaught.TypeSet}
    (ht : types.StandsFor names types') (clauses : List (List String)) :
    Follows names TypeSet.StandsFor (p.escaping types clauses)
      (p'.hierarchy.escaping types' clauses) := by
  induction clauses generalizing names types types' with
  | nil => exact Follows.pure ht
  | cons clause rest ih =>
    unfold Program.escaping Uncaught.Hierarchy.escaping
    rw [ht.isEmpty_eq]
    split
    · exact Follows.pure ht
    · refine (TypeSet.follows_parseAll TypeSet.standsFor_empty clause).bind
        fun later caught caught' kept hc => ?_
      have hp := hp.mono kept
      refine ih hp ((ht.mono kept).filter fun t t' h => ?_)
      rw [hp.covers_eq hc h]

end Program.StandsFor

end Uncaught.Interned
