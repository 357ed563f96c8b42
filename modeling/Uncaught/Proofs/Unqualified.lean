import Mathlib.Data.List.Forall2
import Mathlib.Data.List.Induction
import Uncaught.Codebase
import Uncaught.Program.Resolution
import Uncaught.Proofs.Ancestors
import Uncaught.Proofs.TypeText

/-!
Programs without nullable qualifiers.

A text is another one without its qualifiers if it writes the same types, each without the qualifier
and in the order of first insertion; since `A` and `?A` fall together, these may be fewer. There is
such a text for every text (`unqualified_render`). The types that a program keeps were written in its
declarations. So two programs whose declarations differ in qualifiers only have the same hierarchy,
the same look-up keys and the same methods, and in the two tables that keep types every entry of one
is that of the other without qualifiers (`unqualified_ofDeclarations`).

Nothing that is looked up in a program depends on qualifiers. Callables are found by name, methods
by the names of types, and a type that is asked for a method with and without the qualifier adds no
method the second time (`methodsOn_nonNull`). What a target covers is a question of names as well
(`covers_congr_names`).
-/
namespace Uncaught

/-! ## Sets -/

namespace TypeSet

variable {s other : TypeSet} {t : NamedType}

/-- The members without their qualifiers, each once, in the order of first insertion. -/
def nonNull (s : TypeSet) : TypeSet := ofList (s.members.map NamedType.nonNull)

theorem mem_ofList {types : List NamedType} : t ∈ ofList types ↔ t ∈ types := by
  rw [ofList, mem_extend]
  exact or_iff_right List.not_mem_nil

theorem mem_nonNull : t ∈ s.nonNull ↔ ∃ u ∈ s, u.nonNull = t := by
  rw [nonNull, mem_ofList]
  exact List.mem_map

theorem isEmpty_eq_true_iff : s.isEmpty = true ↔ ∀ t, ¬ t ∈ s :=
  List.isEmpty_iff.trans List.eq_nil_iff_forall_not_mem

@[simp] theorem isEmpty_nonNull (s : TypeSet) : s.nonNull.isEmpty = s.isEmpty := by
  rw [Bool.eq_iff_iff, isEmpty_eq_true_iff, isEmpty_eq_true_iff]
  constructor
  · intro nothing t member
    exact nothing t.nonNull (mem_nonNull.2 ⟨t, member, rfl⟩)
  · intro nothing t member
    obtain ⟨u, member, -⟩ := mem_nonNull.1 member
    exact nothing u member

/-- The members of two sets have the same names. -/
def SameNames (s other : TypeSet) : Prop :=
  ∀ name, (∃ t ∈ s, t.name = name) ↔ ∃ t ∈ other, t.name = name

theorem sameNames_nonNull (s : TypeSet) : s.SameNames s.nonNull := by
  intro name
  constructor
  · intro h
    obtain ⟨t, member, named⟩ := h
    exact ⟨t.nonNull, mem_nonNull.2 ⟨t, member, rfl⟩, named⟩
  · intro h
    obtain ⟨t, member, named⟩ := h
    obtain ⟨u, original, rfl⟩ := mem_nonNull.1 member
    exact ⟨u, original, named⟩

theorem SameNames.union {s' other' : TypeSet} (same : s.SameNames s')
    (same' : other.SameNames other') : (s.union other).SameNames (s'.union other') := by
  intro name
  simp only [mem_union, or_and_right, exists_or, same name, same' name]

end TypeSet

/-- Covering is a question of names. -/
theorem Hierarchy.covers_congr_names {h : Hierarchy} {target target' : TypeSet} {t u : NamedType}
    (same : target.SameNames target') (named : t.name = u.name) :
    h.covers target t = h.covers target' u := by
  have byName (s : TypeSet) (v : NamedType) : h.covers s v = true ↔
      ∃ name, (∃ w ∈ s, w.name = name) ∧ (name = TypeName.mixed ∨ h.Reaches v.name name) := by
    rw [covers_iff]
    constructor
    · intro covered
      obtain ⟨w, member, stands⟩ := covered
      exact ⟨w.name, ⟨w, member, rfl⟩, stands⟩
    · intro covered
      obtain ⟨_, ⟨w, member, rfl⟩, stands⟩ := covered
      exact ⟨w, member, stands⟩
  rw [Bool.eq_iff_iff, byName, byName, named]
  simp only [same _]

/-! ## Texts and declarations -/

/-- A text writes what another one writes, without the qualifiers. -/
def Unqualified (source plain : String) : Prop :=
  (TypeSet.parse plain).value = (TypeSet.parse source).value.nonNull

instance (source plain : String) : Decidable (Unqualified source plain) :=
  inferInstanceAs (Decidable (_ = _))

/-- Every text can be written without qualifiers. -/
theorem unqualified_render (source : String) :
    Unqualified source (TypeSet.parse source).value.nonNull.render := by
  apply TypeSet.parse_render
  intro t member
  obtain ⟨u, original, rfl⟩ := TypeSet.mem_nonNull.1 member
  exact TypeSet.isReadable_parse source u original

/-- A declaration is another one without the qualifiers of the types it writes. Names of classes and
callables are no types. -/
inductive Declaration.Unqualified : Declaration → Declaration → Prop
  | classLike (name : String) (parents : List String) :
      Unqualified (.classLike name parents) (.classLike name parents)
  | function (name : String) {throws plain : Option String} :
      Option.Rel Uncaught.Unqualified throws plain →
      Unqualified (.function name throws) (.function name plain)
  | closure (name : String) {throws plain : Option String} :
      Option.Rel Uncaught.Unqualified throws plain →
      Unqualified (.closure name throws) (.closure name plain)
  | method (className name : String) {throws plain : Option String} :
      Option.Rel Uncaught.Unqualified throws plain →
      Unqualified (.method className name throws) (.method className name plain)
  | staticMethod (className name : String) {throws plain : Option String} :
      Option.Rel Uncaught.Unqualified throws plain →
      Unqualified (.staticMethod className name throws) (.staticMethod className name plain)
  | variableTypes (function name : String) {types plain : String} :
      Uncaught.Unqualified types plain →
      Unqualified (.variableTypes function name types) (.variableTypes function name plain)
  | variableCallables (function name : String) (callees : List String) :
      Unqualified (.variableCallables function name callees)
        (.variableCallables function name callees)

namespace Contract

def nonNull : Contract → Contract
  | undeclared => undeclared
  | declared types => declared types.nonNull

@[simp] theorem candidates_nonNull (contract : Contract) :
    contract.nonNull.candidates = contract.candidates.nonNull := by
  cases contract <;> rfl

end Contract

def CallableInfo.nonNull (info : CallableInfo) : CallableInfo :=
  { info with contract := info.contract.nonNull }

theorem Program.parseContract_unqualified {throws plain : Option String}
    (unqualified : Option.Rel Unqualified throws plain) :
    (parseContract plain).value = (parseContract throws).value.nonNull := by
  cases unqualified with
  | none => rfl
  | some same => exact congrArg Contract.declared same

/-! ## Programs -/

namespace Table

variable {κ ν : Type} [DecidableEq κ] {f : ν → ν} {t u : Table κ ν}

/-- One table has the values of another one under a function. -/
def Maps (f : ν → ν) (t u : Table κ ν) : Prop := ∀ k, u.get? k = (t.get? k).map f

theorem maps_empty : (empty : Table κ ν).Maps f empty := fun _ => rfl

theorem Maps.insert (maps : t.Maps f u) (k : κ) (v : ν) :
    (t.insert k v).Maps f (u.insert k (f v)) := by
  intro k'
  rw [get?_insert, get?_insert]
  split
  · rfl
  · exact maps k'

end Table

/-- A program is another one without the qualifiers of the types it keeps. -/
structure Program.Unqualified (p plain : Program) : Prop where
  hierarchy : plain.hierarchy = p.hierarchy
  index : plain.index = p.index
  methods : plain.methods = p.methods
  variableCallables : plain.variableCallables = p.variableCallables
  callables : p.callables.Maps CallableInfo.nonNull plain.callables
  variableTypes : p.variableTypes.Maps TypeSet.nonNull plain.variableTypes

namespace Program

section

variable {p plain : Program} {throws throws' : Option String}

theorem unqualified_empty : empty.Unqualified empty :=
  ⟨rfl, rfl, rfl, rfl, Table.maps_empty, Table.maps_empty⟩

theorem Unqualified.register (same : p.Unqualified plain) (callable : Callable)
    (contracts : Option.Rel Uncaught.Unqualified throws throws') :
    (p.register callable throws).value.Unqualified (plain.register callable throws').value where
  hierarchy := same.hierarchy
  index := congrArg (·.insert (lookupKey callable.name) callable.id) same.index
  methods := same.methods
  variableCallables := same.variableCallables
  callables := by
    have entry := same.callables.insert callable.id ⟨callable.name, (parseContract throws).value⟩
    rw [CallableInfo.nonNull, ← parseContract_unqualified contracts] at entry
    exact entry
  variableTypes := same.variableTypes

theorem Unqualified.declareMethod (same : p.Unqualified plain) (className name : String)
    (isStatic : Bool) (contracts : Option.Rel Uncaught.Unqualified throws throws') :
    (p.declareMethod className name isStatic throws).value.Unqualified
      (plain.declareMethod className name isStatic throws').value := by
  have registered := same.register ⟨CallableName.ofMethod className name,
    (CallableName.ofMethod className name).text⟩ contracts
  exact {
    hierarchy := congrArg (·.insertType (TypeName.ofText className)) same.hierarchy
    index := registered.index
    methods := congrArg
      (·.insert (MethodKey.ofName (TypeName.ofText className) name)
        ⟨CallableName.ofMethod className name, isStatic⟩)
      same.methods
    variableCallables := same.variableCallables
    callables := registered.callables
    variableTypes := same.variableTypes }

/-- Declarations that differ in qualifiers lead to programs that do. -/
theorem Unqualified.declare (same : p.Unqualified plain) {d d' : Declaration}
    (declared : d.Unqualified d') : (p.declare d).value.Unqualified (plain.declare d').value := by
  cases declared with
  | classLike name parents =>
    let child := TypeName.ofText name
    exact { same with
      hierarchy := congrArg
        (fun h : Hierarchy => (declareParents (h.insertType child) child parents).value)
        same.hierarchy }
  | function name contracts => exact same.register _ contracts
  | closure name contracts => exact same.register _ contracts
  | method className name contracts => exact same.declareMethod className name false contracts
  | staticMethod className name contracts => exact same.declareMethod className name true contracts
  | @variableTypes function name types types' written =>
    have entry := same.variableTypes.insert (VariableKey.ofNames function name)
      (TypeSet.parse types).value
    rw [← written] at entry
    exact { same with variableTypes := entry }
  | variableCallables function name callees =>
    have bound : plain.boundCallables callees = p.boundCallables callees := by
      rw [boundCallables, same.index]
      rfl
    refine { same with variableCallables := ?_ }
    show plain.variableCallables.insert _ (plain.boundCallables callees) = _
    rw [same.variableCallables, bound]
    rfl

theorem unqualified_ofDeclarations {ds ds' : List Declaration}
    (declared : List.Forall₂ Declaration.Unqualified ds ds') :
    (Codebase.ofDeclarations ds).program.Unqualified (Codebase.ofDeclarations ds').program := by
  have run (c c' : Codebase) (same : c.program.Unqualified c'.program) :
      (ds.foldl Codebase.declare c).program.Unqualified
        (ds'.foldl Codebase.declare c').program := by
    induction declared generalizing c c' with
    | nil => exact same
    | cons first _ ih => exact ih _ _ (same.declare first)
  exact run Codebase.empty Codebase.empty unqualified_empty

end

/-! ## Methods -/

section

variable {p : Program} {method : String} {found : List MethodInfo} {types : List NamedType}

theorem methodsOn_append (found : List MethodInfo) (types more : List NamedType) :
    p.methodsOn method found (types ++ more) =
      p.methodsOn method (p.methodsOn method found types) more := by
  induction types generalizing found with
  | nil => rfl
  | cons t types ih =>
    rw [List.cons_append, methodsOn, methodsOn]
    cases p.inheritedMethod? t.name method with
    | none => exact ih found
    | some entry => exact ih _

/-- Methods are found by the names of types. -/
theorem methodsOn_map_nonNull (found : List MethodInfo) (types : List NamedType) :
    p.methodsOn method found (types.map NamedType.nonNull) = p.methodsOn method found types := by
  induction types generalizing found with
  | nil => rfl
  | cons t types ih =>
    have named : t.nonNull.name = t.name := rfl
    rw [List.map_cons, methodsOn, methodsOn, named]
    cases p.inheritedMethod? t.name method with
    | none => exact ih found
    | some entry => exact ih _

theorem any_methodsOn {id : CallableName} (known : found.any (·.id = id) = true)
    (types : List NamedType) : (p.methodsOn method found types).any (·.id = id) = true := by
  induction types generalizing found with
  | nil => exact known
  | cons t types ih =>
    rw [methodsOn]
    cases p.inheritedMethod? t.name method with
    | none => exact ih known
    | some entry =>
      refine ih ?_
      split
      · exact known
      · rw [List.any_append, known, Bool.true_or]

/-- What a type has is among the methods found on a list with the type. -/
theorem any_methodsOn_of_mem {t : NamedType} {entry : MethodInfo} (member : t ∈ types)
    (has : p.inheritedMethod? t.name method = some entry) :
    (p.methodsOn method found types).any (·.id = entry.id) = true := by
  induction types generalizing found with
  | nil => cases member
  | cons u types ih =>
    rcases List.mem_cons.1 member with rfl | member
    · rw [methodsOn, has]
      refine any_methodsOn ?_ types
      split
      next known => exact known
      next => rw [List.any_append, List.any_cons, decide_eq_true rfl, Bool.true_or, Bool.or_true]
    · rw [methodsOn]
      cases p.inheritedMethod? u.name method with
      | none => exact ih member
      | some _ => exact ih member

/-- A type that has been asked before adds no method. -/
theorem methodsOn_singleton_of_mem {t : NamedType} (member : t ∈ types) :
    p.methodsOn method (p.methodsOn method found types) [t] = p.methodsOn method found types := by
  rw [methodsOn]
  cases has : p.inheritedMethod? t.name method with
  | none => rfl
  | some entry =>
    dsimp only
    rw [if_pos (any_methodsOn_of_mem member has)]
    rfl

/-- It does not matter for methods that a set has every type once. -/
theorem methodsOn_ofList (types : List NamedType) :
    p.methodsOn method [] (TypeSet.ofList types).members = p.methodsOn method [] types := by
  induction types using List.reverseRecOn with
  | nil => rfl
  | append_singleton types t ih =>
    have grown : TypeSet.ofList (types ++ [t]) = (TypeSet.ofList types).insert t := by
      rw [TypeSet.ofList, TypeSet.extend, List.foldl_append]
      rfl
    rw [grown, TypeSet.members_insert, methodsOn_append]
    split
    next member => rw [methodsOn_singleton_of_mem (TypeSet.mem_ofList.1 member), ih]
    next => rw [methodsOn_append, ih]

/-- The methods on a set are those on the set without qualifiers. -/
theorem methodsOn_nonNull (types : TypeSet) :
    p.methodsOn method [] types.nonNull.members = p.methodsOn method [] types.members := by
  rw [TypeSet.nonNull, methodsOn_ofList, methodsOn_map_nonNull]

end

/-! ## Look-ups -/

namespace Unqualified

variable {p plain : Program} (same : p.Unqualified plain)

include same

theorem callable?_eq (id : CallableName) : plain.callable? id = p.callable? id := by
  rw [callable?, callable?, same.callables id, Option.map_map]
  rfl

theorem callableNamed?_eq (name : String) : plain.callableNamed? name = p.callableNamed? name := by
  rw [callableNamed?, callableNamed?, same.index]
  exact congrArg (Option.bind _) (funext same.callable?_eq)

theorem contract_eq (callable : Callable) :
    plain.contract callable = (p.contract callable).nonNull := by
  rw [contract, contract, same.callables]
  cases p.callables.get? callable.id <;> rfl

theorem callableOf_eq (scope : Routine) :
    (plain.callableOf scope).value = (p.callableOf scope).value := by
  rw [callableOf, callableOf, same.callableNamed?_eq]

theorem variableTypes?_eq (function name : String) :
    plain.variableTypes? function name = (p.variableTypes? function name).map TypeSet.nonNull :=
  same.variableTypes _

theorem inheritedMethod?_eq (className : TypeName) (method : String) :
    plain.inheritedMethod? className method = p.inheritedMethod? className method := by
  rw [inheritedMethod?, inheritedMethod?, same.hierarchy, same.methods]

theorem methodsOn_eq (method : String) (found : List MethodInfo) (types : List NamedType) :
    plain.methodsOn method found types = p.methodsOn method found types := by
  induction types generalizing found with
  | nil => rfl
  | cons t types ih =>
    rw [methodsOn, methodsOn, same.inheritedMethod?_eq]
    simp only [ih]

/-- The method that is reached on a set is the one reached on the set without qualifiers. -/
theorem methodTargetOn_eq (types : TypeSet) (method : String) (lookup : LookupMode) :
    plain.methodTargetOn types.nonNull method lookup = p.methodTargetOn types method lookup := by
  rw [methodTargetOn, methodTargetOn, TypeSet.isEmpty_nonNull, same.methodsOn_eq,
    methodsOn_nonNull, funext same.callable?_eq]

end Unqualified

end Program

end Uncaught
