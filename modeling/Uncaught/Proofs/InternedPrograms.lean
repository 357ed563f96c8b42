import Uncaught.Codebase
import Uncaught.Interned.Program
import Uncaught.Proofs.InternedHierarchy

/-!
What a program of numbers stands for.

Every table stands, entry by entry, for the table of the program by name, keys for keys and values
for values. A look-up by number finds what the look-up by name finds, because numbers that stand for
different names are different (`Table.Related.get?`). A declaration writes to both programs alike,
and enters the names that the one by name notes; so a code base that is declared from nothing always
stands for the one that is declared by name, with the same table of names
(`Codebase.StandsFor.declare`).
-/
namespace Uncaught.Interned

/-! ## Contracts, callables and methods -/

inductive Contract.StandsFor (names : NameTable) : Contract → Uncaught.Contract → Prop where
  | undeclared : StandsFor names .undeclared .undeclared
  | declared {types : TypeSet} {types' : Uncaught.TypeSet} (h : types.StandsFor names types') :
    StandsFor names (.declared types) (.declared types')

structure Callable.StandsFor (names : NameTable) (c : Callable) (c' : Uncaught.Callable) :
    Prop where
  id : c.id.StandsFor names c'.id
  name : c.name = c'.name

structure CallableInfo.StandsFor (names : NameTable) (info : CallableInfo)
    (info' : Uncaught.CallableInfo) : Prop where
  name : info.name = info'.name
  contract : info.contract.StandsFor names info'.contract

structure MethodInfo.StandsFor (names : NameTable) (m : MethodInfo) (m' : Uncaught.MethodInfo) :
    Prop where
  id : m.id.StandsFor names m'.id
  isStatic : m.isStatic = m'.isStatic

structure MethodKey.StandsFor (names : NameTable) (k : MethodKey) (k' : Uncaught.MethodKey) :
    Prop where
  owner : k.owner.StandsFor names k'.owner
  method : k.method = k'.method

section

variable {names later : NameTable}

theorem Contract.StandsFor.mono {c : Contract} {c' : Uncaught.Contract} (h : c.StandsFor names c')
    (kept : names.KeptBy later) : c.StandsFor later c' := by
  cases h with
  | undeclared => exact .undeclared
  | declared h => exact .declared (h.mono kept)

theorem Contract.StandsFor.declared? {c : Contract} {c' : Uncaught.Contract}
    (h : c.StandsFor names c') :
    Option.Rel (TypeSet.StandsFor names) c.declared? c'.declared? := by
  cases h with
  | undeclared => exact .none
  | declared h => exact .some h

theorem Contract.StandsFor.candidates {c : Contract} {c' : Uncaught.Contract}
    (h : c.StandsFor names c') : c.candidates.StandsFor names c'.candidates :=
  h.declared?.getD TypeSet.standsFor_empty

theorem Contract.StandsFor.named_eq {c : Contract} {c' : Uncaught.Contract}
    (h : c.StandsFor names c') : c.named names = c' := by
  cases h with
  | undeclared => rfl
  | declared h => exact congrArg Uncaught.Contract.declared h.named_eq

theorem Callable.StandsFor.mono {c : Callable} {c' : Uncaught.Callable} (h : c.StandsFor names c')
    (kept : names.KeptBy later) : c.StandsFor later c' := ⟨h.id.mono kept, h.name⟩

theorem Callable.StandsFor.named_eq {c : Callable} {c' : Uncaught.Callable}
    (h : c.StandsFor names c') : c.named names = c' := by
  rw [Callable.named, h.id.name_eq, h.name]

theorem CallableInfo.StandsFor.mono {info : CallableInfo} {info' : Uncaught.CallableInfo}
    (h : info.StandsFor names info') (kept : names.KeptBy later) : info.StandsFor later info' :=
  ⟨h.name, h.contract.mono kept⟩

theorem MethodInfo.StandsFor.mono {m : MethodInfo} {m' : Uncaught.MethodInfo}
    (h : m.StandsFor names m') (kept : names.KeptBy later) : m.StandsFor later m' :=
  ⟨h.id.mono kept, h.isStatic⟩

theorem MethodKey.StandsFor.mono {k : MethodKey} {k' : Uncaught.MethodKey}
    (h : k.StandsFor names k') (kept : names.KeptBy later) : k.StandsFor later k' :=
  ⟨h.owner.mono kept, h.method⟩

theorem MethodKey.standsFor_ofName {owner : TypeId} {owner' : TypeName}
    (h : owner.StandsFor names owner') (method : String) :
    (ofName owner method).StandsFor names (.ofName owner' method) := ⟨h, rfl⟩

theorem MethodKey.biUnique (names : NameTable) : Relator.BiUnique (StandsFor names) := by
  constructor
  · rintro ⟨owner, m⟩ ⟨owner', m'⟩ k h h'
    rw [mk.injEq]
    exact ⟨(TypeId.biUnique names).1 h.owner h'.owner, h.method.trans h'.method.symm⟩
  · rintro k ⟨owner, m⟩ ⟨owner', m'⟩ h h'
    rw [Uncaught.MethodKey.mk.injEq]
    exact ⟨(TypeId.biUnique names).2 h.owner h'.owner, h.method.symm.trans h'.method⟩

end

/-! ## Programs -/

structure Program.StandsFor (names : NameTable) (p : Program) (p' : Uncaught.Program) : Prop where
  mixed : p.mixed.StandsFor names TypeName.mixed
  hierarchy : p.hierarchy.StandsFor names p'.hierarchy
  callables : Table.Related (CallableId.StandsFor names) (CallableInfo.StandsFor names)
    p.callables p'.callables
  index : Table.Related (· = ·) (CallableId.StandsFor names) p.index p'.index
  methods : Table.Related (MethodKey.StandsFor names) (MethodInfo.StandsFor names)
    p.methods p'.methods
  variableTypes : Table.Related (· = ·) (TypeSet.StandsFor names) p.variableTypes p'.variableTypes
  variableCallables : Table.Related (· = ·) (List.Forall₂ (CallableId.StandsFor names))
    p.variableCallables p'.variableCallables

namespace Program

variable {names later : NameTable} {p : Program} {p' : Uncaught.Program}

namespace StandsFor

theorem mono (hp : p.StandsFor names p') (kept : names.KeptBy later) : p.StandsFor later p' where
  mixed := hp.mixed.mono kept
  hierarchy := hp.hierarchy.mono kept
  callables := hp.callables.imp (fun _ _ h => h.mono kept) fun _ _ h => h.mono kept
  index := hp.index.imp (fun _ _ h => h) fun _ _ h => h.mono kept
  methods := hp.methods.imp (fun _ _ h => h.mono kept) fun _ _ h => h.mono kept
  variableTypes := hp.variableTypes.imp (fun _ _ h => h) fun _ _ h => h.mono kept
  variableCallables := hp.variableCallables.imp (fun _ _ h => h) fun _ _ h =>
    h.imp fun _ _ h => h.mono kept

theorem empty {mixed : TypeId} (hm : mixed.StandsFor names TypeName.mixed) :
    (Program.empty mixed).StandsFor names .empty :=
  ⟨hm, .empty names, .empty, .empty, .empty, .empty, .empty⟩

/-! ### Look-ups -/

theorem castable_eq (hp : p.StandsFor names p') {source target : TypeSet}
    {source' target' : Uncaught.TypeSet} (hs : source.StandsFor names source')
    (ht : target.StandsFor names target') :
    p.castable source target = source'.castable target' := hs.castable_eq hp.mixed ht

theorem covers_eq (hp : p.StandsFor names p') {target : TypeSet} {target' : Uncaught.TypeSet}
    {t : TypeRef} {t' : NamedType} (hs : target.StandsFor names target')
    (ht : t.StandsFor names t') : p.covers target t = p'.hierarchy.covers target' t' :=
  hp.castable_eq (hp.hierarchy.withAncestors ht) hs

theorem callable? (hp : p.StandsFor names p') {id : CallableId} {id' : CallableName}
    (h : id.StandsFor names id') :
    Option.Rel (Callable.StandsFor names) (p.callable? id) (p'.callable? id') :=
  (hp.callables.get? (CallableId.biUnique names) h).map fun _ _ info => ⟨h, info.name⟩

theorem callableNamed? (hp : p.StandsFor names p') (name : String) :
    Option.Rel (Callable.StandsFor names) (p.callableNamed? name) (p'.callableNamed? name) :=
  (hp.index.get? biUnique_eq rfl).bind fun _ _ h => hp.callable? h

theorem contract (hp : p.StandsFor names p') {c : Callable} {c' : Uncaught.Callable}
    (h : c.StandsFor names c') : (p.contract c).StandsFor names (p'.contract c') :=
  ((hp.callables.get? (CallableId.biUnique names) h.id).map fun _ _ info => info.contract).getD
    .undeclared

theorem contractNamed? (hp : p.StandsFor names p') (name : String) :
    Option.Rel (Contract.StandsFor names) (p.contractNamed? name) (p'.contractNamed? name) :=
  (hp.callableNamed? name).map fun _ _ h => hp.contract h

theorem typesDeclaredBy (hp : p.StandsFor names p') (name : String) :
    (p.typesDeclaredBy name).StandsFor names (p'.typesDeclaredBy name) :=
  ((hp.contractNamed? name).map fun _ _ h => h.candidates).getD TypeSet.standsFor_empty

theorem inheritedMethod? (hp : p.StandsFor names p') {owner : TypeId} {owner' : TypeName}
    (h : owner.StandsFor names owner') (method : String) :
    Option.Rel (MethodInfo.StandsFor names) (p.inheritedMethod? owner method)
      (p'.inheritedMethod? owner' method) :=
  (hp.hierarchy.ancestors h).findSome? fun _ _ ha =>
    hp.methods.get? (MethodKey.biUnique names) (MethodKey.standsFor_ofName ha method)

theorem variableTypes? (hp : p.StandsFor names p') (function name : String) :
    Option.Rel (TypeSet.StandsFor names) (p.variableTypes? function name)
      (p'.variableTypes? function name) := hp.variableTypes.get? biUnique_eq rfl

theorem variableCallables? (hp : p.StandsFor names p') (function name : String) :
    Option.Rel (List.Forall₂ (CallableId.StandsFor names)) (p.variableCallables? function name)
      (p'.variableCallables? function name) := hp.variableCallables.get? biUnique_eq rfl

/-! ### Declarations -/

theorem boundCallables (hp : p.StandsFor names p') (callees : List String) :
    List.Forall₂ (CallableId.StandsFor names) (p.boundCallables callees)
      (p'.boundCallables callees) := by
  refine List.rel_filterMap (R := (· = ·)) (fun name name' same => ?_) (List.forall₂_refl callees)
  subst same
  exact hp.index.get? biUnique_eq rfl

theorem follows_parseContract (names : NameTable) (throws : Option String) :
    Follows names Contract.StandsFor (parseContract throws)
      (Uncaught.Program.parseContract throws) := by
  cases throws with
  | none => exact Follows.pure .undeclared
  | some source => exact (TypeSet.follows_parse names source).map fun _ _ _ h => .declared h

theorem follows_register (hp : p.StandsFor names p') {c : Callable} {c' : Uncaught.Callable}
    (hc : c.StandsFor names c') (throws : Option String) :
    Follows names StandsFor (p.register c throws) (p'.register c' throws) := by
  refine (follows_parseContract names throws).bind fun later contract contract' kept ht => ?_
  have hp := hp.mono kept
  have hc := hc.mono kept
  have key : lookupKey c.name = lookupKey c'.name := congrArg lookupKey hc.name
  exact Follows.pure { hp with
    callables := hp.callables.insert (CallableId.biUnique later) hc.id ⟨hc.name, ht⟩
    index := hp.index.insert biUnique_eq key hc.id }

theorem follows_declareFunction (hp : p.StandsFor names p') (name : String)
    (throws : Option String) :
    Follows names StandsFor (p.declareFunction name throws) (p'.declareFunction name throws) := by
  refine (Follows.internCallable names (CallableName.ofText name)).bind
    fun later id _ kept hid => ?_
  have hc : Callable.StandsFor later ⟨id, name⟩ ⟨CallableName.ofText name, name⟩ := ⟨hid, rfl⟩
  exact (hp.mono kept).follows_register hc throws

theorem follows_declareMethod (hp : p.StandsFor names p') (className name : String)
    (isStatic : Bool) (throws : Option String) :
    Follows names StandsFor (p.declareMethod className name isStatic throws)
      (p'.declareMethod className name isStatic throws) := by
  refine (Follows.internType names (TypeName.ofText className)).bind
    fun names owner _ kept howner => ?_
  have hp := hp.mono kept
  refine (Follows.internCallable names (CallableName.ofMethod className name)).bind
    fun names id _ kept hid => ?_
  have hp := hp.mono kept
  have howner := howner.mono kept
  -- The method is shown with the name that its number stands for at this moment.
  have hc : Callable.StandsFor names ⟨id, (id.name names).text⟩
      ⟨CallableName.ofMethod className name, (CallableName.ofMethod className name).text⟩ :=
    ⟨hid, congrArg CallableName.text hid.name_eq⟩
  have entered : StandsFor names { p with hierarchy := p.hierarchy.insertType owner }
      { p' with hierarchy := p'.hierarchy.insertType (TypeName.ofText className) } :=
    { hp with hierarchy := hp.hierarchy.insertType howner }
  refine Follows.get ((entered.follows_register hc throws).bind fun later q q' kept hq => ?_)
  exact Follows.pure { hq with
    methods := hq.methods.insert (MethodKey.biUnique later)
      (MethodKey.standsFor_ofName (howner.mono kept) name) ⟨hid.mono kept, rfl⟩ }

theorem follows_declareParents {h : Hierarchy} {h' : Uncaught.Hierarchy}
    (hh : h.StandsFor names h') {child : TypeId} {child' : TypeName}
    (hc : child.StandsFor names child') (parents : List String) :
    Follows names Hierarchy.StandsFor (declareParents h child parents)
      (Uncaught.Program.declareParents h' child' parents) := by
  induction parents generalizing names h h' with
  | nil => exact Follows.pure hh
  | cons parent rest ih =>
    refine (Follows.internType names _).bind fun later id _ kept hid => ?_
    exact ih ((hh.mono kept).insertParent (hc.mono kept) hid) (hc.mono kept)

theorem follows_declareClass (hp : p.StandsFor names p') (name : String) (parents : List String) :
    Follows names StandsFor (p.declareClass name parents) (p'.declareClass name parents) := by
  refine (Follows.internType names _).bind fun names child _ kept hc => ?_
  have hp := hp.mono kept
  refine (follows_declareParents (hp.hierarchy.insertType hc) hc parents).bind
    fun later h h' kept hh => ?_
  exact Follows.pure { hp.mono kept with hierarchy := hh }

/-- A declaration writes to both programs alike and enters the names that it spells out. -/
theorem follows_declare (hp : p.StandsFor names p') (d : Declaration) :
    Follows names StandsFor (p.declare d) (p'.declare d) := by
  cases d with
  | classLike name parents => exact hp.follows_declareClass name parents
  | function name throws => exact hp.follows_declareFunction name throws
  | closure name throws => exact hp.follows_declareFunction name throws
  | method className name throws => exact hp.follows_declareMethod className name false throws
  | staticMethod className name throws => exact hp.follows_declareMethod className name true throws
  | variableTypes function name types =>
    refine (TypeSet.follows_parse names types).bind fun later s s' kept hs => ?_
    have hp := hp.mono kept
    exact Follows.pure { hp with variableTypes := hp.variableTypes.insert biUnique_eq rfl hs }
  | variableCallables function name callees =>
    exact Follows.pure { hp with
      variableCallables :=
        hp.variableCallables.insert biUnique_eq rfl (hp.boundCallables callees) }

end StandsFor

end Program

/-! ## Code bases -/

/-- A code base stands for the one by name: they have met the same names in the same order. -/
structure Codebase.StandsFor (c : Codebase) (c' : Uncaught.Codebase) : Prop where
  names : c.names = c'.names
  program : c.program.StandsFor c'.names c'.program

namespace Codebase.StandsFor

variable {c : Codebase} {c' : Uncaught.Codebase}

theorem empty : Codebase.empty.StandsFor .empty :=
  ⟨rfl, .empty (Follows.internType NameTable.empty TypeName.mixed).value⟩

/-- A question is answered alike, and enters the names that its answer spells out. -/
theorem ask (hc : c.StandsFor c') {α β : Type} {related : NameTable → α → β → Prop}
    {answer : Interning α} {answer' : Noted β} (follows : Follows c.names related answer answer') :
    related (c'.ask answer').2.names (c.ask answer).1 (c'.ask answer').1 ∧
      (c.ask answer).2.StandsFor (c'.ask answer').2 := by
  obtain ⟨program, names⟩ := c
  obtain ⟨program', names'⟩ := c'
  obtain ⟨rfl, hp⟩ := hc
  have entered : (answer.run names).2 = names.noteAll answer'.log := follows.names_eq
  refine ⟨?_, entered, hp.mono (names.keptBy_noteAll _)⟩
  show related (names.noteAll answer'.log) _ _
  rw [← entered]
  exact follows.value

theorem declare (hc : c.StandsFor c') (d : Declaration) :
    (c.declare d).StandsFor (c'.declare d) := by
  have hp : c.program.StandsFor c.names c'.program := hc.names ▸ hc.program
  obtain ⟨declared, asked⟩ := hc.ask (hp.follows_declare d)
  exact ⟨asked.names, declared⟩

end Codebase.StandsFor

end Uncaught.Interned
