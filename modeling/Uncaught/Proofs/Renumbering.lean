import Uncaught.Proofs.InternedHosts

/-!
Questions change no answer.

A question enters names, so names that are entered later get other numbers than they would without
it, and these stand in every table. One and the same host by name tells what both runs come to: the
run that asks more and the one that does not stand for hosts with equal programs and equal answers
(`Host.Within.run`, `Interned.Host.StandsFor.run`). What two runs have for one name are therefore
two numbers of one name, each in its own table of names, and one renumbering leads from the ones to
the others, through the hierarchy, the callables and their contracts, the methods, the variables and
the parsed lists of the sessions (`Program.StandsFor.eq_renumber`). What is read off numbers, by the
names they stand for, is the same.
-/
namespace Uncaught

namespace NameTable.Renumbering

variable {t t' : NameTable}

/-- The number of every name becomes the number that it has in the other table. -/
def KeepsNames (renumbering : Renumbering t t') : Prop :=
  ∀ name n, t.number? name = some n → t'.number? name = some (renumbering.apply name n)

end NameTable.Renumbering

namespace Interned

/-! ## Answers by name -/

def SessionAnswer.named (names : NameTable) : SessionAnswer → Uncaught.SessionAnswer
  | .file result => .file result
  | .batch result => .batch result
  | .types s => .types (s.named names)
  | .done => .done

/-- An answer as it can be read: with the names that its numbers stand for. -/
def Answer.named (names : NameTable) : Answer → Uncaught.Answer
  | .done => .done
  | .missing => .missing
  | .type t => .type (t.named names)
  | .types s => .types (s.named names)
  | .ancestors ids => .ancestors (ids.map (TypeId.name names))
  | .truth value => .truth value
  | .callable c => .callable (c.named names)
  | .callTargets found => .callTargets (found.map (List.map (Callable.named names)))
  | .methodTarget found => .methodTarget (found.map (Callable.named names))
  | .contract c => .contract (c.map (Contract.named names))
  | .session answers => .session (answers.map (SessionAnswer.named names))
  | .count n => .count n
  | .typeCount n => .typeCount n
  | .typeNamed found => .typeNamed (found.map (TypeId.name names))
  | .callableNamed found => .callableNamed (found.map (CallableId.name names))

section

variable {names : NameTable}

theorem SessionAnswer.StandsFor.named_eq {answer : SessionAnswer}
    {answer' : Uncaught.SessionAnswer} (h : answer.StandsFor names answer') :
    answer.named names = answer' := by
  cases h with
  | types h => exact congrArg Uncaught.SessionAnswer.types h.named_eq
  | _ => rfl

theorem Answer.StandsFor.named_eq {answer : Answer} {answer' : Uncaught.Answer}
    (h : answer.StandsFor names answer') : answer.named names = answer' := by
  cases h with
  | type h => exact congrArg _ h.named_eq
  | types h => exact congrArg _ h.named_eq
  | ancestors h => exact congrArg _ (h.map_eq fun _ _ h => h.name_eq)
  | callable h => exact congrArg _ h.named_eq
  | callTargets h =>
    exact congrArg _ (h.map_eq fun _ _ h => h.map_eq fun _ _ h => h.named_eq)
  | methodTarget h => exact congrArg _ (h.map_eq fun _ _ h => h.named_eq)
  | contract h => exact congrArg _ (h.map_eq fun _ _ h => h.named_eq)
  | session h => exact congrArg _ (h.map_eq fun _ _ h => h.named_eq)
  | typeNamed h => exact congrArg _ (h.map_eq fun _ _ h => h.name_eq)
  | callableNamed h => exact congrArg _ (h.map_eq fun _ _ h => h.name_eq)
  | _ => rfl

end

/-- The answers to the steps of a host as they can be read in the end. -/
def Host.answersRead (host : Host) : List Uncaught.Answer :=
  host.answers.map (Answer.named host.code.names)

theorem Host.StandsFor.answersRead_eq {host : Host} {host' : Uncaught.Host}
    (hh : host.StandsFor host') : host.answersRead = host'.answers := by
  rw [answersRead, hh.code.names]
  exact hh.answers.map_eq fun _ _ h => h.named_eq

/-! ## Other numbers -/

section

variable {t t' : NameTable} (renumbering : NameTable.Renumbering t t')

def TypeId.renumber (id : TypeId) : TypeId := ⟨renumbering.ofType id.number⟩

def CallableId.renumber (id : CallableId) : CallableId := ⟨renumbering.ofCallable id.number⟩

def TypeRef.renumber (u : TypeRef) : TypeRef := ⟨u.id.renumber renumbering, u.nullable⟩

def TypeSet.renumber (s : TypeSet) : TypeSet := ⟨s.members.map (TypeRef.renumber renumbering)⟩

def Contract.renumber : Contract → Contract
  | .undeclared => .undeclared
  | .declared types => .declared (types.renumber renumbering)

def CallableInfo.renumber (info : CallableInfo) : CallableInfo :=
  ⟨info.name, info.contract.renumber renumbering⟩

def MethodInfo.renumber (m : MethodInfo) : MethodInfo := ⟨m.id.renumber renumbering, m.isStatic⟩

def MethodKey.renumber (k : MethodKey) : MethodKey := ⟨k.owner.renumber renumbering, k.method⟩

def Hierarchy.renumber (h : Hierarchy) : Hierarchy where
  types := h.types.map (TypeId.renumber renumbering)
  edges := h.edges.map (Prod.map (TypeId.renumber renumbering) (TypeId.renumber renumbering))

/-- The program with other numbers in all of its tables. -/
def Program.renumber (p : Program) : Program where
  mixed := p.mixed.renumber renumbering
  hierarchy := p.hierarchy.renumber renumbering
  callables := p.callables.mapEntries (CallableId.renumber renumbering)
    (CallableInfo.renumber renumbering)
  index := p.index.mapEntries id (CallableId.renumber renumbering)
  methods := p.methods.mapEntries (MethodKey.renumber renumbering) (MethodInfo.renumber renumbering)
  variableTypes := p.variableTypes.mapEntries id (TypeSet.renumber renumbering)
  variableCallables :=
    p.variableCallables.mapEntries id (List.map (CallableId.renumber renumbering))

end

section

variable {t t' : NameTable} {renumbering : NameTable.Renumbering t t'}

theorem TypeId.StandsFor.eq_renumber (keeps : renumbering.KeepsNames) {id id' : TypeId}
    {name : TypeName} (h : id.StandsFor t name) (h' : id'.StandsFor t' name) :
    id' = id.renumber renumbering := by
  have number := Option.some.inj (h'.symm.trans (keeps _ _ h))
  cases id'
  exact congrArg TypeId.mk number

theorem CallableId.StandsFor.eq_renumber (keeps : renumbering.KeepsNames) {id id' : CallableId}
    {name : CallableName} (h : id.StandsFor t name) (h' : id'.StandsFor t' name) :
    id' = id.renumber renumbering := by
  have number := Option.some.inj (h'.symm.trans (keeps _ _ h))
  cases id'
  exact congrArg CallableId.mk number

theorem TypeRef.StandsFor.eq_renumber (keeps : renumbering.KeepsNames) {u u' : TypeRef}
    {v : NamedType} (h : u.StandsFor t v) (h' : u'.StandsFor t' v) :
    u' = u.renumber renumbering := by
  cases u'
  exact congr (congrArg TypeRef.mk (h.id.eq_renumber keeps h'.id))
    (h'.nullable.trans h.nullable.symm)

theorem TypeSet.StandsFor.eq_renumber (keeps : renumbering.KeepsNames) {s s' : TypeSet}
    {u : Uncaught.TypeSet} (h : s.StandsFor t u) (h' : s'.StandsFor t' u) :
    s' = s.renumber renumbering :=
  congrArg TypeSet.mk (List.Forall₂.eq_map h h' fun _ _ _ h h' => h.eq_renumber keeps h')

theorem Contract.StandsFor.eq_renumber (keeps : renumbering.KeepsNames) {c c' : Contract}
    {d : Uncaught.Contract} (h : c.StandsFor t d) (h' : c'.StandsFor t' d) :
    c' = c.renumber renumbering := by
  cases h with
  | undeclared =>
    cases h'
    rfl
  | declared h =>
    cases h' with
    | declared h' => exact congrArg Contract.declared (h.eq_renumber keeps h')

theorem CallableInfo.StandsFor.eq_renumber (keeps : renumbering.KeepsNames) {c c' : CallableInfo}
    {d : Uncaught.CallableInfo} (h : c.StandsFor t d) (h' : c'.StandsFor t' d) :
    c' = c.renumber renumbering := by
  cases c'
  exact congr (congrArg CallableInfo.mk (h'.name.trans h.name.symm))
    (h.contract.eq_renumber keeps h'.contract)

theorem MethodInfo.StandsFor.eq_renumber (keeps : renumbering.KeepsNames) {m m' : MethodInfo}
    {n : Uncaught.MethodInfo} (h : m.StandsFor t n) (h' : m'.StandsFor t' n) :
    m' = m.renumber renumbering := by
  cases m'
  exact congr (congrArg MethodInfo.mk (h.id.eq_renumber keeps h'.id))
    (h'.isStatic.trans h.isStatic.symm)

theorem MethodKey.StandsFor.eq_renumber (keeps : renumbering.KeepsNames) {k k' : MethodKey}
    {l : Uncaught.MethodKey} (h : k.StandsFor t l) (h' : k'.StandsFor t' l) :
    k' = k.renumber renumbering := by
  cases k'
  exact congr (congrArg MethodKey.mk (h.owner.eq_renumber keeps h'.owner))
    (h'.method.trans h.method.symm)

theorem Hierarchy.StandsFor.eq_renumber (keeps : renumbering.KeepsNames) {h h' : Hierarchy}
    {g : Uncaught.Hierarchy} (hh : h.StandsFor t g) (hh' : h'.StandsFor t' g) :
    h' = h.renumber renumbering := by
  cases h'
  refine congr (congrArg Hierarchy.mk ?_) ?_
  · exact hh.types.eq_map hh'.types fun _ _ _ e e' => e.eq_renumber keeps e'
  · refine hh.edges.eq_map hh'.edges fun _ _ _ e e' => ?_
    exact Prod.ext (e.child.eq_renumber keeps e'.child) (e.parent.eq_renumber keeps e'.parent)

/-- Two programs that stand for one are each other's, with other numbers. -/
theorem Program.StandsFor.eq_renumber (keeps : renumbering.KeepsNames) {p p' : Program}
    {q : Uncaught.Program} (h : p.StandsFor t q) (h' : p'.StandsFor t' q) :
    p' = p.renumber renumbering := by
  have ids (a b : CallableId) (c : CallableName) (ha : a.StandsFor t c) (hb : b.StandsFor t' c) :
      b = a.renumber renumbering := ha.eq_renumber keeps hb
  have lists (a b : List CallableId) (c : List CallableName)
      (ha : List.Forall₂ (CallableId.StandsFor t) a c)
      (hb : List.Forall₂ (CallableId.StandsFor t') b c) :
      b = a.map (CallableId.renumber renumbering) := ha.eq_map hb ids
  have texts {α : Type} (a b c : α) (ha : a = c) (hb : b = c) : b = id a := hb.trans ha.symm
  cases p'
  rw [renumber, mk.injEq]
  refine ⟨h.mixed.eq_renumber keeps h'.mixed, h.hierarchy.eq_renumber keeps h'.hierarchy,
    h.callables.eq_mapEntries h'.callables ids fun _ _ _ a b => a.eq_renumber keeps b,
    h.index.eq_mapEntries h'.index texts ids,
    h.methods.eq_mapEntries h'.methods (fun _ _ _ a b => a.eq_renumber keeps b)
      fun _ _ _ a b => a.eq_renumber keeps b,
    h.variableTypes.eq_mapEntries h'.variableTypes texts fun _ _ _ a b => a.eq_renumber keeps b,
    h.variableCallables.eq_mapEntries h'.variableCallables texts lists⟩

/-- A session has the texts of another one, and its parsed types, with other numbers. It may have
parsed them sooner. -/
structure Session.Caches (renumbering : NameTable.Renumbering t t') (session asked : Session) :
    Prop where
  configured : asked.ignored.configured = session.ignored.configured
  parsed : ∀ types ∈ session.ignored.parsed, types.renumber renumbering ∈ asked.ignored.parsed

theorem Session.StandsFor.caches (keeps : renumbering.KeepsNames) {names : NameTable}
    {session asked : Session} {session' asked' : Uncaught.Session}
    (h : session.StandsFor t session') (ahead : Uncaught.Session.Ahead names session' asked')
    (h' : asked.StandsFor t' asked') : session.Caches renumbering asked where
  configured :=
    (h'.ignored.configured.trans ahead.configured).trans h.ignored.configured.symm
  parsed := by
    intro types known
    have parsed := h.ignored.parsed
    have parsed' := h'.ignored.parsed
    rw [Option.mem_def.1 known] at parsed
    generalize there : session'.ignored.parsed = o at parsed
    -- Only a list that is parsed in the first session is looked for in the other one, which may
    -- have parsed its list when the first one has not.
    cases parsed with
    | some ht =>
      rw [ahead.parsed there] at parsed'
      generalize here : asked.ignored.parsed = o at parsed' ⊢
      cases parsed' with
      | some ht' => exact congrArg some (ht.eq_renumber keeps ht')

end

end Interned

/-! ## Two runs -/

/-- The numbers in the one host become those in the other one. -/
theorem NameTable.Renumbering.keepsNames_ofWithin {t t' : NameTable} (within : t.Within t') :
    (Renumbering.ofWithin within).KeepsNames :=
  fun _ _ number => Renumbering.number?_ofWithin within number

/-- **Questions change no answer.** Let a new host go through some steps, that is declarations,
questions, look-ups of names and sessions, and let anything be asked besides, of the code base and
of the sessions, anywhere in between. As it can be read, every answer to a step is what it is
without that, the number of names and the look-ups apart, which can only find more. The numbers are
others, and so are the tables; but one renumbering, which gives every name the number that it has in
the other run, leads from the tables of the one program to those of the other one, and from the
parsed lists of the sessions to theirs. -/
theorem questions_change_no_answer (script : List (Step ⊕ Aside)) :
    let plain := Interned.Host.new.run (script.filter Sum.isLeft)
    let asked := Interned.Host.new.run script
    List.Forall₂ Answer.Agrees plain.answersRead asked.answersRead ∧
    ∃ renumbering : NameTable.Renumbering plain.code.names asked.code.names,
      renumbering.KeepsNames ∧
      asked.code.program = plain.code.program.renumber renumbering ∧
      List.Forall₂ (Interned.Session.Caches renumbering) plain.sessions asked.sessions := by
  intro plain asked
  -- The two runs by number never meet: each stands for a run by name, and these are compared.
  have hp : plain.StandsFor (Host.new.run (script.filter Sum.isLeft)) :=
    Interned.Host.StandsFor.new.run _
  have ha : asked.StandsFor (Host.new.run script) := Interned.Host.StandsFor.new.run _
  have within := Host.Within.new.run script
  constructor
  · rw [hp.answersRead_eq, ha.answersRead_eq]
    exact within.answers
  · have names : plain.code.names.Within asked.code.names := by
      rw [hp.code.names, ha.code.names]
      exact within.names
    have keeps := NameTable.Renumbering.keepsNames_ofWithin names
    refine ⟨_, keeps, ?_, ?_⟩
    · have program := ha.program
      rw [within.program] at program
      exact hp.program.eq_renumber keeps program
    · have sessions := hp.sessions
      have sessions' := ha.sessions
      rw [← hp.code.names] at sessions
      rw [← ha.code.names] at sessions'
      exact within.sessions.join sessions sessions' fun _ _ _ _ h ahead h' =>
        h.caches keeps ahead h'

/-- The numbers do differ: here a malformed text spells out a name before a class is declared. -/
example :
    (Interned.Host.new.run [.inl (.declare (.classLike "A" []))]).code.program.hierarchy.types =
      [⟨1⟩] ∧
    (Interned.Host.new.run [.inr (.ask (.parse "B|?")),
      .inl (.declare (.classLike "A" []))]).code.program.hierarchy.types = [⟨2⟩] := by
  decide +kernel

end Uncaught
