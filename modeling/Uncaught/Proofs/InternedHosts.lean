import Uncaught.Proofs.Questions

/-!
Hosts by number.

Here the tables of the code base, the sessions and whatever a host has been answered hold numbers,
as they do in a running program, and a question about something kept is asked with the number that
was given when it was answered. A host by number stands for the host by name that goes through the
same events: both have met the same names in the same order, and every number in the one stands for
the name in the other (`Host.StandsFor.run`). Numbers that were given before stay right when further
names are entered, and this is what makes it so: a number keeps its meaning.
-/
namespace Uncaught.Interned

/-! ## Answers -/

inductive Answer where
  | done
  /-- There is nothing that the question could refer to. -/
  | missing
  | type (t : TypeRef)
  | types (types : TypeSet)
  | ancestors (ids : List TypeId)
  | truth (value : Bool)
  | callable (callable : Callable)
  | callTargets (found : Except Abstention (List Callable))
  | methodTarget (found : Except Abstention Callable)
  | contract (contract : Option Contract)
  | session (answers : List SessionAnswer)
  | count (n : Nat)
  | typeCount (n : Nat)
  | typeNamed (found : Option TypeId)
  | callableNamed (found : Option CallableId)

inductive Answer.StandsFor (names : NameTable) : Answer → Uncaught.Answer → Prop where
  | done : StandsFor names .done .done
  | missing : StandsFor names .missing .missing
  | type {t : TypeRef} {t' : NamedType} (h : t.StandsFor names t') :
    StandsFor names (.type t) (.type t')
  | types {s : TypeSet} {s' : Uncaught.TypeSet} (h : s.StandsFor names s') :
    StandsFor names (.types s) (.types s')
  | ancestors {ids : List TypeId} {ids' : List TypeName}
    (h : List.Forall₂ (TypeId.StandsFor names) ids ids') :
    StandsFor names (.ancestors ids) (.ancestors ids')
  | truth (value : Bool) : StandsFor names (.truth value) (.truth value)
  | callable {c : Callable} {c' : Uncaught.Callable} (h : c.StandsFor names c') :
    StandsFor names (.callable c) (.callable c')
  | callTargets {found : Except Abstention (List Callable)}
    {found' : Except Abstention (List Uncaught.Callable)}
    (h : OutcomeRel (List.Forall₂ (Callable.StandsFor names)) found found') :
    StandsFor names (.callTargets found) (.callTargets found')
  | methodTarget {found : Except Abstention Callable} {found' : Except Abstention Uncaught.Callable}
    (h : OutcomeRel (Callable.StandsFor names) found found') :
    StandsFor names (.methodTarget found) (.methodTarget found')
  | contract {c : Option Contract} {c' : Option Uncaught.Contract}
    (h : Option.Rel (Contract.StandsFor names) c c') : StandsFor names (.contract c) (.contract c')
  | session {answers : List SessionAnswer} {answers' : List Uncaught.SessionAnswer}
    (h : List.Forall₂ (SessionAnswer.StandsFor names) answers answers') :
    StandsFor names (.session answers) (.session answers')
  | count (n : Nat) : StandsFor names (.count n) (.count n)
  | typeCount (n : Nat) : StandsFor names (.typeCount n) (.typeCount n)
  | typeNamed {found : Option TypeId} {found' : Option TypeName}
    (h : Option.Rel (TypeId.StandsFor names) found found') :
    StandsFor names (.typeNamed found) (.typeNamed found')
  | callableNamed {found : Option CallableId} {found' : Option CallableName}
    (h : Option.Rel (CallableId.StandsFor names) found found') :
    StandsFor names (.callableNamed found) (.callableNamed found')

theorem Answer.StandsFor.mono {names later : NameTable} {answer : Answer}
    {answer' : Uncaught.Answer} (h : answer.StandsFor names answer') (kept : names.KeptBy later) :
    answer.StandsFor later answer' := by
  cases h with
  | done => exact .done
  | missing => exact .missing
  | type h => exact .type (h.mono kept)
  | types h => exact .types (h.mono kept)
  | ancestors h => exact .ancestors (h.imp fun _ _ h => h.mono kept)
  | truth value => exact .truth value
  | callable h => exact .callable (h.mono kept)
  | callTargets h => exact .callTargets (h.imp fun _ _ h => h.imp fun _ _ h => h.mono kept)
  | methodTarget h => exact .methodTarget (h.imp fun _ _ h => h.mono kept)
  | contract h => exact .contract (h.imp fun _ _ h => h.mono kept)
  | session h => exact .session (h.imp fun _ _ h => h.mono kept)
  | count n => exact .count n
  | typeCount n => exact .typeCount n
  | typeNamed h => exact .typeNamed (h.imp fun _ _ h => h.mono kept)
  | callableNamed h => exact .callableNamed (h.imp fun _ _ h => h.mono kept)

/-! ## What a host can refer to -/

def SessionAnswer.types? : SessionAnswer → Option TypeSet
  | .types s => some s
  | _ => none

/-- What an answer gives a host to refer to. A look-up of a name gives nothing. -/
structure Kept where
  types : List TypeRef
  sets : List TypeSet
  callables : List Callable

structure Kept.StandsFor (names : NameTable) (kept : Kept) (kept' : Uncaught.Kept) : Prop where
  types : List.Forall₂ (TypeRef.StandsFor names) kept.types kept'.types
  sets : List.Forall₂ (TypeSet.StandsFor names) kept.sets kept'.sets
  callables : List.Forall₂ (Callable.StandsFor names) kept.callables kept'.callables

namespace Kept

def nothing : Kept := ⟨[], [], []⟩

/-- Sets, and the types that are their members. -/
def ofSets (sets : List TypeSet) : Kept := ⟨sets.flatMap (·.members), sets, []⟩

def ofCallables (callables : List Callable) : Kept := ⟨[], [], callables⟩

def type? (kept : List Kept) (ref : Ref) : Option TypeRef :=
  kept[ref.answer]?.bind (·.types[ref.item]?)

def set? (kept : List Kept) (ref : Ref) : Option TypeSet :=
  kept[ref.answer]?.bind (·.sets[ref.item]?)

def callable? (kept : List Kept) (ref : Ref) : Option Callable :=
  kept[ref.answer]?.bind (·.callables[ref.item]?)

/-- The set of the types that are referred to. -/
def collect (kept : List Kept) (types : List (Ref × Bool)) : TypeSet :=
  TypeSet.empty.extend (types.filterMap fun (ref, nullable) =>
    (type? kept ref).map fun t => ⟨t.id, nullable⟩)

variable {names : NameTable}

theorem standsFor_nothing : nothing.StandsFor names .nothing := ⟨.nil, .nil, .nil⟩

theorem standsFor_ofSets {sets : List TypeSet} {sets' : List Uncaught.TypeSet}
    (h : List.Forall₂ (TypeSet.StandsFor names) sets sets') :
    (ofSets sets).StandsFor names (.ofSets sets') :=
  ⟨List.rel_flatMap h fun _ _ hs => hs, h, .nil⟩

theorem standsFor_ofCallables {callables : List Callable} {callables' : List Uncaught.Callable}
    (h : List.Forall₂ (Callable.StandsFor names) callables callables') :
    (ofCallables callables).StandsFor names (.ofCallables callables') := ⟨.nil, .nil, h⟩

variable {kept : List Kept} {kept' : List Uncaught.Kept}

theorem standsFor_type? (h : List.Forall₂ (StandsFor names) kept kept') (ref : Ref) :
    Option.Rel (TypeRef.StandsFor names) (type? kept ref) (Uncaught.Kept.type? kept' ref) :=
  (h.getElem? ref.answer).bind fun _ _ h => h.types.getElem? ref.item

theorem standsFor_set? (h : List.Forall₂ (StandsFor names) kept kept') (ref : Ref) :
    Option.Rel (TypeSet.StandsFor names) (set? kept ref) (Uncaught.Kept.set? kept' ref) :=
  (h.getElem? ref.answer).bind fun _ _ h => h.sets.getElem? ref.item

theorem standsFor_callable? (h : List.Forall₂ (StandsFor names) kept kept') (ref : Ref) :
    Option.Rel (Callable.StandsFor names) (callable? kept ref)
      (Uncaught.Kept.callable? kept' ref) :=
  (h.getElem? ref.answer).bind fun _ _ h => h.callables.getElem? ref.item

theorem standsFor_collect (h : List.Forall₂ (StandsFor names) kept kept')
    (types : List (Ref × Bool)) :
    (collect kept types).StandsFor names (Uncaught.Kept.collect kept' types) := by
  refine TypeSet.standsFor_empty.extend ?_
  refine List.rel_filterMap (R := (· = ·)) (fun x x' same => ?_) (List.forall₂_refl types)
  subst same
  exact (standsFor_type? h x.1).map fun _ _ ht => ⟨ht.id, rfl⟩

end Kept

def Answer.kept : Answer → Kept
  | .type t => ⟨[t], [], []⟩
  | .types s => .ofSets [s]
  | .ancestors ids => ⟨ids.map TypeRef.plain, [], []⟩
  | .callable c => .ofCallables [c]
  | .callTargets (.ok found) => .ofCallables found
  | .methodTarget (.ok found) => .ofCallables [found]
  | .contract (some (.declared s)) => .ofSets [s]
  | .session answers => .ofSets (answers.filterMap SessionAnswer.types?)
  | _ => .nothing

theorem Answer.StandsFor.kept {names : NameTable} {answer : Answer} {answer' : Uncaught.Answer}
    (h : answer.StandsFor names answer') : answer.kept.StandsFor names answer'.kept := by
  cases h with
  | type h => exact ⟨.cons h .nil, .nil, .nil⟩
  | types h => exact Kept.standsFor_ofSets (.cons h .nil)
  | ancestors h => exact ⟨List.rel_map (fun _ _ h => TypeRef.standsFor_plain h) h, .nil, .nil⟩
  | callable h => exact Kept.standsFor_ofCallables (.cons h .nil)
  | callTargets h =>
    cases h with
    | ok h => exact Kept.standsFor_ofCallables h
    | error e => exact Kept.standsFor_nothing
  | methodTarget h =>
    cases h with
    | ok h => exact Kept.standsFor_ofCallables (.cons h .nil)
    | error e => exact Kept.standsFor_nothing
  | contract h =>
    cases h with
    | none => exact Kept.standsFor_nothing
    | some h =>
      cases h with
      | undeclared => exact Kept.standsFor_nothing
      | declared h => exact Kept.standsFor_ofSets (.cons h .nil)
  | session h =>
    refine Kept.standsFor_ofSets (List.rel_filterMap (fun _ _ h => ?_) h)
    cases h with
    | types h => exact .some h
    | _ => exact .none
  | _ => exact Kept.standsFor_nothing

/-! ## Questions -/

/-- The answer to a question, found by number. -/
def Program.find (p : Program) (kept : List Kept) : Question → Interning Answer
  | .type spelling => do
    let id ← internType (TypeName.ofText spelling)
    return .type (.plain id)
  | .callable spelling => do
    let id ← internCallable (CallableName.ofText spelling)
    return .callable ⟨id, spelling⟩
  | .method className name => do
    let id ← internCallable (CallableName.ofMethod className name)
    return .callable ⟨id, name⟩
  | .parse source => Answer.types <$> TypeSet.parse source
  | .collect types => pure (.types (Kept.collect kept types))
  | .withAncestors t =>
    pure (((Kept.type? kept t).map fun t => .types (p.hierarchy.withAncestors t)).getD .missing)
  | .expanded spelling => do
    let id ← internType (TypeName.ofText spelling)
    return .types (p.hierarchy.withAncestors (.plain id))
  | .ancestors t =>
    pure (((Kept.type? kept t).map fun t => .ancestors (p.hierarchy.ancestors t.id)).getD .missing)
  | .isKnown t =>
    pure (((Kept.type? kept t).map fun t => .truth (p.hierarchy.contains t.id)).getD .missing)
  | .isSubtype child ancestor =>
    pure (((Kept.type? kept child).bind fun child => (Kept.type? kept ancestor).map fun ancestor =>
      .truth (p.hierarchy.isSubtype child.id ancestor.id)).getD .missing)
  | .castable source target =>
    pure (((Kept.set? kept source).bind fun source => (Kept.set? kept target).map fun target =>
      .truth (p.castable source target)).getD .missing)
  | .typesOf scope e => Answer.types <$> p.typesOf scope e
  | .caughtBy clause => Answer.types <$> TypeSet.parseAll TypeSet.empty clause
  | .callableOf scope => Answer.callable <$> p.callableOf scope
  | .callTargets scope callee => pure (.callTargets (p.callTargets scope callee))
  | .methodTarget scope receiver name lookup =>
    Answer.methodTarget <$> p.methodTarget scope receiver name lookup
  | .contract target =>
    pure (((Kept.callable? kept target).map fun c => .contract (some (p.contract c))).getD .missing)
  | .contractNamed name => pure (.contract (p.contractNamed? name))
  | .typesDeclaredBy name => pure (.types (p.typesDeclaredBy name))
  | .session origin steps =>
    (fun run => Answer.session run.1) <$> origin.numbered.run p steps
  | .typesKnown => pure (.count p.hierarchy.size)
  | .callablesDeclared => pure (.count p.callables.size)

/-- The answer to a question about names, by number. -/
def lookUp (names : NameTable) : NameQuestion → Answer
  | .typeCount => .typeCount names.typeCount
  | .type spelling => .typeNamed ((names.type? spelling).map TypeId.mk)
  | .callable spelling => .callableNamed ((names.callable? spelling).map CallableId.mk)

/-- A question is answered with what it is answered with by name. -/
theorem Program.StandsFor.follows_find {names : NameTable} {p : Program} {p' : Uncaught.Program}
    (hp : p.StandsFor names p') {kept : List Kept} {kept' : List Uncaught.Kept}
    (hk : List.Forall₂ (Kept.StandsFor names) kept kept') (q : Question) :
    Follows names Answer.StandsFor (p.find kept q) (q.find p' kept') := by
  cases q with
  | type spelling =>
    exact (Follows.internType names _).bind fun _ _ _ _ hid =>
      Follows.pure (.type (TypeRef.standsFor_plain hid))
  | callable spelling =>
    refine (Follows.internCallable names _).bind fun later id _ _ hid => ?_
    have hc : Callable.StandsFor later ⟨id, spelling⟩ ⟨CallableName.ofText spelling, spelling⟩ :=
      ⟨hid, rfl⟩
    exact Follows.pure (.callable hc)
  | method className name =>
    refine (Follows.internCallable names _).bind fun later id _ _ hid => ?_
    have hc : Callable.StandsFor later ⟨id, name⟩ ⟨CallableName.ofMethod className name, name⟩ :=
      ⟨hid, rfl⟩
    exact Follows.pure (.callable hc)
  | parse source => exact (TypeSet.follows_parse names source).map fun _ _ _ h => .types h
  | collect types => exact Follows.pure (.types (Kept.standsFor_collect hk types))
  | withAncestors t =>
    have found := (Kept.standsFor_type? hk t).map fun _ _ ht =>
      Answer.StandsFor.types (hp.hierarchy.withAncestors ht)
    exact Follows.pure (found.getD .missing)
  | expanded spelling =>
    exact (Follows.internType names _).bind fun _ _ _ kept hid => Follows.pure
      (.types ((hp.mono kept).hierarchy.withAncestors (TypeRef.standsFor_plain hid)))
  | ancestors t =>
    have found := (Kept.standsFor_type? hk t).map fun _ _ ht =>
      Answer.StandsFor.ancestors (hp.hierarchy.ancestors ht.id)
    exact Follows.pure (found.getD .missing)
  | isKnown t =>
    refine Follows.pure (((Kept.standsFor_type? hk t).map fun _ _ ht => ?_).getD .missing)
    rw [hp.hierarchy.contains_eq ht.id]
    exact .truth _
  | isSubtype child ancestor =>
    refine Follows.pure (((Kept.standsFor_type? hk child).bind fun _ _ hc =>
      (Kept.standsFor_type? hk ancestor).map fun _ _ ha => ?_).getD .missing)
    rw [hp.hierarchy.isSubtype_eq hc.id ha.id]
    exact .truth _
  | castable source target =>
    refine Follows.pure (((Kept.standsFor_set? hk source).bind fun _ _ hs =>
      (Kept.standsFor_set? hk target).map fun _ _ ht => ?_).getD .missing)
    rw [hp.castable_eq hs ht]
    exact .truth _
  | typesOf scope e => exact (hp.follows_typesOf scope e).map fun _ _ _ h => .types h
  | caughtBy clause =>
    exact (TypeSet.follows_parseAll TypeSet.standsFor_empty clause).map fun _ _ _ h => .types h
  | callableOf scope => exact (hp.follows_callableOf scope).map fun _ _ _ h => .callable h
  | callTargets scope callee => exact Follows.pure (.callTargets (hp.callTargets scope callee))
  | methodTarget scope receiver name lookup =>
    exact (hp.follows_methodTarget scope receiver name lookup).map fun _ _ _ h => .methodTarget h
  | contract target =>
    have found := (Kept.standsFor_callable? hk target).map fun _ _ hc =>
      Answer.StandsFor.contract (.some (hp.contract hc))
    exact Follows.pure (found.getD .missing)
  | contractNamed name => exact Follows.pure (.contract (hp.contractNamed? name))
  | typesDeclaredBy name => exact Follows.pure (.types (hp.typesDeclaredBy name))
  | session origin steps =>
    exact ((origin.standsFor_numbered names).follows_run hp steps).map fun _ _ _ h => .session h.1
  | typesKnown =>
    rw [Program.find, Question.find, hp.hierarchy.size_eq]
    exact Follows.pure (.count _)
  | callablesDeclared =>
    rw [Program.find, Question.find, hp.callables.size_eq]
    exact Follows.pure (.count _)

theorem standsFor_lookUp (names : NameTable) (q : NameQuestion) :
    (lookUp names q).StandsFor names (q.find names) := by
  cases q with
  | typeCount => exact .typeCount _
  | type spelling =>
    refine .typeNamed ?_
    cases number : names.type? spelling with
    | none => exact .none
    | some n =>
      have name : names.typeName? n = some (TypeName.ofText spelling) :=
        Roster.find?_eq_some_iff.1 number
      rw [Option.bind_some, name]
      exact .some number
  | callable spelling =>
    refine .callableNamed ?_
    cases number : names.callable? spelling with
    | none => exact .none
    | some n =>
      have name : names.callableName? n = some (CallableName.ofText spelling) :=
        Roster.find?_eq_some_iff.1 number
      rw [Option.bind_some, name]
      exact .some number

/-! ## Hosts -/

/-- A code base and the sessions that use it, in the order of their start, and what the host has
been answered, by its steps and besides. -/
structure Host where
  code : Codebase
  sessions : List Session
  answers : List Answer
  asides : List Answer

namespace Host

def new : Host := ⟨Codebase.empty, [], [], []⟩

/-- A step of the session with some number, if there is one. -/
def proceed (host : Host) (number : Nat) (step : SessionStep) : Answer × Host :=
  match host.sessions[number]? with
  | none => (.missing, host)
  | some session =>
    let ((answer, session), code) := host.code.ask (session.perform host.code.program step)
    (.session [answer], { host with code, sessions := host.sessions.set number session })

/-- The answer to a step and the host after it. -/
def perform (host : Host) : Step → Answer × Host
  | .declare d => (.done, { host with code := host.code.declare d })
  | .ask q =>
    let (answer, code) := host.code.ask (host.code.program.find (host.answers.map Answer.kept) q)
    (answer, { host with code })
  | .lookUp q => (Interned.lookUp host.code.names q, host)
  | .start origin => (.done, { host with sessions := host.sessions ++ [origin.numbered] })
  | .proceed number step => host.proceed number step

/-- The answer to what is asked besides. It may refer to the answers to the steps and, behind them,
to those given besides. -/
def performAside (host : Host) : Aside → Answer × Host
  | .ask q =>
    let (answer, code) := host.code.ask
      (host.code.program.find ((host.answers ++ host.asides).map Answer.kept) q)
    (answer, { host with code })
  | .proceed number q => host.proceed number q.step

/-- The host after one more event, with the answer to it. -/
def after (host : Host) : Step ⊕ Aside → Host
  | .inl step =>
    let (answer, host) := host.perform step
    { host with answers := host.answers ++ [answer] }
  | .inr q =>
    let (answer, host) := host.performAside q
    { host with asides := host.asides ++ [answer] }

def run (host : Host) (script : List (Step ⊕ Aside)) : Host := script.foldl after host

theorem proceed_of_none {host : Host} {number : Nat} (none : host.sessions[number]? = none)
    (step : SessionStep) : host.proceed number step = (.missing, host) := by
  rw [proceed, none]

theorem proceed_of_some {host : Host} {number : Nat} {session : Session}
    (found : host.sessions[number]? = some session) (step : SessionStep) :
    host.proceed number step =
      let answer := host.code.ask (session.perform host.code.program step)
      (.session [answer.1.1], { host with
        code := answer.2
        sessions := host.sessions.set number answer.1.2 }) := by
  rw [proceed, found]

end Host

/-- A host stands for the one by name: whatever it holds does, by the names that both have met. -/
structure Host.StandsFor (host : Host) (host' : Uncaught.Host) : Prop where
  code : host.code.StandsFor host'.code
  sessions : List.Forall₂ (Session.StandsFor host'.code.names) host.sessions host'.sessions
  answers : List.Forall₂ (Answer.StandsFor host'.code.names) host.answers host'.answers
  asides : List.Forall₂ (Answer.StandsFor host'.code.names) host.asides host'.asides

/-- An answer and a host, each standing for the other one. -/
def Host.Answers (x : Answer × Host) (y : Uncaught.Answer × Uncaught.Host) : Prop :=
  x.1.StandsFor y.2.code.names y.1 ∧ x.2.StandsFor y.2

namespace Host.StandsFor

variable {host : Host} {host' : Uncaught.Host}

theorem new : Host.new.StandsFor .new := ⟨.empty, .nil, .nil, .nil⟩

theorem program (hh : host.StandsFor host') :
    host.code.program.StandsFor host.code.names host'.code.program :=
  hh.code.names ▸ hh.code.program

/-- The host goes on with a code base that has met more names. -/
theorem withCode (hh : host.StandsFor host') {code : Codebase} {code' : Uncaught.Codebase}
    (hc : code.StandsFor code') (kept : host'.code.names.KeptBy code'.names) :
    StandsFor { host with code } { host' with code := code' } where
  code := hc
  sessions := hh.sessions.imp fun _ _ h => h.mono kept
  answers := hh.answers.imp fun _ _ h => h.mono kept
  asides := hh.asides.imp fun _ _ h => h.mono kept

theorem ask (hh : host.StandsFor host') {kept : List Kept} {kept' : List Uncaught.Kept}
    (hk : List.Forall₂ (Kept.StandsFor host'.code.names) kept kept') (q : Question) :
    let found := host.code.ask (host.code.program.find kept q)
    let found' := host'.code.ask (q.find host'.code.program kept')
    Host.Answers (found.1, { host with code := found.2 })
      (found'.1, { host' with code := found'.2 }) := by
  intro found found'
  rw [← hh.code.names] at hk
  obtain ⟨answer, asked⟩ := hh.code.ask (hh.program.follows_find hk q)
  exact ⟨answer, hh.withCode asked (host'.code.names.keptBy_noteAll _)⟩

theorem proceed (hh : host.StandsFor host') (number : Nat) (step : SessionStep) :
    Host.Answers (host.proceed number step) (host'.proceed number step) := by
  have session := hh.sessions.getElem? number
  revert session
  generalize found : host.sessions[number]? = s, found' : host'.sessions[number]? = s'
  intro session
  cases session with
  | none =>
    rw [Host.proceed_of_none found, Uncaught.Host.proceed_of_none found']
    exact ⟨.missing, hh⟩
  | some hs =>
    rw [Host.proceed_of_some found, Uncaught.Host.proceed_of_some found']
    rw [← hh.code.names] at hs
    obtain ⟨answer, asked⟩ := hh.code.ask (hs.follows_perform hh.program step)
    -- The other sessions have parsed lists too, and their numbers have to stand after this step.
    have left := hh.withCode asked (host'.code.names.keptBy_noteAll _)
    exact ⟨.session (.cons answer.1 .nil), left.code, left.sessions.set number answer.2,
      left.answers, left.asides⟩

theorem kept (hh : host.StandsFor host') :
    List.Forall₂ (Kept.StandsFor host'.code.names) (host.answers.map Answer.kept)
      (host'.answers.map Uncaught.Answer.kept) := List.rel_map (fun _ _ h => h.kept) hh.answers

/-- A step is answered with what it is answered with by name. -/
theorem perform (hh : host.StandsFor host') (step : Step) :
    Host.Answers (host.perform step) (host'.perform step) := by
  cases step with
  | declare d =>
    exact ⟨.done, hh.withCode (hh.code.declare d) (host'.code.names.keptBy_noteAll _)⟩
  | ask q => exact hh.ask hh.kept q
  | lookUp q =>
    refine ⟨?_, hh⟩
    show (Interned.lookUp host.code.names q).StandsFor host'.code.names _
    rw [hh.code.names]
    exact standsFor_lookUp _ q
  | start origin =>
    have started := List.rel_append hh.sessions
      (.cons (origin.standsFor_numbered host'.code.names) .nil)
    exact ⟨.done, hh.code, started, hh.answers, hh.asides⟩
  | proceed number step => exact hh.proceed number step

theorem performAside (hh : host.StandsFor host') (q : Aside) :
    Host.Answers (host.performAside q) (host'.performAside q) := by
  cases q with
  | ask q =>
    exact hh.ask (List.rel_map (fun _ _ h => h.kept) (List.rel_append hh.answers hh.asides)) q
  | proceed number q => exact hh.proceed number q.step

/-- Every event is answered with what it is answered with by name, and so is a run. -/
theorem run (hh : host.StandsFor host') (script : List (Step ⊕ Aside)) :
    (host.run script).StandsFor (host'.run script) := by
  induction script generalizing host host' with
  | nil => exact hh
  | cons event rest ih =>
    refine ih ?_
    cases event with
    | inl step =>
      obtain ⟨answer, left⟩ := hh.perform step
      exact ⟨left.code, left.sessions, List.rel_append left.answers (.cons answer .nil),
        left.asides⟩
    | inr q =>
      obtain ⟨answer, left⟩ := hh.performAside q
      exact ⟨left.code, left.sessions, left.answers,
        List.rel_append left.asides (.cons answer .nil)⟩

end Host.StandsFor

end Uncaught.Interned
