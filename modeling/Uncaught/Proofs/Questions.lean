import Uncaught.Proofs.InternedSessions
import Uncaught.Proofs.Names

/-!
Questions to a code base.

A host makes declarations, asks questions of the code base and has sessions check files with it.
What it asks about are names that it spells out and types, sets and callables that it has been
answered before, which it refers to by their place. Here a host is taken by name. Questions spell
out names, those of malformed texts and of routines that nobody has declared included, and the names
are entered; but a question is answered from the program, and leaves the program and the sessions as
they are. One thing more is left by a check in a session: the ignored types are parsed by then. So
of two runs of a host, one of which asks more than the other, each step keeps the programs equal,
the sessions equal but for lists that are parsed sooner (`Session.Ahead`), and the smaller table of
names within the larger one (`Host.Within`).
-/
namespace Uncaught

/-- What a host refers to: something that it has been answered, by the answer and its place there.
-/
structure Ref where
  answer : Nat
  item : Nat
deriving DecidableEq, Repr

/-- Handlers of a host's own, with the handlers by name that they follow. -/
structure CustomHandlers where
  numbered : Interned.Handlers
  named : Handlers
  follow : numbered.Follow named
  /-- Of the ignored types they learn by asking. -/
  inquire : named.Inquire

/-- How a host builds a session. -/
inductive HostedSession where
  | configured (config : Config)
  | custom (ignored : List String) (handlers : CustomHandlers)

def HostedSession.named : HostedSession → Session
  | .configured config => Session.ofConfig config
  | .custom ignored handlers => Session.ofHandlers ignored handlers.named

def HostedSession.numbered : HostedSession → Interned.Session
  | .configured config => Interned.Session.ofConfig config
  | .custom ignored handlers => Interned.Session.ofHandlers ignored handlers.numbered

theorem HostedSession.standsFor_numbered (names : NameTable) (origin : HostedSession) :
    origin.numbered.StandsFor names origin.named := by
  cases origin with
  | configured config => exact .ofConfig config
  | custom ignored handlers => exact .ofHandlers ignored handlers.follow

theorem HostedSession.inquire_named (origin : HostedSession) : origin.named.handlers.Inquire := by
  cases origin with
  | configured config => exact Handlers.inquire_ofConfig config
  | custom ignored handlers => exact handlers.inquire

/-- A question that is answered from the program. -/
inductive Question where
  /-- The type that a spelling names. -/
  | type (spelling : String)
  /-- The callable that a spelling names. -/
  | callable (spelling : String)
  | method (className name : String)
  | parse (source : String)
  /-- The set of some types, each nullable or not. -/
  | collect (types : List (Ref × Bool))
  | withAncestors (t : Ref)
  /-- The type that a spelling names, with its ancestors. -/
  | expanded (spelling : String)
  | ancestors (t : Ref)
  | isKnown (t : Ref)
  | isSubtype (child ancestor : Ref)
  | castable (source target : Ref)
  | typesOf (scope : Routine) (e : Expr)
  | caughtBy (clause : List String)
  | callableOf (scope : Routine)
  | callTargets (scope : Routine) (callee : Expr)
  | methodTarget (scope : Routine) (receiver : Expr) (method : String) (lookup : LookupMode)
  | contract (callable : Ref)
  | contractNamed (name : String)
  | typesDeclaredBy (name : String)
  /-- A session of its own, from its start through some steps. -/
  | session (origin : HostedSession) (steps : List SessionStep)
  | typesKnown
  | callablesDeclared

/-- A question that is answered from the table of names. -/
inductive NameQuestion where
  | typeCount
  | type (spelling : String)
  | callable (spelling : String)

/-- A question to a session: one that does not change what is in force. -/
inductive SessionQuestion where
  | check (file : SourceFile)
  | checkAll (files : List SourceFile)
  | ignoredTypes

def SessionQuestion.step : SessionQuestion → SessionStep
  | .check file => .check file
  | .checkAll files => .checkAll files
  | .ignoredTypes => .ignoredTypes

inductive Step where
  | declare (d : Declaration)
  | ask (q : Question)
  | lookUp (q : NameQuestion)
  | start (origin : HostedSession)
  /-- A step of the session with some number. -/
  | proceed (number : Nat) (step : SessionStep)

/-- What is asked besides. -/
inductive Aside where
  | ask (q : Question)
  | proceed (number : Nat) (q : SessionQuestion)

/-! ## Answers -/

inductive Answer where
  | done
  /-- There is nothing that the question could refer to. -/
  | missing
  | type (t : NamedType)
  | types (types : TypeSet)
  | ancestors (names : List TypeName)
  | truth (value : Bool)
  | callable (callable : Callable)
  | callTargets (found : Except Abstention (List Callable))
  | methodTarget (found : Except Abstention Callable)
  | contract (contract : Option Contract)
  | session (answers : List SessionAnswer)
  | count (n : Nat)
  | typeCount (n : Nat)
  | typeNamed (found : Option TypeName)
  | callableNamed (found : Option CallableName)

def SessionAnswer.types? : SessionAnswer → Option TypeSet
  | .types s => some s
  | _ => none

/-- What an answer gives a host to refer to. A look-up of a name gives nothing. -/
structure Kept where
  types : List NamedType
  sets : List TypeSet
  callables : List Callable

namespace Kept

def nothing : Kept := ⟨[], [], []⟩

/-- Sets, and the types that are their members. -/
def ofSets (sets : List TypeSet) : Kept := ⟨sets.flatMap (·.members), sets, []⟩

def ofCallables (callables : List Callable) : Kept := ⟨[], [], callables⟩

def type? (kept : List Kept) (ref : Ref) : Option NamedType :=
  kept[ref.answer]?.bind (·.types[ref.item]?)

def set? (kept : List Kept) (ref : Ref) : Option TypeSet :=
  kept[ref.answer]?.bind (·.sets[ref.item]?)

def callable? (kept : List Kept) (ref : Ref) : Option Callable :=
  kept[ref.answer]?.bind (·.callables[ref.item]?)

/-- The set of the types that are referred to. -/
def collect (kept : List Kept) (types : List (Ref × Bool)) : TypeSet :=
  .ofList (types.filterMap fun (ref, nullable) =>
    (type? kept ref).map fun t => ⟨t.name, nullable⟩)

end Kept

def Answer.kept : Answer → Kept
  | .type t => ⟨[t], [], []⟩
  | .types s => .ofSets [s]
  | .ancestors names => ⟨names.map NamedType.plain, [], []⟩
  | .callable c => .ofCallables [c]
  | .callTargets (.ok found) => .ofCallables found
  | .methodTarget (.ok found) => .ofCallables [found]
  | .contract (some (.declared s)) => .ofSets [s]
  | .session answers => .ofSets (answers.filterMap SessionAnswer.types?)
  | _ => .nothing

def Question.find (p : Program) (kept : List Kept) : Question → Noted Answer
  | .type spelling => do
    mention (.type (TypeName.ofText spelling))
    return .type (.plain (TypeName.ofText spelling))
  | .callable spelling => do
    mention (.callable (CallableName.ofText spelling))
    return .callable ⟨CallableName.ofText spelling, spelling⟩
  | .method className name => do
    mention (.callable (CallableName.ofMethod className name))
    return .callable ⟨CallableName.ofMethod className name, name⟩
  | .parse source => .types <$> TypeSet.parse source
  | .collect types => pure (.types (Kept.collect kept types))
  | .withAncestors t =>
    pure (((Kept.type? kept t).map fun t => .types (p.hierarchy.withAncestors t)).getD .missing)
  | .expanded spelling => do
    mention (.type (TypeName.ofText spelling))
    return .types (p.hierarchy.withAncestors (.plain (TypeName.ofText spelling)))
  | .ancestors t =>
    pure (((Kept.type? kept t).map fun t => .ancestors (p.hierarchy.ancestors t.name)).getD
      .missing)
  | .isKnown t =>
    pure (((Kept.type? kept t).map fun t => .truth (p.hierarchy.contains t.name)).getD .missing)
  | .isSubtype child ancestor =>
    pure (((Kept.type? kept child).bind fun child => (Kept.type? kept ancestor).map fun ancestor =>
      .truth (p.hierarchy.isSubtype child.name ancestor.name)).getD .missing)
  | .castable source target =>
    pure (((Kept.set? kept source).bind fun source => (Kept.set? kept target).map fun target =>
      .truth (source.castable target)).getD .missing)
  | .typesOf scope e => .types <$> p.typesOf scope e
  | .caughtBy clause => .types <$> TypeSet.parseAll TypeSet.empty clause
  | .callableOf scope => .callable <$> p.callableOf scope
  | .callTargets scope callee => pure (.callTargets (p.callTargets scope callee))
  | .methodTarget scope receiver name lookup =>
    .methodTarget <$> p.methodTarget scope receiver name lookup
  | .contract target =>
    pure (((Kept.callable? kept target).map fun c => .contract (some (p.contract c))).getD
      .missing)
  | .contractNamed name => pure (.contract (p.contractNamed? name))
  | .typesDeclaredBy name => pure (.types (p.typesDeclaredBy name))
  | .session origin steps => (fun run => .session run.1) <$> origin.named.run p steps
  | .typesKnown => pure (.count p.hierarchy.size)
  | .callablesDeclared => pure (.count p.callables.size)

def NameQuestion.find (names : NameTable) : NameQuestion → Answer
  | .typeCount => .typeCount names.typeCount
  | .type spelling => .typeNamed ((names.type? spelling).bind names.typeName?)
  | .callable spelling => .callableNamed ((names.callable? spelling).bind names.callableName?)

/-! ## Hosts -/

/-- A code base and the sessions that use it, in the order of their start, and what the host has
been answered, by its steps and besides. -/
structure Host where
  code : Codebase
  sessions : List Session
  answers : List Answer
  asides : List Answer

namespace Host

def new : Host := ⟨Codebase.empty, [], [], []⟩

/-- A step of the session with some number, if there is one. -/
def proceed (host : Host) (number : Nat) (step : SessionStep) : Answer × Host :=
  match host.sessions[number]? with
  | none => (.missing, host)
  | some session =>
    let ((answer, session), code) := host.code.ask (session.perform host.code.program step)
    (.session [answer], { host with code, sessions := host.sessions.set number session })

/-- The answer to a step and the host after it. -/
def perform (host : Host) : Step → Answer × Host
  | .declare d => (.done, { host with code := host.code.declare d })
  | .ask q =>
    let (answer, code) := host.code.ask (q.find host.code.program (host.answers.map Answer.kept))
    (answer, { host with code })
  | .lookUp q => (q.find host.code.names, host)
  | .start origin => (.done, { host with sessions := host.sessions ++ [origin.named] })
  | .proceed number step => host.proceed number step

/-- The answer to what is asked besides. It may refer to the answers to the steps and, behind them,
to those given besides. -/
def performAside (host : Host) : Aside → Answer × Host
  | .ask q =>
    let (answer, code) :=
      host.code.ask (q.find host.code.program ((host.answers ++ host.asides).map Answer.kept))
    (answer, { host with code })
  | .proceed number q => host.proceed number q.step

/-- The host after one more event, with the answer to it. -/
def after (host : Host) : Step ⊕ Aside → Host
  | .inl step =>
    let (answer, host) := host.perform step
    { host with answers := host.answers ++ [answer] }
  | .inr q =>
    let (answer, host) := host.performAside q
    { host with asides := host.asides ++ [answer] }

def run (host : Host) (script : List (Step ⊕ Aside)) : Host := script.foldl after host

theorem proceed_of_none {host : Host} {number : Nat} (none : host.sessions[number]? = none)
    (step : SessionStep) : host.proceed number step = (.missing, host) := by
  rw [proceed, none]

theorem proceed_of_some {host : Host} {number : Nat} {session : Session}
    (found : host.sessions[number]? = some session) (step : SessionStep) :
    host.proceed number step =
      let answer := session.perform host.code.program step
      (.session [answer.value.1], { host with
        code := (host.code.ask answer).2
        sessions := host.sessions.set number answer.value.2 }) := by
  rw [proceed, found]
  rfl

end Host

/-- One answer agrees with another one that was given after more questions: they are the same,
unless they tell what names there are, when there can only be more. -/
def Answer.Agrees : Answer → Answer → Prop
  | .typeCount m, .typeCount n => m ≤ n
  | .typeNamed found, .typeNamed found' => ∀ name ∈ found, name ∈ found'
  | .callableNamed found, .callableNamed found' => ∀ name ∈ found, name ∈ found'
  | answer, answer' => answer = answer'

namespace Answer.Agrees

theorem of_eq {answer answer' : Answer} (same : answer = answer') : answer.Agrees answer' := by
  subst same
  cases answer with
  | typeCount n => exact Nat.le_refl n
  | typeNamed found => exact fun _ member => member
  | callableNamed found => exact fun _ member => member
  | _ => exact rfl

/-- What a host can refer to later does not tell what names there are. -/
theorem kept_eq {answer answer' : Answer} (agrees : answer.Agrees answer') :
    answer.kept = answer'.kept := by
  unfold Answer.Agrees at agrees
  split at agrees
  · rfl
  · rfl
  · rfl
  · rw [agrees]

end Answer.Agrees

/-! ## Names that inquiries spell out -/

namespace Inquiry

variable {α : Type} {p : Program}

theorem mentions_isReportable (input : CheckInput) (lineage : TypeSet) :
    (input.isReportable lineage).log.mentions = input.ignored.log := List.append_nil _

/-- An inquiry into one list spells out the names of the other one, if the names of the ignored
types are spelled out there or known. -/
theorem mention_of_run {a b : Noted TypeSet} (same : a.value = b.value) {known : Mention → Prop}
    (within : ∀ name ∈ a.log, name ∈ b.log ∨ known name) (inquiry : Inquiry α) {name : Mention}
    (spelled : name ∈ (inquiry.run ⟨p, a⟩).log.mentions) :
    name ∈ (inquiry.run ⟨p, b⟩).log.mentions ∨ known name := by
  induction inquiry with
  | done result => exact absurd spelled List.not_mem_nil
  | write part next ih =>
    rcases List.mem_append.1 spelled with here | later
    · exact .inl (List.mem_append_left _ here)
    · exact (ih later).imp_left (List.mem_append_right _)
  | ask lineage next ih =>
    -- Both lists answer alike, so both inquiries go on with one and the same next part.
    have answer : (CheckInput.isReportable ⟨p, a⟩ lineage).value =
        (CheckInput.isReportable ⟨p, b⟩ lineage).value := by
      show (a.value.isEmpty || !lineage.castable a.value) = _
      rw [same]
      rfl
    rcases List.mem_append.1 spelled with here | later
    · rw [mentions_isReportable] at here
      refine (within name here).imp_left fun here => List.mem_append_left _ ?_
      rwa [mentions_isReportable]
    · rw [answer] at later
      exact (ih _ later).imp_left (List.mem_append_right _)

/-- Where the ignored types are asked for, their names are spelled out. -/
theorem log_subset_mentions {ignored : Noted TypeSet} (inquiry : Inquiry α)
    (asked : (inquiry.run ⟨p, ignored⟩).log.askedIgnored = true) :
    ignored.log ⊆ (inquiry.run ⟨p, ignored⟩).log.mentions := by
  induction inquiry with
  | done result => exact absurd asked Bool.false_ne_true
  | write part next ih => exact List.subset_append_of_subset_right _ (ih asked)
  | ask lineage next ih =>
    have here := mentions_isReportable ⟨p, ignored⟩ lineage
    exact List.subset_append_of_subset_left _ (here ▸ List.Subset.refl _)

end Inquiry

/-! ## Two sessions, one of which may have parsed its list sooner -/

/-- One session is another one, but for a list of ignored types that is parsed already. In this case
the names that parsing it spells out are known. -/
structure Session.Ahead (names : NameTable) (session asked : Session) : Prop where
  inquire : session.handlers.Inquire
  handlers : asked.handlers = session.handlers
  ignored : asked.ignored = session.ignored ∨
    asked.ignored = session.ignored.initialized ∧
      ∀ name ∈ session.ignored.types.log, names.Has name

namespace Session.Ahead

variable {names later : NameTable} {session asked : Session} {p : Program}

theorem refl {session : Session} (inquire : session.handlers.Inquire) :
    Ahead names session session := ⟨inquire, rfl, .inl rfl⟩

theorem mono (ahead : Ahead names session asked) (within : names.Within later) :
    Ahead later session asked :=
  ⟨ahead.inquire, ahead.handlers,
    ahead.ignored.imp_right fun parsed =>
      ⟨parsed.1, fun name member => within name (parsed.2 name member)⟩⟩

/-- Both lists write the same types. -/
theorem value_types (ahead : Ahead names session asked) :
    asked.ignored.types.value = session.ignored.types.value := by
  rcases ahead.ignored with same | ⟨same, -⟩
  · rw [same]
  · rw [same]
    rfl

theorem mention_types (ahead : Ahead names session asked) (name : Mention)
    (spelled : name ∈ session.ignored.types.log) :
    name ∈ asked.ignored.types.log ∨ names.Has name := by
  rcases ahead.ignored with same | ⟨-, known⟩
  · rw [same]
    exact .inl spelled
  · exact .inr (known name spelled)

theorem configured (ahead : Ahead names session asked) :
    asked.ignored.configured = session.ignored.configured := by
  rcases ahead.ignored with same | ⟨same, -⟩
  · rw [same]
  · rw [same]
    rfl

/-- Types that the one session has parsed are those that the other one has. -/
theorem parsed (ahead : Ahead names session asked) {types : TypeSet}
    (known : session.ignored.parsed = some types) : asked.ignored.parsed = some types := by
  rcases ahead.ignored with same | ⟨same, -⟩
  · rw [same, known]
  · rw [same, IgnoredTypes.initialized, IgnoredTypes.types, known]
    rfl

/-- When both lists have been parsed, the sessions are the same. -/
theorem initialized (ahead : Ahead names session asked) :
    Ahead later session.initialized asked.initialized := by
  refine ⟨ahead.inquire, ahead.handlers, .inl ?_⟩
  show asked.ignored.initialized = session.ignored.initialized
  rcases ahead.ignored with same | ⟨same, -⟩
  · rw [same]
  · rw [same]
    rfl

/-- The list of the session that is asked besides may be parsed, if its names are known by then. -/
theorem initialized_right (ahead : Ahead names session asked) (within : names.Within later)
    (known : ∀ name ∈ asked.ignored.types.log, later.Has name) :
    Ahead later session asked.initialized := by
  refine ⟨ahead.inquire, ahead.handlers, .inr ?_⟩
  rcases ahead.ignored with same | ⟨same, known'⟩
  · rw [same] at known
    exact ⟨congrArg IgnoredTypes.initialized same, known⟩
  · exact ⟨(congrArg IgnoredTypes.initialized same).trans rfl,
      fun name member => within name (known' name member)⟩

/-- What both sessions report of some files comes from one inquiry. -/
theorem exists_inquiry (ahead : Ahead names session asked) (p : Program) (files : List SourceFile) :
    ∃ inquiry : Inquiry Unit,
      Report.concat (files.map (session.report p)) =
        (inquiry.run ⟨p, session.ignored.types⟩).log ∧
      Report.concat (files.map (asked.report p)) =
        (inquiry.run ⟨p, asked.ignored.types⟩).log := by
  obtain ⟨inquiry, same, -⟩ := session.checkAll_asks_in_turn ahead.inquire p files
  refine ⟨inquiry, same _, ?_⟩
  rw [← same]
  unfold Session.report
  rw [ahead.handlers]
  rfl

theorem findings (ahead : Ahead names session asked) (p : Program) (files : List SourceFile) :
    (Report.concat (files.map (asked.report p))).findings =
      (Report.concat (files.map (session.report p))).findings := by
  obtain ⟨inquiry, plain, more⟩ := ahead.exists_inquiry p files
  rw [plain, more]
  exact (Inquiry.findings_run_congr ahead.value_types inquiry).2

/-- Both sessions go through checks of some files. -/
theorem after (ahead : Ahead names session asked) (p : Program) (files : List SourceFile)
    (within : names.Within later) :
    Ahead later (session.after (Report.concat (files.map (session.report p))))
      (asked.after (Report.concat (files.map (asked.report p)))) := by
  have same : (Report.concat (files.map (asked.report p))).askedIgnored =
      (Report.concat (files.map (session.report p))).askedIgnored := by
    show (Report.findings _).askedIgnored = (Report.findings _).askedIgnored
    rw [ahead.findings]
  unfold Session.after
  rw [same]
  split
  · exact ahead.initialized
  · exact ahead.mono within

theorem mention_of_report (ahead : Ahead names session asked) (p : Program)
    (files : List SourceFile) (name : Mention)
    (spelled : name ∈ (Report.concat (files.map (session.report p))).mentions) :
    name ∈ (Report.concat (files.map (asked.report p))).mentions ∨ names.Has name := by
  obtain ⟨inquiry, plain, more⟩ := ahead.exists_inquiry p files
  rw [plain] at spelled
  rw [more]
  exact inquiry.mention_of_run ahead.value_types.symm ahead.mention_types spelled

/-- The session that is asked besides checks some files. -/
theorem after_right (ahead : Ahead names session asked) (p : Program) (files : List SourceFile) :
    Ahead (names.noteAll (Report.concat (files.map (asked.report p))).mentions) session
      (asked.after (Report.concat (files.map (asked.report p)))) := by
  have within (spelled : List Mention) : names.Within (names.noteAll spelled) :=
    NameTable.Within.noteAll_right (fun _ has => has) spelled
  unfold Session.after
  split
  next asks =>
    obtain ⟨inquiry, -, more⟩ := ahead.exists_inquiry p files
    refine ahead.initialized_right (within _) fun name member => NameTable.has_noteAll.2 (.inr ?_)
    rw [more] at asks ⊢
    exact inquiry.log_subset_mentions asks member
  next => exact ahead.mono (within _)

end Session.Ahead

namespace Session

/-- What a check of a file says, as that of a batch of one. -/
theorem perform_check (session : Session) (p : Program) (file : SourceFile) :
    session.perform p (.check file) =
      ⟨(.file (fileReport file (session.report p file)),
        session.after (Report.concat ([file].map (session.report p)))),
        (Report.concat ([file].map (session.report p))).mentions⟩ := by
  have whole : Report.concat ([file].map (session.report p)) = session.report p file :=
    Report.append_empty _
  rw [whole]
  exact congrArg (Logged.mk _) (List.append_nil _)

theorem checkAll_eq (session : Session) (p : Program) (files : List SourceFile) :
    session.checkAll p files =
      ⟨(BatchResult.ofFiles (files.map fun file => fileReport file (session.report p file)),
        session.after (Report.concat (files.map (session.report p)))),
        (Report.concat (files.map (session.report p))).mentions⟩ := by
  have whole : (files.map fun file => (file, session.report p file)).foldl
      (fun whole report => whole ++ report.2) (∅ : Report) =
        Report.concat (files.map (session.report p)) := by
    rw [foldl_reports, List.map_map]
    rfl
  unfold Session.checkAll
  dsimp only
  rw [whole, List.map_map]
  rfl

theorem perform_checkAll (session : Session) (p : Program) (files : List SourceFile) :
    session.perform p (.checkAll files) =
      ⟨(.batch (.ofFiles (files.map fun file => fileReport file (session.report p file))),
        session.after (Report.concat (files.map (session.report p)))),
        (Report.concat (files.map (session.report p))).mentions⟩ := by
  unfold Session.perform
  dsimp only
  rw [checkAll_eq]
  exact congrArg (Logged.mk _) (List.append_nil _)

theorem perform_ignoredTypes (session : Session) (p : Program) :
    session.perform p .ignoredTypes =
      ⟨(.types session.ignored.types.value, session.initialized), session.ignored.types.log⟩ := by
  show Logged.mk _ (session.ignored.types.log ++ [] ++ []) = _
  rw [List.append_nil, List.append_nil]
  rfl

end Session

namespace Session.Ahead

variable {names : NameTable} {session asked : Session}

/-- A step answers alike in both sessions, spells out no name that is not known or spelled out in
the other one, and keeps the one session ahead. -/
theorem perform (ahead : Ahead names session asked) (p : Program) (step : SessionStep) :
    (session.perform p step).value.1 = (asked.perform p step).value.1 ∧
      (∀ name ∈ (session.perform p step).log,
        name ∈ (asked.perform p step).log ∨ names.Has name) ∧
      Ahead (names.noteAll (asked.perform p step).log) (session.perform p step).value.2
        (asked.perform p step).value.2 := by
  have reports (file : SourceFile) :
      fileReport file (session.report p file) = fileReport file (asked.report p file) :=
    (fileReport_congr (findings_report_congr ahead.inquire ahead.handlers ahead.value_types file)
      file).symm
  have within (spelled : List Mention) : names.Within (names.noteAll spelled) :=
    NameTable.Within.noteAll_right (fun _ has => has) spelled
  cases step with
  | check file =>
    rw [perform_check, perform_check]
    exact ⟨congrArg SessionAnswer.file (reports file), ahead.mention_of_report p [file],
      ahead.after p [file] (within _)⟩
  | checkAll files =>
    rw [perform_checkAll, perform_checkAll]
    refine ⟨?_, ahead.mention_of_report p files, ahead.after p files (within _)⟩
    exact congrArg (SessionAnswer.batch ∘ BatchResult.ofFiles)
      (List.map_congr_left fun file _ => reports file)
  | ignoredTypes =>
    rw [perform_ignoredTypes, perform_ignoredTypes]
    exact ⟨congrArg SessionAnswer.types ahead.value_types.symm, ahead.mention_types,
      ahead.initialized⟩
  | reset =>
    refine ⟨rfl, fun _ member => .inl member, ahead.inquire, ahead.handlers, .inl ?_⟩
    show asked.ignored.reset = session.ignored.reset
    rcases ahead.ignored with same | ⟨same, -⟩
    · rw [same]
    · rw [same]
      rfl
  | reload config =>
    exact ⟨rfl, fun _ member => .inl member, refl (Handlers.inquire_ofConfig config)⟩

/-- A question to the one session keeps it ahead. -/
theorem ask_right (ahead : Ahead names session asked) (p : Program) (q : SessionQuestion) :
    Ahead (names.noteAll (asked.perform p q.step).log) session
      (asked.perform p q.step).value.2 := by
  cases q with
  | check file =>
    rw [SessionQuestion.step, perform_check]
    exact ahead.after_right p [file]
  | checkAll files =>
    rw [SessionQuestion.step, perform_checkAll]
    exact ahead.after_right p files
  | ignoredTypes =>
    rw [SessionQuestion.step, perform_ignoredTypes]
    refine ahead.initialized_right (NameTable.Within.noteAll_right (fun _ has => has) _) ?_
    exact fun name member => NameTable.has_noteAll.2 (.inr member)

end Session.Ahead

/-! ## Two hosts, one of which has been asked more -/

/-- One host has the program and the sessions of another one, but for lists that are parsed already,
and its names at least, and its steps have been answered alike. -/
structure Host.Within (host asked : Host) : Prop where
  program : asked.code.program = host.code.program
  names : host.code.names.Within asked.code.names
  sessions : List.Forall₂ (Session.Ahead asked.code.names) host.sessions asked.sessions
  answers : List.Forall₂ Answer.Agrees host.answers asked.answers

namespace Host.Within

variable {host asked : Host}

theorem new : Host.new.Within Host.new := ⟨rfl, fun _ has => has, .nil, .nil⟩

/-- What the steps of the one host can refer to, those of the other one can. -/
theorem kept_eq (within : host.Within asked) :
    host.answers.map Answer.kept = asked.answers.map Answer.kept :=
  List.forall₂_eq_eq_eq ▸ List.rel_map (fun _ _ agrees => agrees.kept_eq) within.answers

theorem lookUp (within : host.Within asked) (q : NameQuestion) :
    (q.find host.code.names).Agrees (q.find asked.code.names) := by
  cases q with
  | typeCount => exact Roster.size_le within.names.types
  | type spelling => exact Roster.resolve?_find?_mono within.names.types
  | callable spelling => exact Roster.resolve?_find?_mono within.names.callables

/-- More names on the side that is asked more change nothing. -/
theorem sessions_noteAll (within : host.Within asked) (spelled : List Mention) :
    List.Forall₂ (Session.Ahead (asked.code.names.noteAll spelled)) host.sessions asked.sessions :=
  within.sessions.imp fun _ _ ahead =>
    ahead.mono (NameTable.Within.noteAll_right (fun _ has => has) spelled)

/-- A step of a session answers alike in both hosts, and keeps the one within the other. -/
theorem proceed (within : host.Within asked) (number : Nat) (step : SessionStep) :
    (host.proceed number step).1.Agrees (asked.proceed number step).1 ∧
      (host.proceed number step).2.Within (asked.proceed number step).2 := by
  have session := within.sessions.getElem? number
  revert session
  generalize found : host.sessions[number]? = s, found' : asked.sessions[number]? = s'
  intro session
  cases session with
  | none =>
    rw [Host.proceed_of_none found, Host.proceed_of_none found']
    exact ⟨.of_eq rfl, within⟩
  | @some s s' ahead =>
    obtain ⟨answer, spelled, left⟩ := ahead.perform host.code.program step
    rw [Host.proceed_of_some found, Host.proceed_of_some found', within.program]
    refine ⟨.of_eq (congrArg (fun a => Answer.session [a]) answer), within.program,
      fun name has => NameTable.has_noteAll.2 ?_, (within.sessions_noteAll _).set number left,
      within.answers⟩
    rcases NameTable.has_noteAll.1 has with known | here
    · exact .inl (within.names name known)
    · exact (spelled name here).symm

/-- A step answers alike in both hosts, and afterwards the one is still within the other. -/
theorem perform (within : host.Within asked) (step : Step) :
    (host.perform step).1.Agrees (asked.perform step).1 ∧
      (host.perform step).2.Within (asked.perform step).2 := by
  cases step with
  | declare d =>
    -- What a declaration writes and spells out depends on the program only, not on the names.
    have program : (asked.code.declare d).program = (host.code.declare d).program :=
      congrArg (fun p => (Program.declare p d).value) within.program
    have names : (host.code.declare d).names.Within (asked.code.declare d).names := by
      show (host.code.names.noteAll (host.code.program.declare d).log).Within
        (asked.code.names.noteAll (asked.code.program.declare d).log)
      rw [within.program]
      exact within.names.noteAll _
    exact ⟨.of_eq rfl, program, names, within.sessions_noteAll _, within.answers⟩
  | ask q =>
    have same : q.find asked.code.program (asked.answers.map Answer.kept) =
        q.find host.code.program (host.answers.map Answer.kept) := by
      rw [within.program, within.kept_eq]
    unfold Host.perform
    dsimp only
    rw [same]
    exact ⟨.of_eq rfl, within.program, within.names.noteAll _, within.sessions_noteAll _,
      within.answers⟩
  | lookUp q => exact ⟨within.lookUp q, within⟩
  | start origin =>
    have started := List.rel_append within.sessions
      (.cons (Session.Ahead.refl origin.inquire_named) .nil)
    exact ⟨.of_eq rfl, within.program, within.names, started, within.answers⟩
  | proceed number step => exact within.proceed number step

/-- What is asked besides of the one host keeps the other one within it. -/
theorem performAside (within : host.Within asked) (q : Aside) :
    host.Within (asked.performAside q).2 := by
  cases q with
  | ask q =>
    exact ⟨within.program, within.names.noteAll_right _, within.sessions_noteAll _,
      within.answers⟩
  | proceed number q =>
    have session := within.sessions.getElem? number
    revert session
    generalize found : host.sessions[number]? = s, found' : asked.sessions[number]? = s'
    intro session
    show host.Within (asked.proceed number q.step).2
    cases session with
    | none =>
      rw [Host.proceed_of_none found']
      exact within
    | @some s s' ahead =>
      have left := (within.sessions_noteAll _).set number (ahead.ask_right asked.code.program q)
      have same : host.sessions.set number s = host.sessions := by
        obtain ⟨bound, rfl⟩ := List.getElem?_eq_some_iff.1 found
        exact List.set_getElem_self bound
      -- The session that is not asked stays where it is, and so its list of sessions does.
      rw [Host.proceed_of_some found']
      rw [same] at left
      exact ⟨within.program, within.names.noteAll_right _, left, within.answers⟩

/-- Each event keeps the one host within the other, which is asked in between. -/
theorem run (within : host.Within asked) (script : List (Step ⊕ Aside)) :
    (host.run (script.filter Sum.isLeft)).Within (asked.run script) := by
  induction script generalizing host asked with
  | nil => exact within
  | cons event rest ih =>
    cases event with
    | inl step =>
      obtain ⟨agrees, left⟩ := within.perform step
      refine ih ⟨left.program, left.names, left.sessions, ?_⟩
      exact List.rel_append left.answers (.cons agrees .nil)
    | inr q =>
      have left := within.performAside q
      exact ih ⟨left.program, left.names, left.sessions, left.answers⟩

end Host.Within

end Uncaught
