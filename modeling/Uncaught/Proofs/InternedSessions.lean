import Uncaught.Interned.Session
import Uncaught.Proofs.History
import Uncaught.Proofs.InternedChecks

/-!
What a session by numbers finds.

The walk goes from site to site with the state that the site before has left, and leads to the state
for the report of the walk by name (`matches_visit`, one case for each kind of node). So a session
whose handlers follow those of a session by name, and whose ignored types stand for the other's,
finds the same in every file and in every batch, and afterwards still stands for it
(`Session.StandsFor.follows_perform`).
-/
namespace Uncaught.Interned

/-! ## The walk -/

section

variable {list : Uncaught.IgnoredTypes} {p : Program} {p' : Uncaught.Program}
  {handlers : Handlers} {handlers' : Uncaught.Handlers} {file : String}

theorem matches_dispatch {r : Progress} (hp : p.StandsFor r.names p')
    (follow : handlers.Follow handlers') (scopes : ScopePath) (position : Position)
    (action : Action) :
    Check.Matches list r (dispatch p handlers file scopes position action)
      (Logged.write (reportSite ⟨p', list.types⟩ handlers' file scopes position action)) := by
  unfold dispatch reportSite
  have handler := follow action.kind
  revert handler
  generalize handlers.handler? action.kind = found, handlers'.handler? action.kind = found'
  intro handler
  cases handler with
  | none => exact Check.Follows.pure rfl
  | some follows =>
    cases ScopePath.routine? scopes with
    | none => exact Check.Follows.pure rfl
    | some routine => exact follows list r p p' _ hp

/-- One part after the other leaves the reports of both. -/
theorem matches_seq {r : Progress} {x y : Check Unit} {a b : Report}
    (first : Check.Matches list r x (Logged.write a))
    (next : ∀ later, r.names.KeptBy (Progress.names later) →
      Check.Matches list later y (Logged.write b)) :
    Check.Matches list r (do x; y) (Logged.write (a ++ b)) :=
  first.bind fun later _ _ kept _ => next later kept

mutual

/-- The visit of a node leaves the report of the node. -/
theorem matches_visit {r : Progress} (hp : p.StandsFor r.names p')
    (follow : handlers.Follow handlers') (scopes : ScopePath) (node : Node) :
    Check.Matches list r (visit p handlers file scopes node)
      (Logged.write (reportNode ⟨p', list.types⟩ handlers' file scopes node)) := by
  cases node with
  | routine f body =>
    rw [visit, reportNode]
    refine matches_seq (Check.Follows.count .functionsVisited) fun later kept => ?_
    exact matches_walk (hp.mono kept) follow _ body
  | block body =>
    rw [visit, reportNode]
    exact matches_walk hp follow scopes body
  | tryCatch body clauses final =>
    rw [visit, reportNode, Report.append_assoc]
    refine matches_seq (matches_walk hp follow _ body) fun middle kept => ?_
    have hp := hp.mono kept
    refine matches_seq (matches_walkClauses hp follow scopes _ clauses) fun later kept => ?_
    exact matches_walkFinal (hp.mono kept) follow _ final
  | throw position thrown =>
    rw [visit, reportNode]
    exact matches_dispatch hp follow scopes position _
  | call position call arguments =>
    rw [visit, reportNode]
    refine matches_seq (matches_walk hp follow scopes arguments) fun later kept => ?_
    exact matches_dispatch (hp.mono kept) follow scopes position _

theorem matches_walk {r : Progress} (hp : p.StandsFor r.names p')
    (follow : handlers.Follow handlers') (scopes : ScopePath) (nodes : List Node) :
    Check.Matches list r (walk p handlers file scopes nodes)
      (Logged.write (reportNodes ⟨p', list.types⟩ handlers' file scopes nodes)) := by
  cases nodes with
  | nil =>
    rw [walk, reportNodes]
    exact Check.Follows.pure rfl
  | cons node rest =>
    rw [walk, reportNodes]
    refine matches_seq (matches_visit hp follow scopes node) fun later kept => ?_
    exact matches_walk (hp.mono kept) follow scopes rest

theorem matches_walkClauses {r : Progress} (hp : p.StandsFor r.names p')
    (follow : handlers.Follow handlers') (scopes : ScopePath) (catches : Catches)
    (clauses : List CatchClause) :
    Check.Matches list r (walkClauses p handlers file scopes catches clauses)
      (Logged.write
        (reportClauses ⟨p', list.types⟩ handlers' file scopes catches clauses)) := by
  cases clauses with
  | nil =>
    rw [walkClauses, reportClauses]
    exact Check.Follows.pure rfl
  | cons clause rest =>
    obtain ⟨types, body⟩ := clause
    rw [walkClauses, reportClauses]
    refine matches_seq (matches_walk hp follow _ body) fun later kept => ?_
    exact matches_walkClauses (hp.mono kept) follow scopes catches rest

theorem matches_walkFinal {r : Progress} (hp : p.StandsFor r.names p')
    (follow : handlers.Follow handlers') (scopes : ScopePath) (final : Option (List Node)) :
    Check.Matches list r (walkFinal p handlers file scopes final)
      (Logged.write (reportFinal ⟨p', list.types⟩ handlers' file scopes final)) := by
  cases final with
  | none =>
    rw [walkFinal, reportFinal]
    exact Check.Follows.pure rfl
  | some body =>
    rw [walkFinal, reportFinal]
    exact matches_walk hp follow scopes body

end

end

/-! ## Sessions -/

/-- A session has the ignored types and the handlers of a session by name. -/
structure Session.StandsFor (names : NameTable) (session : Session) (session' : Uncaught.Session) :
    Prop where
  ignored : session.ignored.StandsFor names session'.ignored
  handlers : session.handlers.Follow session'.handlers

/-- What a step of a session gives back. -/
inductive SessionAnswer where
  | file (result : FileResult)
  | batch (result : BatchResult)
  | types (types : TypeSet)
  | done
deriving DecidableEq

inductive SessionAnswer.StandsFor (names : NameTable) :
    SessionAnswer → Uncaught.SessionAnswer → Prop where
  | file (result : FileResult) : StandsFor names (.file result) (.file result)
  | batch (result : BatchResult) : StandsFor names (.batch result) (.batch result)
  | types {types : TypeSet} {types' : Uncaught.TypeSet} (h : types.StandsFor names types') :
    StandsFor names (.types types) (.types types')
  | done : StandsFor names .done .done

def Session.perform (session : Session) (p : Program) :
    SessionStep → Interning (SessionAnswer × Session)
  | .check file => do
    let (result, session) ← session.check p file
    return (.file result, session)
  | .checkAll files => do
    let (result, session) ← session.checkAll p files
    return (.batch result, session)
  | .ignoredTypes => do
    let (types, session) ← session.ignoredTypes
    return (.types types, session)
  | .reset => pure (.done, session.reset)
  | .reload config => pure (.done, session.reload config)

/-- The answers to steps in their order, and the session after them. -/
def Session.run (session : Session) (p : Program) (steps : List SessionStep) :
    Interning (List SessionAnswer × Session) :=
  steps.foldl (fun before step => do
    let (answers, session) ← before
    let (answer, session) ← session.perform p step
    return (answers ++ [answer], session)) (pure ([], session))

theorem SessionAnswer.StandsFor.mono {names later : NameTable} {answer : SessionAnswer}
    {answer' : Uncaught.SessionAnswer} (h : answer.StandsFor names answer')
    (kept : names.KeptBy later) : answer.StandsFor later answer' := by
  cases h with
  | file result => exact .file result
  | batch result => exact .batch result
  | types ht => exact .types (ht.mono kept)
  | done => exact .done

namespace Session.StandsFor

variable {names later : NameTable} {p : Program} {p' : Uncaught.Program} {session : Session}
  {session' : Uncaught.Session}

theorem mono (hs : session.StandsFor names session') (kept : names.KeptBy later) :
    session.StandsFor later session' := ⟨hs.ignored.mono kept, hs.handlers⟩

theorem ofHandlers (ignored : List String) {handlers : Handlers} {handlers' : Uncaught.Handlers}
    (follow : handlers.Follow handlers') :
    (Session.ofHandlers ignored handlers).StandsFor names
      (Uncaught.Session.ofHandlers ignored handlers') := ⟨⟨rfl, .none⟩, follow⟩

theorem ofConfig (config : Config) :
    (Session.ofConfig config).StandsFor names (Uncaught.Session.ofConfig config) :=
  ofHandlers _ (Handlers.follow_ofConfig config)

/-- The names and the session that there are when checks of a session have reported something. -/
structure IsAt (session' : Uncaught.Session) (r : Progress) (names : NameTable)
    (session : Session) : Prop where
  names : names = r.names
  ignored : session.ignored.StandsFor r.names (r.ignored session'.ignored)
  entered : r.done.askedIgnored = true → ∀ name ∈ session'.ignored.types.log, r.names.Has name
  handlers : session.handlers.Follow session'.handlers

/-- Before any check nothing has been reported. -/
theorem isAt (hs : session.StandsFor names session') : IsAt session' ⟨names, ∅⟩ names session :=
  ⟨rfl, hs.ignored, nofun, hs.handlers⟩

namespace IsAt

variable {r : Progress}

/-- When checks are over, the session stands for the one by name after them. -/
theorem standsFor (here : IsAt session' r names session) :
    session.StandsFor r.names (session'.after r.done) := by
  have ignored : (session'.after r.done).ignored = r.ignored session'.ignored :=
    apply_ite Uncaught.Session.ignored _ _ _
  have handlers : (session'.after r.done).handlers = session'.handlers := by
    unfold Uncaught.Session.after
    split <;> rfl
  constructor
  · rw [ignored]
    exact here.ignored
  · rw [handlers]
    exact here.handlers

/-- A check of one more file finds what is found by name. -/
theorem check (here : IsAt session' r names session) (hp : p.StandsFor r.names p')
    (file : SourceFile) :
    ((session.check p file).run names).1.1 =
        Uncaught.Session.fileReport file (session'.report p' file) ∧
      IsAt session' (r.write (session'.report p' file)) ((session.check p file).run names).2
        ((session.check p file).run names).1.2 := by
  obtain ⟨rfl, ignored, entered, handlers⟩ := here
  -- A file starts with the names and the list there are, and with findings of its own.
  let first : Progress := { r with done := { r.done with
    diagnostics := []
    stats := Stats.zero.add .filesChecked 1 } }
  have start : CheckState.StandsFor session'.ignored first (session.start r.names) :=
    ⟨rfl, ignored, entered, rfl, rfl⟩
  have hp : p.StandsFor first.names p' := hp
  have walked : Check.Matches session'.ignored first
      (walk p session.handlers file.path [] file.items)
      (Logged.write (reportNodes (session'.input p') session'.handlers file.path [] file.items)) :=
    matches_walk hp handlers [] file.items
  obtain ⟨left, -⟩ := walked _ start
  refine ⟨?_, left.names, left.ignored, left.entered, handlers⟩
  exact congr (congrArg (FileResult.mk file.path) left.diagnostics) left.stats

theorem checkEach (here : IsAt session' r names session) (hp : p.StandsFor r.names p')
    (files : List SourceFile) :
    ((session.checkEach p files).run names).1.1 =
        files.map (fun file => Uncaught.Session.fileReport file (session'.report p' file)) ∧
      IsAt session' (r.write (Report.concat (files.map (session'.report p'))))
        ((session.checkEach p files).run names).2 ((session.checkEach p files).run names).1.2 := by
  induction files generalizing r names session with
  | nil =>
    rw [List.map_nil, List.map_nil, Report.concat_nil, r.write_empty]
    exact ⟨rfl, here⟩
  | cons file rest ih =>
    obtain ⟨result, checked⟩ := here.check hp file
    obtain ⟨results, left⟩ := ih checked (hp.mono (r.keptBy_write _))
    rw [List.map_cons, List.map_cons, Report.concat_cons, r.write_append]
    exact ⟨congr (congrArg List.cons result) results, left⟩

end IsAt

/-! ### Steps -/

/-- An answer and a session, each standing for the other one. -/
def Pair {α β : Type} (related : NameTable → α → β → Prop) (names : NameTable) (x : α × Session)
    (y : β × Uncaught.Session) : Prop :=
  related names x.1 y.1 ∧ x.2.StandsFor names y.2

theorem follows_check (hs : session.StandsFor names session') (hp : p.StandsFor names p')
    (file : SourceFile) :
    Follows names (Pair fun _ => Eq) (session.check p file) (session'.check p' file) := by
  obtain ⟨result, left⟩ := hs.isAt.check hp file
  have report : (Progress.write ⟨names, ∅⟩ (session'.report p' file)).done =
      session'.report p' file := Report.empty_append _
  have session := left.standsFor
  rw [← left.names, report] at session
  have entered :=
    left.names.trans (congrArg (fun done : Report => names.noteAll done.mentions) report)
  exact ⟨entered, result, session⟩

theorem follows_checkAll (hs : session.StandsFor names session') (hp : p.StandsFor names p')
    (files : List SourceFile) :
    Follows names (Pair fun _ => Eq) (session.checkAll p files) (session'.checkAll p' files) := by
  obtain ⟨results, left⟩ := hs.isAt.checkEach hp files
  have whole : (Progress.write ⟨names, ∅⟩ (Report.concat (files.map (session'.report p')))).done =
      List.foldl (fun whole report => whole ++ report.2) (∅ : Report)
        (files.map fun file => (file, session'.report p' file)) := by
    rw [Uncaught.Session.foldl_reports, List.map_map]
    exact Report.empty_append _
  have session := left.standsFor
  rw [← left.names, whole] at session
  have entered :=
    left.names.trans (congrArg (fun done : Report => names.noteAll done.mentions) whole)
  refine ⟨entered, ?_, session⟩
  show BatchResult.ofFiles _ = BatchResult.ofFiles _
  rw [List.map_map]
  exact congrArg BatchResult.ofFiles results

theorem follows_ignoredTypes (hs : session.StandsFor names session') :
    Follows names (Pair TypeSet.StandsFor) session.ignoredTypes session'.ignoredTypes :=
  hs.ignored.follows_get.bind fun _ _ _ _ got => Follows.pure ⟨got.1, got.2, hs.handlers⟩

/-- A step of a session gives the answer that it gives by name, and the sessions after it stand for
each other. -/
theorem follows_perform (hs : session.StandsFor names session') (hp : p.StandsFor names p')
    (step : SessionStep) :
    Follows names (Pair SessionAnswer.StandsFor) (session.perform p step)
      (session'.perform p' step) := by
  cases step with
  | check file =>
    refine (hs.follows_check hp file).bind fun later x y _ h => Follows.pure ?_
    obtain ⟨result, session⟩ := h
    exact ⟨result ▸ .file _, session⟩
  | checkAll files =>
    refine (hs.follows_checkAll hp files).bind fun later x y _ h => Follows.pure ?_
    obtain ⟨result, session⟩ := h
    exact ⟨result ▸ .batch _, session⟩
  | ignoredTypes =>
    refine hs.follows_ignoredTypes.bind fun later x y _ h => Follows.pure ?_
    exact ⟨.types h.1, h.2⟩
  | reset => exact Follows.pure ⟨.done, ⟨hs.ignored.configured, .none⟩, hs.handlers⟩
  | reload config => exact Follows.pure ⟨.done, ofConfig config⟩

/-- The steps of a session one after the other. -/
theorem follows_run (hs : session.StandsFor names session') (hp : p.StandsFor names p')
    (steps : List SessionStep) :
    Follows names (Pair fun later => List.Forall₂ (SessionAnswer.StandsFor later))
      (session.run p steps) (session'.run p' steps) := by
  unfold Session.run Uncaught.Session.run
  refine Follows.foldl steps (fun x y step before => ?_) (Follows.pure ⟨.nil, hs⟩)
  refine before.bind fun middle a b kept h => ?_
  refine (h.2.follows_perform (hp.mono kept) step).bind fun later a' b' kept' h' => ?_
  have answers := h.1.imp fun _ _ answer => SessionAnswer.StandsFor.mono answer kept'
  exact Follows.pure ⟨List.rel_append answers (.cons h'.1 .nil), h'.2⟩

end Session.StandsFor

end Uncaught.Interned
