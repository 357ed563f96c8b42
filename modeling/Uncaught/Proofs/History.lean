import Mathlib.Data.List.Induction
import Uncaught.Codebase
import Uncaught.Proofs.Inquiry

/-!
Sessions answer as if they were new.

A session remembers one thing: the ignored types, once they have been parsed. A run takes a session
through steps in any order, and what is in force after it are the texts and the handlers of the last
reload, or those the session was built from (`SessionOrigin.inForce`). One step keeps the
invariant that the session has just these texts and handlers, and types, if any, that are parsed
from just these texts (`Session.IsUnder`); so every run keeps it. From there two things follow. What
a step answers is what a new session would answer, and the types are there exactly if they were
asked for since they were last forgotten.
-/
namespace Uncaught

/-- How a session is built. -/
inductive SessionOrigin where
  /-- From a configuration. -/
  | configured (config : Config)
  /-- From the texts of the ignored types and a table of handlers. -/
  | custom (ignored : List String) (handlers : Handlers)

inductive SessionStep where
  | check (file : SourceFile)
  | checkAll (files : List SourceFile)
  | ignoredTypes
  | reset
  | reload (config : Config)

/-- What a step gives back. -/
inductive SessionAnswer where
  | file (result : FileResult)
  | batch (result : BatchResult)
  | types (types : TypeSet)
  | done
deriving DecidableEq

namespace SessionOrigin

/-- The session that has just been built. -/
def session : SessionOrigin → Session
  | .configured config => Session.ofConfig config
  | .custom ignored handlers => Session.ofHandlers ignored handlers

/-- What is in force after one more step. -/
def next (origin : SessionOrigin) : SessionStep → SessionOrigin
  | .reload config => .configured config
  | _ => origin

/-- What is in force after steps: the last configuration that was loaded. -/
def inForce (origin : SessionOrigin) (steps : List SessionStep) : SessionOrigin :=
  steps.foldl next origin

end SessionOrigin

namespace Session

def perform (session : Session) (p : Program) : SessionStep → Noted (SessionAnswer × Session)
  | .check file => do
    let (result, session) ← session.check p file
    return (.file result, session)
  | .checkAll files => do
    let (result, session) ← session.checkAll p files
    return (.batch result, session)
  | .ignoredTypes => do
    let (types, session) ← session.ignoredTypes
    return (.types types, session)
  | .reset => pure (.done, session.reset)
  | .reload config => pure (.done, session.reload config)

/-- The answers to steps in their order, and the session after them. -/
def run (session : Session) (p : Program) (steps : List SessionStep) :
    Noted (List SessionAnswer × Session) :=
  steps.foldl (fun before step => do
    let (answers, session) ← before
    let (answer, session) ← session.perform p step
    return (answers ++ [answer], session)) (pure ([], session))

/-- The session after steps. -/
def afterSteps (session : Session) (p : Program) (steps : List SessionStep) : Session :=
  (session.run p steps).value.2

theorem value_run_append_singleton (session : Session) (p : Program) (before : List SessionStep)
    (step : SessionStep) :
    (session.run p (before ++ [step])).value =
      let (answers, session) := (session.run p before).value
      (answers ++ [(session.perform p step).value.1], (session.perform p step).value.2) := by
  rw [run, List.foldl_append]
  rfl

end Session

/-! ## When the ignored types are asked for -/

/-- One of the handlers that are called for a file asks about the ignored types. -/
def SourceFile.Asks (p : Program) (session : Session) (file : SourceFile) : Prop :=
  ∃ i ∈ file.invocations session.handlers, (i.1 (session.input p) i.2).log.askedIgnored = true

namespace SessionStep

/-- In a step the ignored types are asked for, by the caller or by a handler. -/
def Asks (p : Program) (session : Session) : SessionStep → Prop
  | .check file => file.Asks p session
  | .checkAll files => ∃ file ∈ files, file.Asks p session
  | .ignoredTypes => True
  | .reset | .reload _ => False

/-- A step makes the session forget its ignored types. -/
def Forgets : SessionStep → Prop
  | .reset | .reload _ => True
  | _ => False

end SessionStep

/-- The ignored types were asked for in a step of a run, and not forgotten since. -/
def SessionOrigin.AskedSince (origin : SessionOrigin) (p : Program) (steps : List SessionStep) :
    Prop :=
  ∃ before step after, steps = before ++ step :: after ∧
    step.Asks p (origin.session.afterSteps p before) ∧ ∀ later ∈ after, ¬ later.Forgets

/-! ## The invariant -/

/-- A session has the texts and handlers that are in force, and no types but those of the texts. -/
structure Session.IsUnder (session : Session) (origin : SessionOrigin) : Prop where
  configured : session.ignored.configured = origin.session.ignored.configured
  handlers : session.handlers = origin.session.handlers
  parsed : session.ignored.parsed = none ∨
    session.ignored.parsed =
      some (parseIgnored TypeSet.empty origin.session.ignored.configured).value

namespace Session

variable {session : Session} {origin : SessionOrigin} {p : Program}

theorem isUnder_session (origin : SessionOrigin) : origin.session.IsUnder origin where
  configured := rfl
  handlers := rfl
  parsed := by cases origin <;> exact .inl rfl

namespace IsUnder

theorem value_types (under : session.IsUnder origin) :
    session.ignored.types.value =
      (parseIgnored TypeSet.empty origin.session.ignored.configured).value := by
  rw [IgnoredTypes.types]
  rcases under.parsed with parsed | parsed
  · rw [parsed, under.configured]
  · rw [parsed]
    rfl

theorem initialized (under : session.IsUnder origin) : session.initialized.IsUnder origin where
  configured := under.configured
  handlers := under.handlers
  parsed := .inr (congrArg some under.value_types)

theorem after (under : session.IsUnder origin) (report : Report) :
    (session.after report).IsUnder origin := by
  rw [Session.after]
  split
  · exact under.initialized
  · exact under

/-- One step keeps the session under what is in force. -/
theorem perform (under : session.IsUnder origin) (p : Program) (step : SessionStep) :
    (session.perform p step).value.2.IsUnder (origin.next step) := by
  cases step with
  | check file => exact under.after _
  | checkAll files => exact under.after _
  | ignoredTypes => exact under.initialized
  | reset => exact ⟨under.configured, under.handlers, .inl rfl⟩
  | reload config => exact isUnder_session (.configured config)

end IsUnder

theorem isUnder_afterSteps (origin : SessionOrigin) (p : Program) (steps : List SessionStep) :
    (origin.session.afterSteps p steps).IsUnder (origin.inForce steps) := by
  induction steps using List.reverseRecOn with
  | nil => exact isUnder_session origin
  | append_singleton before step ih =>
    rw [afterSteps, value_run_append_singleton, SessionOrigin.inForce, List.foldl_append]
    exact ih.perform p step

/-! ## The types that have been asked for -/

theorem isInitialized_after (session : Session) (report : Report) :
    (session.after report).ignored.isInitialized = true ↔
      report.askedIgnored = true ∨ session.ignored.isInitialized = true := by
  rw [after]
  cases report.askedIgnored with
  | true => exact iff_of_true rfl (.inl rfl)
  | false => exact (or_iff_right Bool.false_ne_true).symm

theorem foldl_reports (xs : List (SourceFile × Report)) :
    xs.foldl (fun whole x => whole ++ x.2) (∅ : Report) = Report.concat (xs.map (·.2)) := by
  induction xs using List.reverseRecOn with
  | nil => rfl
  | append_singleton xs x ih =>
    rw [List.foldl_append, ih, List.map_append, Report.concat_append]
    show Report.concat _ ++ x.2 = _ ++ (x.2 ++ ∅)
    rw [Report.append_empty]

theorem askedIgnored_report (session : Session) (p : Program) (file : SourceFile) :
    (session.report p file).askedIgnored = true ↔ file.Asks p session :=
  askedIgnored_reportFile file

/-- After a step the types are there if they were asked for in it, or were there and are not
forgotten. -/
theorem isInitialized_perform (session : Session) (p : Program) (step : SessionStep) :
    (session.perform p step).value.2.ignored.isInitialized = true ↔
      step.Asks p session ∨ ¬ step.Forgets ∧ session.ignored.isInitialized = true := by
  cases step with
  | check file =>
    refine (isInitialized_after _ _).trans ?_
    rw [askedIgnored_report]
    exact or_congr_right (and_iff_right not_false).symm
  | checkAll files =>
    refine (isInitialized_after _ _).trans ?_
    rw [foldl_reports, Report.askedIgnored_concat, List.map_map, List.any_map, List.any_eq_true]
    refine or_congr (exists_congr fun file => and_congr_right fun _ => ?_)
      (and_iff_right not_false).symm
    exact askedIgnored_report session p file
  | ignoredTypes => exact iff_of_true rfl (.inl trivial)
  | reset => exact iff_of_false Bool.false_ne_true (by simp [SessionStep.Asks, SessionStep.Forgets])
  | reload config =>
    exact iff_of_false Bool.false_ne_true (by simp [SessionStep.Asks, SessionStep.Forgets])

end Session

namespace SessionOrigin

variable {origin : SessionOrigin} {p : Program}

theorem askedSince_append_singleton {before : List SessionStep} {step : SessionStep} :
    origin.AskedSince p (before ++ [step]) ↔
      step.Asks p (origin.session.afterSteps p before) ∨
        ¬ step.Forgets ∧ origin.AskedSince p before := by
  constructor
  · intro h
    obtain ⟨front, asker, after, split, asks, kept⟩ := h
    rcases List.eq_nil_or_concat after with rfl | ⟨after, last, rfl⟩
    · -- The last step asks itself.
      obtain ⟨rfl, same⟩ := List.append_inj' split rfl
      obtain rfl : step = asker := List.singleton_inj.1 same
      exact .inl asks
    · -- An earlier step asks, and the last one does not forget.
      rw [List.concat_eq_append] at split kept
      rw [← List.cons_append, ← List.append_assoc] at split
      obtain ⟨rfl, same⟩ := List.append_inj' split rfl
      obtain rfl : step = last := List.singleton_inj.1 same
      refine .inr ⟨kept step (by simp), front, asker, after, rfl, asks, ?_⟩
      intro later member
      exact kept later (by simp [member])
  · intro h
    rcases h with asks | ⟨keeps, front, asker, after, rfl, asks, kept⟩
    · exact ⟨before, step, [], rfl, asks, fun _ member => absurd member List.not_mem_nil⟩
    · refine ⟨front, asker, after ++ [step], by simp, asks, ?_⟩
      intro later member
      rcases List.mem_append.1 member with member | member
      · exact kept later member
      · rwa [List.mem_singleton.1 member]

theorem isInitialized_afterSteps (origin : SessionOrigin) (p : Program)
    (steps : List SessionStep) :
    (origin.session.afterSteps p steps).ignored.isInitialized = true ↔
      origin.AskedSince p steps := by
  induction steps using List.reverseRecOn with
  | nil =>
    have new : origin.session.ignored.isInitialized = false := by cases origin <;> rfl
    refine iff_of_false (ne_true_of_eq_false new) ?_
    intro h
    obtain ⟨before, step, after, empty, -⟩ := h
    simp at empty
  | append_singleton before step ih =>
    rw [Session.afterSteps, Session.value_run_append_singleton, askedSince_append_singleton, ← ih]
    exact Session.isInitialized_perform _ p step

end SessionOrigin

/-! ## Answers -/

namespace Session

variable {session : Session} {origin : SessionOrigin} {p : Program}

theorem fileReport_congr {a b : Report} (same : a.findings = b.findings) (file : SourceFile) :
    fileReport file a = fileReport file b := by
  show FileResult.mk _ a.findings.diagnostics a.findings.stats = FileResult.mk _ _ _
  rw [same]
  rfl

/-- What is found in a file depends on the handlers and on the ignored types, and not on whether these
have been parsed before. -/
theorem findings_report_congr {other : Session} (inquire : session.handlers.Inquire)
    (handlers : other.handlers = session.handlers)
    (types : other.ignored.types.value = session.ignored.types.value) (file : SourceFile) :
    (other.report p file).findings = (session.report p file).findings := by
  obtain ⟨inquiry, runs⟩ := inquires_reportFile (p := p) inquire file
  have log (ignored : Noted TypeSet) :
      reportFile ⟨p, ignored⟩ session.handlers file = (inquiry.run ⟨p, ignored⟩).log :=
    congrArg Logged.log (runs ignored)
  rw [report, handlers, report, input, input, log, log]
  exact (Inquiry.findings_run_congr types inquiry).2

/-- A file is reported as in a new session. -/
theorem IsUnder.findings_report (under : session.IsUnder origin)
    (inquire : origin.session.handlers.Inquire) (file : SourceFile) :
    (session.report p file).findings = (origin.session.report p file).findings :=
  findings_report_congr inquire under.handlers
    (under.value_types.trans (isUnder_session origin).value_types.symm) file

/-- A step answers as in a new session. -/
theorem IsUnder.answer (under : session.IsUnder origin)
    (inquire : origin.session.handlers.Inquire) (step : SessionStep) :
    (session.perform p step).value.1 = (origin.session.perform p step).value.1 := by
  have reports (file : SourceFile) :
      fileReport file (session.report p file) = fileReport file (origin.session.report p file) :=
    fileReport_congr (under.findings_report inquire file) file
  cases step with
  | check file => exact congrArg SessionAnswer.file (reports file)
  | checkAll files =>
    show SessionAnswer.batch (BatchResult.ofFiles _) = SessionAnswer.batch (BatchResult.ofFiles _)
    rw [List.map_map, List.map_map]
    exact congrArg (SessionAnswer.batch ∘ BatchResult.ofFiles)
      (List.map_congr_left fun file _ => reports file)
  | ignoredTypes =>
    exact congrArg SessionAnswer.types
      (under.value_types.trans (isUnder_session origin).value_types.symm)
  | reset => rfl
  | reload config => rfl

end Session

/-- What checks of files leave does not depend on when the list of ignored types is parsed. Let them
ask one question after the other, and let the first question have the list parsed, wherever in the
files it is asked: their findings are those of a check that has the types from the start, and
the list is left as the session keeps it. -/
theorem Session.checkAll_asks_in_turn (session : Session) (inquire : session.handlers.Inquire)
    (p : Program) (files : List SourceFile) :
    ∃ inquiry : Inquiry Unit,
      (∀ ignored, Report.concat (files.map (reportFile ⟨p, ignored⟩ session.handlers)) =
        (inquiry.run ⟨p, ignored⟩).log) ∧
      (inquiry.runFrom p session.ignored).1.log.findings =
        (Report.concat (files.map (session.report p))).findings ∧
      (inquiry.runFrom p session.ignored).2 = (session.checkAll p files).value.2.ignored := by
  obtain ⟨inquiry, runs⟩ := Inquires.forM (p := p) files fun file _ =>
    inquires_reportFile inquire file
  have log (ignored : Noted TypeSet) :
      Report.concat (files.map (reportFile ⟨p, ignored⟩ session.handlers)) =
        (inquiry.run ⟨p, ignored⟩).log :=
    (Check.log_forM files _).symm.trans (congrArg Logged.log (runs ignored))
  obtain ⟨⟨-, findings⟩, kept⟩ := Inquiry.findings_runFrom (p := p) inquiry session.ignored
  refine ⟨inquiry, log, ?_, ?_⟩
  · rw [findings, ← log]
    rfl
  · rw [kept, ← log]
    show _ = (session.after (List.foldl _ ∅ _)).ignored
    rw [foldl_reports, List.map_map, after, apply_ite Session.ignored]
    rfl

theorem SessionOrigin.inquire_inForce {origin : SessionOrigin}
    (inquire : origin.session.handlers.Inquire) (steps : List SessionStep) :
    (origin.inForce steps).session.handlers.Inquire := by
  induction steps generalizing origin with
  | nil => exact inquire
  | cons step steps ih =>
    apply ih
    cases step with
    | reload config => exact Handlers.inquire_ofConfig config
    | _ => exact inquire

/-- **Sessions answer as if they were new.** Take a session that was built in any way, with handlers
that learn of the ignored types only by asking, through steps in any order. Then its ignored types
are not there, or they are those that the texts in force write; they are there exactly if they were
asked for in a step and not forgotten since; and the next step answers what it would answer in a new
session with the texts and handlers in force. The names that the steps have spelled out in the
codebase do not matter. -/
theorem session_answers_as_new (c : Codebase) (origin : SessionOrigin)
    (inquire : origin.session.handlers.Inquire) (steps : List SessionStep) :
    let ((_, session), grown) := c.ask (origin.session.run c.program steps)
    let new := (origin.inForce steps).session
    (session.ignored.parsed = none ∨
      session.ignored.parsed = some (parseIgnored TypeSet.empty new.ignored.configured).value) ∧
    (session.ignored.isInitialized = true ↔ origin.AskedSince c.program steps) ∧
    session.ignored.configured = new.ignored.configured ∧ session.handlers = new.handlers ∧
    ∀ step, (session.perform grown.program step).value.1 = (new.perform c.program step).value.1 := by
  have under := Session.isUnder_afterSteps origin c.program steps
  exact ⟨under.parsed, SessionOrigin.isInitialized_afterSteps origin c.program steps,
    under.configured, under.handlers, under.answer (SessionOrigin.inquire_inForce inquire steps)⟩

namespace ReloadedSession

def codebase : Codebase := Codebase.ofDeclarations [.classLike "Child" ["Base"]]

def source : SourceFile where
  path := "a"
  items := [.routine ⟨"f", .function, none⟩
    [.throw ⟨2, 0⟩ (.new "Child"), .throw ⟨3, 0⟩ (.new "Other")]]

def probes : Handlers :=
  (((Handlers.empty.register .throw countNotIgnored).register .call showSite).register
    .methodCall countUnknown).register .staticCall giveUp

/-- The session starts with probes in place of the contract checks. -/
def origin : SessionOrigin := .custom ["Other"] probes

/-- The types are asked for by a handler, forgotten, replaced, and asked for by a handler again. -/
def steps : List SessionStep :=
  [.check source, .reset, .checkAll [source], .reload ⟨none, ["", "Base", "A|"]⟩, .check source]

theorem inquire_probes : probes.Inquire := by
  intro kind handler found
  cases kind with
  | throw =>
    cases found
    exact inquires_countNotIgnored
  | call =>
    cases found
    exact inquires_showSite
  | methodCall =>
    cases found
    exact fun _ _ => Inquires.const Check.unknownType rfl
  | staticCall =>
    cases found
    exact fun _ _ => Inquires.const (Check.abstain .ambiguous) rfl

theorem reloaded_answers_as_new :
    probes.Inquire ∧ origin.AskedSince codebase.program steps ∧
      ((origin.session.afterSteps codebase.program steps).perform codebase.program
        (.check source)).value.1 =
          .file ⟨"a", [⟨.absent, "a", 3, 0, "f", "Other", none, none⟩],
            { Stats.zero with filesChecked := 1, functionsVisited := 1, throwSites := 2,
                              diagnostics := 1 }⟩ := by
  have new := session_answers_as_new codebase origin inquire_probes steps
  refine ⟨inquire_probes, new.2.1.1 ?_, (new.2.2.2.2 (.check source)).trans ?_⟩
  · decide +kernel
  · decide +kernel

end ReloadedSession

end Uncaught
