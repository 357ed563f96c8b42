import Uncaught.Check.Session
import Uncaught.Codebase
import Uncaught.Proofs.Violations
import Uncaught.Proofs.Walk

/-!
Routines are checked in isolation.

The contract checks read the scopes of a site in two ways only: they ask for the innermost routine,
and for the clauses of the try statements within it. Both stop at the first step that enters a
routine, so nothing beyond that step matters (`Handler.IsLocal`, `ScopePath.clauses_append`). From
there the walk below a routine does not depend on where the routine stands (`reportNode_append`, by
induction over nodes with any scopes outside), and what is left while a routine is visited somewhere
in a file is what a file holding only the routine leaves.
-/
namespace Uncaught

variable {input : CheckInput} {handlers : Handlers} {file : String} {inner outer : ScopePath}

/-! ## What handlers read of the scopes -/

/-- A handler that reads of the scopes of a site only the clauses within its routine. -/
def Handler.IsLocal (handler : Handler) : Prop :=
  ∀ input site scopes, ScopePath.clauses scopes = ScopePath.clauses site.scopes →
    handler input { site with scopes } = handler input site

/-- One of the handlers that check contracts. -/
def Handler.IsContractCheck (handler : Handler) : Prop :=
  handler = checkThrow ∨ handler = checkCall ∨ handler = checkMethodCall ∨
    handler = checkStaticCall

section

variable {site : Site} {scopes : ScopePath}

theorem reportThrown_congr (same : ScopePath.clauses scopes = ScopePath.clauses site.scopes) :
    reportThrown input { site with scopes } = reportThrown input site := by
  funext candidates invoked
  unfold reportThrown
  rw [same]
  rfl

theorem checkTarget_congr (same : ScopePath.clauses scopes = ScopePath.clauses site.scopes) :
    checkTarget input { site with scopes } = checkTarget input site := by
  funext target
  unfold checkTarget
  rw [reportThrown_congr same]

end

theorem Handler.IsContractCheck.isLocal {handler : Handler} (h : handler.IsContractCheck) :
    handler.IsLocal := by
  intro input site scopes same
  rcases h with rfl | rfl | rfl | rfl
  · unfold checkThrow
    rw [reportThrown_congr same]
  · unfold checkCall
    rw [checkTarget_congr same]
  · unfold checkMethodCall checkMethod
    rw [checkTarget_congr same]
  · unfold checkStaticCall checkMethod
    rw [checkTarget_congr same]

namespace ScopePath

theorem routine?_append (enters : (routine? inner).isSome) :
    routine? (inner ++ outer) = routine? inner := by
  rw [routine?, List.findSome?_append]
  exact Option.or_of_isSome enters

/-- Clauses beyond the innermost routine do not count. -/
theorem clauses_append (enters : (routine? inner).isSome) :
    clauses (inner ++ outer) = clauses inner := by
  suffices same : tries (inner ++ outer) = tries inner by rw [clauses, clauses, same]
  induction inner with
  | nil => cases enters
  | cons step inner ih =>
    rw [List.cons_append, tries_cons, tries_cons]
    cases step with
    | inRoutine f => rfl
    | _ => exact congrArg _ (ih enters)

end ScopePath

/-! ## The walk below a routine -/

/-- Below a routine the walk does not depend on the scopes outside it. -/
theorem reportNode_append (checks : ∀ kind handler, handlers.handler? kind = some handler →
      handler.IsLocal) (node : Node) (enters : (ScopePath.routine? inner).isSome) :
    reportNode input handlers file (inner ++ outer) node =
      reportNode input handlers file inner node := by
  induction node using Node.inductionOn generalizing inner with
  | step node ih =>
    have site : node.siteReport input handlers file (inner ++ outer) =
        node.siteReport input handlers file inner := by
      unfold Node.siteReport reportSite
      rw [ScopePath.routine?_append enters]
      cases node.event? with
      | none => rfl
      | some event =>
        obtain ⟨position, action⟩ := event
        obtain ⟨f, hf⟩ := Option.isSome_iff_exists.1 enters
        cases hh : handlers.handler? action.kind with
        | none => simp [hh]
        | some handler =>
          have same := checks _ handler hh input ⟨action, inner, file, f, position⟩
            (inner ++ outer) (ScopePath.clauses_append enters)
          simp only [hh, hf]
          exact congrArg Logged.log same
    -- The scopes only grow on the way down, so there is still a routine among the inner ones.
    rw [reportNode_eq, reportNode_eq, site]
    refine congrArg (node.entryReport ++ Report.concat · ++ _) ?_
    apply List.map_congr_left
    intro child hc
    rw [← List.append_assoc]
    refine ih child hc ?_
    rw [ScopePath.routine?_step]
    cases child.1.bind ScopeStep.routine? with
    | none => exact enters
    | some f => rfl

/-- What is left while a routine is visited does not depend on where it stands. -/
theorem reportNode_routine (checks : ∀ kind handler, handlers.handler? kind = some handler →
      handler.IsLocal) (scopes : ScopePath) (f : Routine) (body : List Node) :
    reportNode input handlers file scopes (.routine f body) =
      reportNode input handlers file [] (.routine f body) := by
  rw [reportNode_eq, reportNode_eq]
  refine congrArg (Report.routines 1 ++ Report.concat · ++ ∅) ?_
  apply List.map_congr_left
  intro child hc
  obtain ⟨node, -, rfl⟩ := List.mem_map.1 hc
  show reportNode input handlers file ([.inRoutine f] ++ scopes) node =
    reportNode input handlers file ([.inRoutine f] ++ []) node
  rw [reportNode_append checks node rfl, reportNode_append checks node rfl]

/-! ## The visit of a node within the walk over its file -/

theorem Report.concat_around {α : Type} {xs : List α} {x : α} (h : x ∈ xs) (part : α → Report) :
    ∃ before after, concat (xs.map part) = before ++ part x ++ after := by
  obtain ⟨ys, zs, rfl⟩ := List.append_of_mem h
  refine ⟨concat (ys.map part), concat (zs.map part), ?_⟩
  rw [List.map_append, List.map_cons, concat_append, concat_cons, append_assoc]

/-- The walk over a node contains that over any node below it. -/
theorem Node.exists_reportNode_around {node : Node} {above : List (Node × Option ScopeStep)}
    {place : Place} {o : Occurrence} (h : node.at? above place = some o) :
    ∃ before after, reportNode input handlers file (Occurrence.scopes ⟨node, above⟩) node =
      before ++ reportNode input handlers file o.scopes o.node ++ after := by
  induction place generalizing node above with
  | nil =>
    cases h
    exact ⟨∅, ∅, by rw [Report.append_empty, Report.empty_append]⟩
  | cons i place ih =>
    obtain ⟨child, hc, ho⟩ := Option.bind_eq_some_iff.1 h
    obtain ⟨before, after, hb⟩ := ih ho
    obtain ⟨front, back, hf⟩ := Report.concat_around (List.mem_of_getElem? hc) fun child =>
      reportNode input handlers file (child.1.toList ++ Occurrence.scopes ⟨node, above⟩) child.2
    rw [Occurrence.scopes_cons node] at hb
    refine ⟨node.entryReport ++ (front ++ before),
      after ++ (back ++ node.siteReport input handlers file (Occurrence.scopes ⟨node, above⟩)), ?_⟩
    rw [reportNode_eq, hf, hb]
    simp only [Report.append_assoc]

/-- The walk over a file contains that over the node at any of its places. -/
theorem SourceFile.exists_reportNode_around {file : SourceFile} {place : Place} {o : Occurrence}
    (h : file.at? place = some o) :
    ∃ before after, reportFile input handlers file =
      before ++ reportNode input handlers file.path o.scopes o.node ++ after := by
  cases place with
  | nil => cases h
  | cons i place =>
    obtain ⟨item, hi, ho⟩ := Option.bind_eq_some_iff.1 h
    obtain ⟨before, after, hb⟩ := Node.exists_reportNode_around ho
    obtain ⟨front, back, hf⟩ := Report.concat_around (List.mem_of_getElem? hi)
      (reportNode input handlers file.path [])
    refine ⟨Report.ofStats (Stats.zero.add .filesChecked 1) ++ (front ++ before),
      after ++ back, ?_⟩
    have hb : reportNode input handlers file.path [] item = _ := hb
    rw [reportFile, reportNodes_eq, hf, hb]
    simp only [Report.append_assoc]
    rfl

/-! ## A routine alone in its file -/

/-- **A routine is checked in isolation.** Let a session have no handlers but those that check
contracts, for whatever kinds of sites. Wherever a routine stands in a file, the walk over the file
contains the visit of the routine, and this visit leaves the diagnostics and adds to the counters
what the check of a file of the same path does whose only item is the routine. The number of files
alone is not part of a visit. -/
theorem routine_checked_in_isolation (session : Session)
    (checks : ∀ kind handler, session.handlers.handler? kind = some handler →
      handler.IsContractCheck)
    (program : Program) (file : SourceFile) {place : Place} {o : Occurrence} {f : Routine}
    {body : List Node} (stands : file.at? place = some o) (routine : o.node = .routine f body) :
    let visit := reportNode (session.input program) session.handlers file.path o.scopes o.node
    let alone := (session.check program ⟨file.path, [.routine f body]⟩).value.1
    (∃ before after, session.report program file = before ++ visit ++ after) ∧
    visit.diagnostics = alone.diagnostics ∧
    (∀ counter, counter ≠ .filesChecked → visit.stats.get counter = alone.stats.get counter) ∧
    visit.stats.abstentions = alone.stats.abstentions := by
  intro visit alone
  -- Alone in its file the routine stands in no scope, and its visit is the same there.
  have isolated : session.report program ⟨file.path, [.routine f body]⟩ =
      Report.ofStats (Stats.zero.add .filesChecked 1) ++ visit := by
    have unplaced : visit = reportNode (session.input program) session.handlers file.path []
        (.routine f body) := by
      show reportNode _ _ _ o.scopes o.node = _
      rw [routine]
      exact reportNode_routine (fun kind handler h => (checks kind handler h).isLocal) _ f body
    rw [unplaced, Session.report, reportFile, reportNodes_eq, List.map_singleton,
      Report.concat_cons, Report.concat_nil, Report.append_empty]
    rfl
  have found : alone = Session.fileReport ⟨file.path, [.routine f body]⟩
      (Report.ofStats (Stats.zero.add .filesChecked 1) ++ visit) := by
    rw [← isolated]
    rfl
  rw [found]
  refine ⟨SourceFile.exists_reportNode_around stands, rfl, fun counter other => ?_, ?_⟩
  · show visit.stats.get counter = (Stats.merge _ visit.stats).get counter
    rw [Stats.get_merge]
    cases counter with
    | filesChecked => exact absurd rfl other
    | _ => exact (Nat.zero_add _).symm
  · exact (AbstentionCounts.zero_merge _).symm

theorem Handlers.isContractCheck_ofConfig (config : Config) (kind : SiteKind) (handler : Handler)
    (h : (ofConfig config).handler? kind = some handler) : handler.IsContractCheck := by
  rw [eq_check_of_ofConfig h]
  cases kind with
  | throw => exact .inl rfl
  | call => exact .inr (.inl rfl)
  | methodCall => exact .inr (.inr (.inl rfl))
  | staticCall => exact .inr (.inr (.inr rfl))

namespace ThrowerInTry

def thrower : Node := .routine ⟨"inner", .closure, none⟩ [.throw ⟨4, 0⟩ (.new "Exc")]

/-- The closure is handed to a call, in a try statement that catches what it throws, in a function
that declares it. -/
def source : SourceFile where
  path := "a"
  items := [.routine ⟨"outer", .function, none⟩
    [.tryCatch [.call ⟨3, 0⟩ (.function .unknown) [thrower]] [.mk ["Exc"] []] none]]

def program : Program := (Codebase.ofDeclarations [.function "outer" (some "Exc")]).program

def session : Session := Session.ofConfig ⟨some true, []⟩

/-- Neither the clause nor the declaration around the closure keeps its violation from being
reported. -/
theorem thrower_checked_in_isolation :
    ∃ o, source.at? [0, 0, 0, 0] = some o ∧ o.node = thrower ∧
      (reportNode (session.input program) session.handlers "a" o.scopes o.node).diagnostics =
        (session.check program ⟨"a", [thrower]⟩).value.1.diagnostics ∧
      (session.check program ⟨"a", [thrower]⟩).value.1.diagnostics =
        [⟨.absent, "a", 4, 0, "inner", "Exc", none, none⟩] := by
  have stands : source.at? [0, 0, 0, 0] = some ⟨thrower, _⟩ := rfl
  have isolated := routine_checked_in_isolation session
    (Handlers.isContractCheck_ofConfig ⟨some true, []⟩) program source stands rfl
  exact ⟨_, stands, rfl, isolated.2.1, by decide +kernel⟩

end ThrowerInTry

end Uncaught
