import Uncaught.Proofs.Occurrence
import Uncaught.Proofs.Report

/-!
The walk over a file as a list of visits.

The walk is one recursion over nodes, clauses and bodies, which takes the scopes along on the way
down. `reportNode_eq` folds it into one equation: the report of a node is that of entering it, then
those of its children in their order, each with the step of scope that leads to it, and then that of
the site the node is. With that equation an induction over nodes gives the main statement,
`reportFile_eq`: the report of a file counts the file and its routines, and for the rest
puts one after the other what the handlers leave at the sites of the file's places.
-/
namespace Uncaught

variable {input : CheckInput} {handlers : Handlers} {file : String} {scopes : ScopePath}

/-! ## One equation for the walk -/

/-- The report that some routines have been entered. -/
def Report.routines (n : Nat) : Report := ofStats (Stats.zero.add .functionsVisited n)

/-- The report of entering a node: routines are counted. -/
def Node.entryReport (node : Node) : Report :=
  Report.routines (if node.definition?.isSome then 1 else 0)

/-- The report of the site that a node is, if it is one. -/
def Node.siteReport (input : CheckInput) (handlers : Handlers) (file : String)
    (scopes : ScopePath) (node : Node) : Report :=
  match node.event? with
  | some (position, action) => reportSite input handlers file scopes position action
  | none => ∅

theorem reportNodes_eq (nodes : List Node) :
    reportNodes input handlers file scopes nodes =
      Report.concat (nodes.map (reportNode input handlers file scopes)) := by
  induction nodes with
  | nil => rw [reportNodes]; rfl
  | cons node rest ih => rw [reportNodes, ih]; rfl

theorem reportClauses_eq (catches : Catches) (clauses : List CatchClause) :
    reportClauses input handlers file scopes catches clauses =
      Report.concat (clauses.map fun clause =>
        reportNodes input handlers file (.inCatch catches clause.types :: scopes) clause.body) := by
  induction clauses with
  | nil => rw [reportClauses]; rfl
  | cons clause rest ih =>
    obtain ⟨types, body⟩ := clause
    rw [reportClauses, ih]
    rfl

theorem reportFinal_eq (final : Option (List Node)) :
    reportFinal input handlers file scopes final =
      reportNodes input handlers file scopes (final.getD []) := by
  cases final with
  | none => rw [reportFinal, reportNodes_eq]; rfl
  | some body => rw [reportFinal]; rfl

/-- The report of a node from those of its children. -/
theorem reportNode_eq (node : Node) :
    reportNode input handlers file scopes node =
      node.entryReport ++
        Report.concat (node.children.map fun child =>
          reportNode input handlers file (child.1.toList ++ scopes) child.2) ++
        node.siteReport input handlers file scopes := by
  -- Every part of a node is a body, entered with one step or none.
  have part (step : Option ScopeStep) (body : List Node) :
      reportNodes input handlers file (step.toList ++ scopes) body =
        Report.concat ((body.map (step, ·)).map fun child =>
          reportNode input handlers file (child.1.toList ++ scopes) child.2) := by
    rw [reportNodes_eq, List.map_map]
    rfl
  cases node with
  | routine f body =>
    rw [reportNode]
    show Report.routineEntered ++ reportNodes input handlers file _ body = _ ++ ∅
    rw [Report.append_empty]
    exact congrArg (Report.routineEntered ++ ·) (part (some (.inRoutine f)) body)
  | block body =>
    rw [reportNode]
    show _ = ∅ ++ _ ++ ∅
    rw [Report.append_empty, Report.empty_append]
    exact part none body
  | tryCatch body clauses final =>
    rw [reportNode]
    show _ = ∅ ++ _ ++ ∅
    simp only [reportClauses_eq, reportFinal_eq, Report.append_empty, Report.empty_append,
      Node.children, List.map_append, List.map_flatMap, Report.concat_append,
      Report.concat_flatMap]
    refine congr (congrArg _ (congr (congrArg _ (part (some (.inTry _)) body)) ?_))
      (part (some (.inFinally _)) (final.getD []))
    exact congrArg Report.concat
      (List.map_congr_left fun clause _ => part (some (.inCatch _ clause.types)) clause.body)
  | throw position thrown =>
    rw [reportNode]
    exact (Report.empty_append _).symm
  | call position c arguments =>
    rw [reportNode]
    show _ = ∅ ++ _ ++ _
    rw [Report.empty_append]
    exact congrArg (· ++ reportSite input handlers file scopes position (.call c))
      (part none arguments)

/-! ## The walk as a list of visits -/

/-- The report of one visit: entering a routine is counted, and a site is handled. -/
def Occurrence.report (input : CheckInput) (handlers : Handlers) (file : String)
    (o : Occurrence) : Report :=
  o.node.entryReport ++ o.node.siteReport input handlers file o.scopes

/-- The report of a node is that of the visits to the nodes below it and then to itself. -/
theorem reportNode_eq_visits (node : Node) (above : List (Node × Option ScopeStep)) :
    reportNode input handlers file (Occurrence.scopes ⟨node, above⟩) node =
      Report.concat ((node.occurrences above).map (Occurrence.report input handlers file)) := by
  induction node using Node.inductionOn generalizing above with
  | step node ih =>
    have below : (node.children.map fun child =>
          reportNode input handlers file
            (child.1.toList ++ Occurrence.scopes ⟨node, above⟩) child.2) =
        node.children.map fun child => Report.concat
          ((child.2.occurrences ((node, child.1) :: above)).map
            (Occurrence.report input handlers file)) := by
      apply List.map_congr_left
      intro child hc
      rw [← ih child hc, Occurrence.scopes_cons node]
    rw [reportNode_eq, below, Node.occurrences_eq, List.map_append, List.map_flatMap,
      Report.concat_append, Report.concat_flatMap, List.map_singleton, Report.concat_cons,
      Report.concat_nil, Report.append_empty, Occurrence.report]
    -- The routine is counted when it is entered, but counting may wait until it is left.
    rw [Node.entryReport, Report.routines, Report.ofStats_append_comm, Report.append_assoc]

theorem reportFile_eq_visits (file : SourceFile) :
    reportFile input handlers file =
      Report.ofStats (Stats.zero.add .filesChecked 1) ++
        Report.concat (file.occurrences.map (Occurrence.report input handlers file.path)) := by
  rw [SourceFile.occurrences_eq, List.map_flatMap, Report.concat_flatMap, reportFile,
    reportNodes_eq]
  refine congrArg (Report.ofStats _ ++ ·) (congrArg Report.concat ?_)
  exact List.map_congr_left fun item _ => reportNode_eq_visits item []

theorem diagnostics_reportFile (file : SourceFile) :
    (reportFile input handlers file).diagnostics =
      file.occurrences.flatMap fun o =>
        (o.node.siteReport input handlers file.path o.scopes).diagnostics := by
  rw [reportFile_eq_visits, Report.diagnostics_append, Report.diagnostics_concat, List.flatMap_map]
  -- Neither the count of the file nor those of its routines are diagnostics.
  rfl

/-- What is left at a site is what the handler called for it leaves. -/
theorem Occurrence.siteReport_eq {o : Occurrence} (rooted : o.Rooted) :
    o.node.siteReport input handlers file o.scopes =
      Report.concat ((o.invocation? handlers file).toList.map fun i => (i.1 input i.2).log) := by
  rw [invocation?, site?, Node.siteKind?_eq, Node.siteReport]
  cases o.node.event? with
  | none => rfl
  | some event =>
    obtain ⟨position, action⟩ := event
    have routine := routine?_scopes rooted
    simp only [Option.map_some, Option.bind_eq_bind, Option.bind_some, reportSite, routine]
    cases handlers.handler? action.kind with
    | none => rfl
    | some handler =>
      cases o.enclosing? with
      | none => rfl
      | some f => exact (Report.append_empty _).symm

def SourceFile.routineCount (file : SourceFile) : Nat :=
  file.occurrences.countP (·.node.definition?.isSome)

/-- The handlers that are called for the places of a file, one after the other, each with the site it
is called with. -/
def SourceFile.invocations (handlers : Handlers) (file : SourceFile) : List (Handler × Site) :=
  file.places.filterMap fun place => (file.at? place).bind (·.invocation? handlers file.path)

theorem SourceFile.invocations_eq (file : SourceFile) :
    file.invocations handlers =
      file.occurrences.filterMap (·.invocation? handlers file.path) := by
  rw [occurrences, List.filterMap_filterMap]
  rfl

theorem Report.routines_add (m n : Nat) : routines (m + n) = routines m ++ routines n := by
  simp only [routines, ← ofStats_merge, Stats.merge, Stats.add, Stats.zero,
    AbstentionCounts.zero_merge, Nat.zero_add]

theorem Report.append_routines_append (a b : Report) (n : Nat) :
    a ++ (routines n ++ b) = routines n ++ (a ++ b) := by
  rw [← append_assoc, routines, ← ofStats_append_comm, append_assoc]

/-- Visits leave the count of the routines among them and what the handlers leave. -/
theorem concat_visits_eq (os : List Occurrence) (rooted : ∀ o ∈ os, o.Rooted) :
    Report.concat (os.map (Occurrence.report input handlers file)) =
      Report.routines (os.countP (·.node.definition?.isSome)) ++
        Report.concat ((os.filterMap (·.invocation? handlers file)).map fun i =>
          (i.1 input i.2).log) := by
  induction os with
  | nil => rfl
  | cons o os ih =>
    have ih := ih fun o ho => rooted o (List.mem_cons_of_mem _ ho)
    have site : o.node.siteReport input handlers file o.scopes = _ :=
      Occurrence.siteReport_eq (rooted o List.mem_cons_self)
    have split : (o :: os).filterMap (·.invocation? handlers file) =
        (o.invocation? handlers file).toList ++ os.filterMap (·.invocation? handlers file) := by
      rw [List.filterMap_cons]
      cases o.invocation? handlers file <;> rfl
    rw [List.map_cons, Report.concat_cons, ih, Occurrence.report, site, split, List.map_append,
      Report.concat_append, List.countP_cons, Report.append_routines_append, Report.append_assoc,
      Node.entryReport, Report.routines_add, Report.append_assoc]

theorem reportFile_eq (file : SourceFile) :
    reportFile input handlers file =
      Report.ofStats (Stats.zero.add .filesChecked 1) ++ Report.routines file.routineCount ++
        Report.concat ((file.invocations handlers).map fun i => (i.1 input i.2).log) := by
  have rooted : ∀ o ∈ file.occurrences, o.Rooted := by
    intro o ho
    obtain ⟨place, h⟩ := SourceFile.mem_occurrences.1 ho
    exact SourceFile.at?_rooted h
  rw [reportFile_eq_visits, concat_visits_eq _ rooted, SourceFile.invocations_eq,
    Report.append_assoc]
  rfl

/-! ## Exactly the sites, once each and in order -/

theorem Occurrence.invocation?_eq_some_iff {o : Occurrence} {handler : Handler} {site : Site} :
    o.invocation? handlers file = some (handler, site) ↔
      ∃ f, o.enclosing? = some f ∧ o.node.event? = some (site.position, site.action) ∧
        o.node.siteKind? = some site.kind ∧ handlers.handler? site.kind = some handler ∧
        site.routine = f.routine ∧ site.scopes = o.above.filterMap (·.2) ∧ site.file = file := by
  rw [Node.siteKind?_eq, invocation?, site?, Node.siteKind?_eq]
  simp only [Option.bind_eq_bind, Option.bind_eq_some_iff, Option.map_eq_some_iff, Option.pure_def,
    Option.some.injEq, Prod.mk.injEq]
  constructor
  · intro h
    obtain ⟨kind, ⟨event, he, rfl⟩, _, hh, _, ⟨_, he', f, hf, rfl⟩, rfl, rfl⟩ := h
    obtain rfl : event = _ := Option.some.inj (he.symm.trans he')
    exact ⟨f, hf, he, ⟨_, he, rfl⟩, hh, rfl, rfl, rfl⟩
  · intro h
    obtain ⟨f, hf, he, hk, hh, hr, hs, rfl⟩ := h
    obtain ⟨action, scopes, file, routine, position⟩ := site
    obtain rfl : routine = f.routine := hr
    obtain rfl : scopes = _ := hs
    exact ⟨_, hk, handler, hh, _, ⟨_, he, f, hf, rfl⟩, rfl, rfl⟩

theorem SourceFile.handler?_of_mem_invocations {file : SourceFile} {i : Handler × Site}
    (called : i ∈ file.invocations handlers) : handlers.handler? i.2.kind = some i.1 := by
  rw [invocations_eq] at called
  obtain ⟨o, -, invoked⟩ := List.mem_filterMap.1 called
  obtain ⟨_, -, -, -, handled, -⟩ := Occurrence.invocation?_eq_some_iff.1 invoked
  exact handled

/-- What a node outside every routine leaves is what its children leave. -/
theorem reportNode_outside {o : Occurrence} (rooted : o.Rooted) (outside : o.enclosing? = none)
    (plain : o.node.definition? = none) :
    reportNode input handlers file o.scopes o.node =
      Report.concat (o.node.children.map fun child =>
        reportNode input handlers file (child.1.toList ++ o.scopes) child.2) := by
  have nothing : o.invocation? handlers file = none := by
    rw [Option.eq_none_iff_forall_ne_some]
    intro (handler, site) h
    obtain ⟨f, hf, -⟩ := Occurrence.invocation?_eq_some_iff.1 h
    rw [outside] at hf
    cases hf
  rw [reportNode_eq, Occurrence.siteReport_eq rooted, nothing, Node.entryReport, plain]
  show ∅ ++ _ ++ ∅ = _
  rw [Report.append_empty, Report.empty_append]

/-- **The walk over a file is a list of calls of handlers.** The places of a file are listed
completely, children before their parent and each once. At a place a handler is called exactly if a
throw or a call stands there, within some routine, and its kind has a handler; the site it is called
with has that kind, the innermost routine above, and as its scopes the steps on the way up. Apart
from the counts of the file and of its routines, the report of the file is what these calls leave,
one after the other. A node outside every routine leaves nothing of its own, but its children are
walked all the same. -/
theorem reportFile_visits_each_site_once (input : CheckInput) (handlers : Handlers)
    (file : SourceFile) :
    (∀ place, place ∈ file.places ↔ ∃ o, file.at? place = some o) ∧
    file.places.Pairwise Place.Before ∧ file.places.Nodup ∧
    (∀ place o handler site, file.at? place = some o →
      (o.invocation? handlers file.path = some (handler, site) ↔
        ∃ f, o.enclosing? = some f ∧ o.node.event? = some (site.position, site.action) ∧
          o.node.siteKind? = some site.kind ∧ handlers.handler? site.kind = some handler ∧
          site.routine = f.routine ∧ site.scopes = o.above.filterMap (·.2) ∧
          site.file = file.path)) ∧
    reportFile input handlers file =
      Report.ofStats (Stats.zero.add .filesChecked 1) ++ Report.routines file.routineCount ++
        Report.concat ((file.places.filterMap fun place =>
          (file.at? place).bind (·.invocation? handlers file.path)).map fun (handler, site) =>
            (handler input site).log) ∧
    (∀ place o, file.at? place = some o → o.enclosing? = none → o.node.definition? = none →
      reportNode input handlers file.path o.scopes o.node =
        Report.concat (o.node.children.map fun child =>
          reportNode input handlers file.path (child.1.toList ++ o.scopes) child.2)) := by
  refine ⟨fun _ => SourceFile.mem_places, file.places_pairwise, ?_, ?_, reportFile_eq file, ?_⟩
  · -- No place comes before itself, so none is listed twice.
    apply file.places_pairwise.imp
    intro place other before same
    rw [same] at before
    exact before.irrefl
  · intro place o handler site _
    exact Occurrence.invocation?_eq_some_iff
  · intro place o h outside plain
    exact reportNode_outside (SourceFile.at?_rooted h) outside plain

end Uncaught
