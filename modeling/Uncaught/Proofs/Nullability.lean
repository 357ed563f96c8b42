import Uncaught.Proofs.UnqualifiedSites

/-!
Qualifiers decide no report.

Take the declarations, the configuration and the source file of a check, and write every type
without its qualifier. A set with both `A` and `?A` gets smaller by that, and so does the number of
records. But the records of both checks have the same outlines, and both checks count the same
(`qualifiers_decide_no_report`). At a single site this follows from what is known of sources
(`alike_check`). The rest is one walk over two files, on which the scopes keep the same routine and
the same clauses without qualifiers (`alike_reportNode`).
-/
namespace Uncaught

/-! ## Reports -/

/-- The records of two reports have the same outlines, and both reports count the same. -/
structure Report.Alike (a b : Report) : Prop where
  outlines : ∀ outline, outline ∈ a.outlines ↔ outline ∈ b.outlines
  tally : a.tally = b.tally

namespace Report

variable {a a' b b' : Report}

theorem Alike.refl (a : Report) : a.Alike a := ⟨fun _ => Iff.rfl, rfl⟩

theorem Alike.append (first : a.Alike a') (second : b.Alike b') : (a ++ b).Alike (a' ++ b') where
  outlines outline := by
    have split (a b : Report) : (a ++ b).outlines = a.outlines ++ b.outlines :=
      List.map_append
    rw [split, split, List.mem_append, List.mem_append, first.outlines, second.outlines]
  tally := by rw [tally_append, tally_append, first.tally, second.tally]

end Report

theorem outlines_check (input : CheckInput) (site : Site) :
    (site.kind.check input site).log.outlines =
      (input.program.sources site.routine site.action).flatMap fun source =>
        (site.violations input source).map Diagnostic.outline := by
  rw [Report.outlines, diagnostics_check, List.map_flatMap]

/-- The check of a site leaves the same without qualifiers. -/
theorem alike_check {input plainInput : CheckInput} {site plain : Site}
    (readable : input.program.IsReadable) (inputs : input.Unqualified plainInput)
    (sites : site.Unqualified plain) :
    (site.kind.check input site).log.Alike (plain.kind.check plainInput plain).log where
  outlines outline := by
    rw [outlines_check, outlines_check, sites.routine,
      inputs.program.sources_eq site.routine sites.action, List.flatMap_map, List.mem_flatMap,
      List.mem_flatMap]
    refine exists_congr fun source => and_congr_right fun member => ?_
    exact outlines_violations_nonNull (readable.sources member) inputs sites outline
  tally := by
    rw [tally_check, tally_check, sites.routine]
    exact (inputs.program.tally_eq site.routine sites.action).symm

/-! ## Files -/

mutual

/-- A node is another one without the qualifiers of the types written in it. -/
inductive Node.Unqualified : Node → Node → Prop
  | routine (f : Routine) {body plain : List Node} :
      Node.AllUnqualified body plain → Node.Unqualified (.routine f body) (.routine f plain)
  | block {body plain : List Node} :
      Node.AllUnqualified body plain → Node.Unqualified (.block body) (.block plain)
  | tryCatch {body plain : List Node} {clauses plainClauses : List CatchClause}
      {final plainFinal : Option (List Node)} :
      Node.AllUnqualified body plain → CatchClause.AllUnqualified clauses plainClauses →
      Node.FinalUnqualified final plainFinal →
      Node.Unqualified (.tryCatch body clauses final) (.tryCatch plain plainClauses plainFinal)
  | throw (position : Position) {thrown plain : Expr} :
      thrown.Unqualified plain → Node.Unqualified (.throw position thrown) (.throw position plain)
  | call (position : Position) {c plain : Call} {arguments plainArguments : List Node} :
      c.Unqualified plain → Node.AllUnqualified arguments plainArguments →
      Node.Unqualified (.call position c arguments) (.call position plain plainArguments)

inductive Node.AllUnqualified : List Node → List Node → Prop
  | nil : Node.AllUnqualified [] []
  | cons {node plain : Node} {rest plainRest : List Node} :
      Node.Unqualified node plain → Node.AllUnqualified rest plainRest →
      Node.AllUnqualified (node :: rest) (plain :: plainRest)

inductive CatchClause.AllUnqualified : List CatchClause → List CatchClause → Prop
  | nil : CatchClause.AllUnqualified [] []
  | cons {types plainTypes : List String} {body plain : List Node}
      {rest plainRest : List CatchClause} :
      List.Forall₂ Uncaught.Unqualified types plainTypes → Node.AllUnqualified body plain →
      CatchClause.AllUnqualified rest plainRest →
      CatchClause.AllUnqualified (.mk types body :: rest) (.mk plainTypes plain :: plainRest)

inductive Node.FinalUnqualified : Option (List Node) → Option (List Node) → Prop
  | none : Node.FinalUnqualified none none
  | some {body plain : List Node} :
      Node.AllUnqualified body plain → Node.FinalUnqualified (some body) (some plain)

end

theorem CatchClause.AllUnqualified.catches {clauses plain : List CatchClause} :
    CatchClause.AllUnqualified clauses plain →
      Catches.Unqualified (clauses.map CatchClause.types) (plain.map CatchClause.types)
  | .nil => .nil
  | .cons types _ rest => .cons types rest.catches

/-- A path has the routine of another one, and its clauses without qualifiers. -/
structure ScopePath.Unqualified (scopes plain : ScopePath) : Prop where
  routine : routine? plain = routine? scopes
  clauses : Catches.Unqualified (clauses scopes) (clauses plain)

theorem ScopePath.Unqualified.cons {scopes plain : ScopePath} (same : Unqualified scopes plain)
    (step plainStep : ScopeStep)
    (brings : Catches.Unqualified (step.catches?.getD []) (plainStep.catches?.getD []))
    (enters : plainStep.routine? = step.routine?) :
    Unqualified (step :: scopes) (plainStep :: plain) where
  routine := by
    have outer := routine?_step (some step) scopes
    have plainOuter := routine?_step (some plainStep) plain
    rw [Option.bind_some, Option.toList_some, List.singleton_append] at outer plainOuter
    rw [outer, plainOuter, enters, same.routine]
  clauses := by
    have outer := clauses_step (some step) scopes
    have plainOuter := clauses_step (some plainStep) plain
    rw [Option.bind_some, Option.bind_some, Option.toList_some, List.singleton_append]
      at outer plainOuter
    rw [outer, plainOuter, enters]
    split
    · exact .nil
    · exact List.rel_append brings same.clauses

/-- Two walks leave the same at every site. -/
def SitesAlike (input plainInput : CheckInput) (handlers : Handlers) (file : String) : Prop :=
  ∀ scopes plainScopes, ScopePath.Unqualified scopes plainScopes →
    ∀ position action plain, action.Unqualified plain →
      (reportSite input handlers file scopes position action).Alike
        (reportSite plainInput handlers file plainScopes position plain)

section

variable {input plainInput : CheckInput} {handlers : Handlers} {file : String}

theorem sitesAlike_of_unqualified (readable : input.program.IsReadable)
    (inputs : input.Unqualified plainInput) (checks : handlers.AreChecks) (file : String) :
    SitesAlike input plainInput handlers file := by
  intro scopes plainScopes same position action plain written
  rw [reportSite, reportSite, written.kind_eq, same.routine]
  cases handled : handlers.handler? action.kind with
  | none => exact .refl _
  | some handler =>
    cases ScopePath.routine? scopes with
    | none => exact .refl _
    | some routine =>
      obtain rfl := checks _ _ handled
      let site : Site := ⟨action, scopes, file, routine, position⟩
      let plainSite : Site := ⟨plain, plainScopes, file, routine, position⟩
      have sites : site.Unqualified plainSite := ⟨written, same.clauses, rfl, rfl, rfl⟩
      have checked := alike_check readable inputs sites
      rw [Site.kind, Site.kind, written.kind_eq] at checked
      exact checked

-- The recursion is that of the walk, over both nodes at once.
mutual

theorem alike_reportNode (sites : SitesAlike input plainInput handlers file)
    {scopes plainScopes : ScopePath} (same : ScopePath.Unqualified scopes plainScopes)
    {node plain : Node} :
    node.Unqualified plain →
      (reportNode input handlers file scopes node).Alike
        (reportNode plainInput handlers file plainScopes plain)
  | .routine f body => by
    rw [reportNode, reportNode]
    have inside := same.cons (.inRoutine f) (.inRoutine f) .nil rfl
    exact (Report.Alike.refl _).append (alike_reportNodes sites inside body)
  | .block body => by
    rw [reportNode, reportNode]
    exact alike_reportNodes sites same body
  | .tryCatch body clauses final => by
    rw [reportNode, reportNode]
    have catches := clauses.catches
    have inTry := same.cons (.inTry _) (.inTry _) catches rfl
    have inFinally := same.cons (.inFinally _) (.inFinally _) catches rfl
    apply Report.Alike.append
    · apply Report.Alike.append
      · exact alike_reportNodes sites inTry body
      · exact alike_reportClauses sites same catches clauses
    · exact alike_reportFinal sites inFinally final
  | .throw position thrown => by
    rw [reportNode, reportNode]
    exact sites _ _ same position _ _ (.throw thrown)
  | .call position c arguments => by
    rw [reportNode, reportNode]
    have called := sites _ _ same position _ _ (.call c)
    exact (alike_reportNodes sites same arguments).append called

theorem alike_reportNodes (sites : SitesAlike input plainInput handlers file)
    {scopes plainScopes : ScopePath} (same : ScopePath.Unqualified scopes plainScopes)
    {nodes plain : List Node} :
    Node.AllUnqualified nodes plain →
      (reportNodes input handlers file scopes nodes).Alike
        (reportNodes plainInput handlers file plainScopes plain)
  | .nil => by
    rw [reportNodes, reportNodes]
    exact .refl _
  | .cons node rest => by
    rw [reportNodes, reportNodes]
    exact (alike_reportNode sites same node).append (alike_reportNodes sites same rest)

theorem alike_reportClauses (sites : SitesAlike input plainInput handlers file)
    {scopes plainScopes : ScopePath} (same : ScopePath.Unqualified scopes plainScopes)
    {catches plainCatches : Catches} (caught : Catches.Unqualified catches plainCatches)
    {clauses plain : List CatchClause} :
    CatchClause.AllUnqualified clauses plain →
      (reportClauses input handlers file scopes catches clauses).Alike
        (reportClauses plainInput handlers file plainScopes plainCatches plain)
  | .nil => by
    rw [reportClauses, reportClauses]
    exact .refl _
  | @CatchClause.AllUnqualified.cons types plainTypes _ _ _ _ _ body rest => by
    rw [reportClauses, reportClauses]
    have inCatch := same.cons (.inCatch catches types) (.inCatch plainCatches plainTypes) caught rfl
    exact (alike_reportNodes sites inCatch body).append (alike_reportClauses sites same caught rest)

theorem alike_reportFinal (sites : SitesAlike input plainInput handlers file)
    {scopes plainScopes : ScopePath} (same : ScopePath.Unqualified scopes plainScopes)
    {final plain : Option (List Node)} :
    Node.FinalUnqualified final plain →
      (reportFinal input handlers file scopes final).Alike
        (reportFinal plainInput handlers file plainScopes plain)
  | .none => by
    rw [reportFinal, reportFinal]
    exact .refl _
  | .some body => by
    rw [reportFinal, reportFinal]
    exact alike_reportNodes sites same body

end

end

/-- A file is another one without qualifiers. -/
structure SourceFile.Unqualified (file plain : SourceFile) : Prop where
  path : plain.path = file.path
  items : Node.AllUnqualified file.items plain.items

/-- A configuration checks what another one checks and ignores the same types, without qualifiers. -/
structure Config.Unqualified (config plain : Config) : Prop where
  calls : plain.checksCalls = config.checksCalls
  ignored : List.Forall₂ Uncaught.Unqualified config.ignoredExceptionTypes
    plain.ignoredExceptionTypes

theorem Config.Unqualified.handlers_eq {config plain : Config} (same : config.Unqualified plain) :
    Handlers.ofConfig plain = Handlers.ofConfig config := by
  rw [Handlers.ofConfig, Handlers.ofConfig, same.calls]

theorem Config.Unqualified.input {config plain : Config} (same : config.Unqualified plain)
    {p p' : Program} (programs : p.Unqualified p') :
    ((Session.ofConfig config).input p).Unqualified ((Session.ofConfig plain).input p') where
  program := programs
  ignored := by
    show (parseIgnored _ _).value.SameNames (parseIgnored _ _).value
    rw [value_parseIgnored, value_parseIgnored]
    exact TypeSet.sameNames_parseAll same.ignored fun _ => Iff.rfl

/-- **Qualifiers decide no report.** Check a file by declarations and a configuration, and check it
again with every type of file, declarations and configuration written without its qualifier. The
records of both checks have the same outlines, and apart from the number of records both checks
count the same. -/
theorem qualifiers_decide_no_report {ds plainDs : List Declaration} {config plainConfig : Config}
    {file plainFile : SourceFile} (declarations : List.Forall₂ Declaration.Unqualified ds plainDs)
    (configs : config.Unqualified plainConfig) (files : file.Unqualified plainFile) :
    let p := (Codebase.ofDeclarations ds).program
    let q := (Codebase.ofDeclarations plainDs).program
    let found := ((Session.ofConfig config).check p file).value.1
    let plainFound := ((Session.ofConfig plainConfig).check q plainFile).value.1
    (∀ outline, outline ∈ found.diagnostics.map Diagnostic.outline ↔
      outline ∈ plainFound.diagnostics.map Diagnostic.outline) ∧
    (∀ counter, counter ≠ .diagnostics →
      found.stats.get counter = plainFound.stats.get counter) ∧
    found.stats.abstentions = plainFound.stats.abstentions := by
  intro p q found plainFound
  have readable : p.IsReadable := Program.isReadable_ofDeclarations ds
  have inputs := configs.input (Program.unqualified_ofDeclarations declarations)
  have checks := Handlers.areChecks_ofConfig config
  have outside : ScopePath.Unqualified [] [] := ⟨rfl, .nil⟩
  have alike : (reportFile ((Session.ofConfig config).input p) (Handlers.ofConfig config)
      file).Alike (reportFile ((Session.ofConfig plainConfig).input q)
        (Handlers.ofConfig plainConfig) plainFile) := by
    rw [reportFile, reportFile, configs.handlers_eq, files.path]
    have sites := sitesAlike_of_unqualified readable inputs checks file.path
    exact (Report.Alike.refl _).append (alike_reportNodes sites outside files.items)
  refine ⟨alike.outlines, fun counter other => ?_, ?_⟩
  · exact Stats.get_tally alike.tally other
  · exact Stats.abstentions_tally alike.tally

namespace NullableTypes

/-- A method that throws a type with and without a qualifier, and a variable with its class. -/
def declarations : List Declaration :=
  [.method "A" "m" (some "?X|X|Y"), .variableTypes "f" "v" "?A|A"]

def plainDeclarations : List Declaration :=
  [.method "A" "m" (some "X|Y"), .variableTypes "f" "v" "A"]

/-- The method is called on the variable, under a clause that names a type. -/
def source (caught : String) : SourceFile where
  path := "a"
  items := [.routine ⟨"f", .function, none⟩
    [.tryCatch [.call ⟨2, 4⟩ (.method (.var "v") (.literal "m")) []] [.mk [caught] []] none]]

def found : FileResult :=
  ((Session.ofConfig ⟨some true, ["?Z"]⟩).check (Codebase.ofDeclarations declarations).program
    (source "?Y")).value.1

def plainFound : FileResult :=
  ((Session.ofConfig ⟨some true, ["Z"]⟩).check (Codebase.ofDeclarations plainDeclarations).program
    (source "Y")).value.1

/-- The first check has two records, one for each spelling of the type, and the second has one. -/
theorem two_records_have_one_outline :
    found.diagnostics.length = 2 ∧ plainFound.diagnostics.length = 1 ∧
    (∀ outline, outline ∈ found.diagnostics.map Diagnostic.outline ↔
      outline ∈ plainFound.diagnostics.map Diagnostic.outline) ∧
    found.stats.callSites = plainFound.stats.callSites := by
  have contracts : Option.Rel Unqualified (some "?X|X|Y") (some "X|Y") :=
    .some (by decide +kernel)
  have types : Unqualified "?A|A" "A" := by decide +kernel
  have caught : Unqualified "?Y" "Y" := by decide +kernel
  have ignored : Unqualified "?Z" "Z" := by decide +kernel
  have call : Node.Unqualified (.call ⟨2, 4⟩ (.method (.var "v") (.literal "m")) [])
      (.call ⟨2, 4⟩ (.method (.var "v") (.literal "m")) []) :=
    .call _ (.method (.var _) (.literal _)) .nil
  have clauses : CatchClause.AllUnqualified [.mk ["?Y"] []] [.mk ["Y"] []] :=
    .cons (.cons caught .nil) .nil .nil
  have body := Node.Unqualified.tryCatch (.cons call .nil) clauses .none
  have files : (source "?Y").Unqualified (source "Y") :=
    ⟨rfl, .cons (.routine _ (.cons body .nil)) .nil⟩
  have configs : Config.Unqualified ⟨some true, ["?Z"]⟩ ⟨some true, ["Z"]⟩ :=
    ⟨rfl, .cons ignored .nil⟩
  have same := qualifiers_decide_no_report
    (.cons (.method "A" "m" contracts) (.cons (.variableTypes "f" "v" types) .nil)) configs files
  refine ⟨by decide +kernel, by decide +kernel, same.1, ?_⟩
  exact same.2.1 .callSites (by decide)

end NullableTypes

end Uncaught
