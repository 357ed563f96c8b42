import Mathlib.Data.List.Flatten
import Uncaught.Check.Session
import Uncaught.Proofs.DeclaredEdges
import Uncaught.Proofs.FileChecks

/-!
Classes matter to the check of throws as a set of edges.

Declarations of classes change nothing in a program but its type hierarchy
(`tables_ofDeclarations`), and the check of a throw asks the hierarchy only what covers what. Which
types a target covers depends on the declared pairs of child and parent, in whatever order and how
often they were declared. So with more pairs more is covered, and records can only go away
(`Program.LiesBelow.sublist`); and with the same pairs nothing changes at all (`reportFile_congr`),
although the ancestors of a type may be listed in another order. Calls are another matter: the order
of ancestors decides which method a call reaches.
-/
namespace Uncaught

/-! ## What declarations of classes leave alone -/

def Declaration.isClass : Declaration → Bool
  | .classLike _ _ => true
  | _ => false

/-- Declarations without those of classes. -/
def withoutClasses (ds : List Declaration) : List Declaration := ds.filter (!·.isClass)

/-- A program without its type hierarchy. -/
def Program.tables (p : Program) : Program := { p with hierarchy := Hierarchy.empty }

/-- A class adds nothing to the tables, and what else is declared adds to them what the tables alone
say. -/
theorem Program.tables_declare (p : Program) (d : Declaration) :
    (p.declare d).value.tables =
      if d.isClass then p.tables else (p.tables.declare d).value.tables := by
  cases d <;> rfl

namespace Codebase

theorem tables_foldl {c c' : Codebase} (same : c.program.tables = c'.program.tables)
    (ds : List Declaration) :
    (ds.foldl declare c).program.tables =
      ((withoutClasses ds).foldl declare c').program.tables := by
  induction ds generalizing c c' with
  | nil => exact same
  | cons d ds ih =>
    have here : (c.declare d).program.tables = (c.program.declare d).value.tables := rfl
    rw [Program.tables_declare] at here
    rw [List.foldl_cons, withoutClasses, List.filter_cons]
    cases isClass : d.isClass with
    | true =>
      rw [isClass, if_pos rfl] at here
      exact ih (here.trans same)
    | false =>
      rw [isClass, if_neg Bool.false_ne_true] at here
      refine ih ?_
      calc (c.declare d).program.tables
        _ = (c.program.tables.declare d).value.tables := here
        _ = (c'.program.tables.declare d).value.tables := by rw [same]
        _ = (c'.declare d).program.tables := by
          show _ = (c'.program.declare d).value.tables
          rw [Program.tables_declare c'.program, isClass, if_neg Bool.false_ne_true]

/-- The tables of a program come from the declarations that are not of classes. -/
theorem tables_ofDeclarations {ds ds' : List Declaration}
    (same : withoutClasses ds = withoutClasses ds') :
    (ofDeclarations ds).program.tables = (ofDeclarations ds').program.tables := by
  rw [ofDeclarations, tables_foldl rfl, same, ← tables_foldl rfl]
  rfl

end Codebase

/-! ## Programs with the same tables -/

namespace Program

variable {p q : Program}

theorem typesOf_of_tables (same : p.tables = q.tables) (scope : Routine) (e : Expr) :
    p.typesOf scope e = q.typesOf scope e := by
  have blind (p : Program) : p.typesOf scope e = p.tables.typesOf scope e := by
    cases e <;> rfl
  rw [blind p, same, ← blind q]

theorem callableOf_of_tables (same : p.tables = q.tables) (scope : Routine) :
    p.callableOf scope = q.callableOf scope := by
  show p.tables.callableOf scope = q.tables.callableOf scope
  rw [same]

theorem contract_of_tables (same : p.tables = q.tables) (callable : Callable) :
    p.contract callable = q.contract callable := by
  show p.tables.contract callable = q.tables.contract callable
  rw [same]

/-- One program has the tables of another one, and covers no more. -/
structure LiesBelow (p q : Program) : Prop where
  tables : p.tables = q.tables
  covers : ∀ target t, p.hierarchy.covers target t = true → q.hierarchy.covers target t = true

end Program

/-! ## More edges, fewer records -/

section

variable {p q : Program} {ignored : Noted TypeSet} {file : SourceFile}

theorem Hierarchy.uncaught_mono (below : p.LiesBelow q) {clauses : List (List String)}
    {t : NamedType} (free : q.hierarchy.uncaught clauses t = true) :
    p.hierarchy.uncaught clauses t = true := by
  rw [uncaught, List.all_eq_true] at free ⊢
  intro clause member
  have free := free clause member
  rw [Bool.not_eq_true', ← Bool.not_eq_true] at free ⊢
  exact fun covered => free (below.covers _ _ covered)

/-- What violates a contract where more is covered does so where less is. -/
theorem violates_mono (below : p.LiesBelow q) {site : Site} {contract : Contract} {t : NamedType}
    (violates : CheckInput.violates ⟨q, ignored⟩ site contract t = true) :
    CheckInput.violates ⟨p, ignored⟩ site contract t = true := by
  have more (target : TypeSet) (uncovered : (!q.hierarchy.covers target t) = true) :
      (!p.hierarchy.covers target t) = true := by
    rw [Bool.not_eq_true', ← Bool.not_eq_true] at uncovered ⊢
    exact fun covered => uncovered (below.covers _ _ covered)
  rw [CheckInput.violates, Bool.and_eq_true, Bool.and_eq_true] at violates ⊢
  obtain ⟨uncaught, notIgnored, inadmissible⟩ := violates
  refine ⟨Hierarchy.uncaught_mono below uncaught, more _ notIgnored, ?_⟩
  cases contract with
  | undeclared => rfl
  | declared types => exact more types inadmissible

theorem violations_sublist (below : p.LiesBelow q) (site : Site)
    (source : TypeSet × Option Callable) :
    (site.violations ⟨q, ignored⟩ source).Sublist (site.violations ⟨p, ignored⟩ source) := by
  simp only [Site.violations, Program.callableOf_of_tables below.tables,
    Program.contract_of_tables below.tables]
  refine List.Sublist.map _ (List.monotone_filter_right _ fun t => ?_)
  exact violates_mono below

/-- Sessions that check throws only call one handler, and only for throws. -/
theorem throw_of_mem_invocations {i : Handler × Site}
    (called : i ∈ file.invocations Handlers.throwsOnly) :
    i.1 = checkThrow ∧ ∃ thrown, i.2.action = .throw thrown := by
  have handled := SourceFile.handler?_of_mem_invocations called
  obtain ⟨handler, site⟩ := i
  rw [Site.kind] at handled
  cases action : site.action with
  | throw thrown =>
    rw [action] at handled
    exact ⟨(Option.some.inj handled).symm, thrown, rfl⟩
  | call c =>
    rw [action] at handled
    cases c <;> cases handled

theorem areChecks_throwsOnly : Handlers.throwsOnly.AreChecks :=
  Handlers.areChecks_ofConfig Config.default

/-- Where more is covered, some of the records are gone and the others are unchanged. -/
theorem Program.LiesBelow.sublist (below : p.LiesBelow q) :
    (reportFile ⟨q, ignored⟩ Handlers.throwsOnly file).diagnostics.Sublist
      (reportFile ⟨p, ignored⟩ Handlers.throwsOnly file).diagnostics := by
  rw [diagnostics_reportFile_of_checks areChecks_throwsOnly,
    diagnostics_reportFile_of_checks areChecks_throwsOnly]
  refine List.Sublist.flatMap_right _ fun i called => ?_
  obtain ⟨-, thrown, action⟩ := throw_of_mem_invocations called
  have sources : q.sources i.2.routine i.2.action = p.sources i.2.routine i.2.action := by
    rw [action, sources, sources, typesOf_of_tables below.tables]
  rw [sources]
  exact List.Sublist.flatMap_right _ fun source _ => violations_sublist below i.2 source

/-- What is counted apart from diagnostics depends on the tables alone. -/
theorem tally_reportFile_of_tables (same : p.tables = q.tables) :
    (reportFile ⟨p, ignored⟩ Handlers.throwsOnly file).tally =
      (reportFile ⟨q, ignored⟩ Handlers.throwsOnly file).tally := by
  rw [tally_reportFile areChecks_throwsOnly, tally_reportFile areChecks_throwsOnly]
  refine congrArg (fun sites => Stats.merge _ (Stats.sum sites)) (List.map_congr_left ?_)
  intro i called
  obtain ⟨-, thrown, action⟩ := throw_of_mem_invocations called
  rw [action, Program.tally, Program.tally, Program.typesOf_of_tables same]

/-! ## The same edges, the same report -/

theorem covers_eq (below : p.LiesBelow q) (above : q.LiesBelow p) (target : TypeSet)
    (t : NamedType) : p.hierarchy.covers target t = q.hierarchy.covers target t := by
  rw [Bool.eq_iff_iff]
  exact ⟨below.covers target t, above.covers target t⟩

theorem escaping_congr (below : p.LiesBelow q) (above : q.LiesBelow p) (types : TypeSet)
    (clauses : List (List String)) :
    p.hierarchy.escaping types clauses = q.hierarchy.escaping types clauses := by
  induction clauses generalizing types with
  | nil => rfl
  | cons clause rest ih =>
    rw [Hierarchy.escaping, Hierarchy.escaping]
    simp only [covers_eq below above, ih]

theorem reportType_congr (below : p.LiesBelow q) (above : q.LiesBelow p) (site : Site) :
    reportType ⟨p, ignored⟩ site = reportType ⟨q, ignored⟩ site := by
  funext function contract invoked t
  -- The ancestors may come in another order, but they may stand for the same targets.
  have castable (target : TypeSet) : (p.hierarchy.withAncestors t).castable target =
      (q.hierarchy.withAncestors t).castable target := covers_eq below above target t
  have admits : contract.admits (p.hierarchy.withAncestors t) =
      contract.admits (q.hierarchy.withAncestors t) := by
    cases contract with
    | undeclared => rfl
    | declared types => exact castable types
  simp only [reportType, CheckInput.isReportable, castable, admits]

theorem checkThrow_congr (below : p.LiesBelow q) (above : q.LiesBelow p) (site : Site) :
    checkThrow ⟨p, ignored⟩ site = checkThrow ⟨q, ignored⟩ site := by
  have escaping (types : TypeSet) (invoked : Option Callable) :
      reportEscaping ⟨p, ignored⟩ site types invoked =
        reportEscaping ⟨q, ignored⟩ site types invoked := by
    simp only [reportEscaping, Program.callableOf_of_tables below.tables,
      Program.contract_of_tables below.tables, reportType_congr below above]
  have thrown (types : TypeSet) :
      reportThrown ⟨p, ignored⟩ site types none = reportThrown ⟨q, ignored⟩ site types none := by
    simp only [reportThrown, escaping_congr below above, escaping]
  simp only [checkThrow, Program.typesOf_of_tables below.tables, thrown]

/-- Where the same is covered the whole report is the same, the names that are spelled out
included. -/
theorem reportFile_congr (below : p.LiesBelow q) (above : q.LiesBelow p) :
    reportFile ⟨p, ignored⟩ Handlers.throwsOnly file =
      reportFile ⟨q, ignored⟩ Handlers.throwsOnly file := by
  rw [reportFile_eq, reportFile_eq]
  refine congrArg (_ ++ Report.concat ·) (List.map_congr_left fun i called => ?_)
  rw [(throw_of_mem_invocations called).1, checkThrow_congr below above]

end

/-! ## Declarations -/

section

variable {ds ds' : List Declaration}

theorem CoveredBy.mono (fewer : ∀ child parent, DeclaresParent ds child parent →
      DeclaresParent ds' child parent) {target : TypeSet} {t : NamedType}
    (covered : CoveredBy ds target t) : CoveredBy ds' target t := by
  obtain ⟨u, member, admits⟩ := covered
  exact ⟨u, member, admits.imp_right fun reaches => Relation.ReflTransGen.mono fewer _ _ reaches⟩

theorem liesBelow_ofDeclarations (same : withoutClasses ds = withoutClasses ds')
    (fewer : ∀ child parent, DeclaresParent ds child parent → DeclaresParent ds' child parent) :
    (Codebase.ofDeclarations ds).program.LiesBelow (Codebase.ofDeclarations ds').program where
  tables := Codebase.tables_ofDeclarations same
  covers _ _ covered :=
    Codebase.covers_ofDeclarations.2 ((Codebase.covers_ofDeclarations.1 covered).mono fewer)

end

/-- Declarations that differ in when, how often and in how many parts classes are declared. -/
inductive Rearranged : List Declaration → List Declaration → Prop where
  | refl (ds : List Declaration) : Rearranged ds ds
  | symm {ds ds' : List Declaration} : Rearranged ds ds' → Rearranged ds' ds
  | trans {ds ds' ds'' : List Declaration} :
      Rearranged ds ds' → Rearranged ds' ds'' → Rearranged ds ds''
  | cons (d : Declaration) {ds ds' : List Declaration} :
      Rearranged ds ds' → Rearranged (d :: ds) (d :: ds')
  /-- A class is declared later. -/
  | swap (name : String) (parents : List String) (d : Declaration) (ds : List Declaration) :
      Rearranged (.classLike name parents :: d :: ds) (d :: .classLike name parents :: ds)
  /-- A class is declared twice. -/
  | again (name : String) (parents : List String) (ds : List Declaration) :
      Rearranged (.classLike name parents :: ds)
        (.classLike name parents :: .classLike name parents :: ds)
  /-- The parents of a class are listed in another order. -/
  | reorder (name : String) {parents others : List String} (perm : parents.Perm others)
      (ds : List Declaration) :
      Rearranged (.classLike name parents :: ds) (.classLike name others :: ds)
  /-- The parents of a class are listed in two declarations. -/
  | split (name : String) (parents others : List String) (ds : List Declaration) :
      Rearranged (.classLike name (parents ++ others) :: ds)
        (.classLike name parents :: .classLike name others :: ds)

namespace Rearranged

variable {ds ds' : List Declaration}

theorem withoutClasses_eq (h : Rearranged ds ds') : withoutClasses ds = withoutClasses ds' := by
  induction h with
  | refl => rfl
  | symm _ ih => exact ih.symm
  | trans _ _ ih ih' => exact ih.trans ih'
  | cons d _ ih =>
    simp only [withoutClasses, List.filter_cons] at ih ⊢
    rw [ih]
  | swap name parents d ds => simp [withoutClasses, List.filter_cons, Declaration.isClass]
  | again name parents ds => simp [withoutClasses, Declaration.isClass]
  | reorder name _ ds => simp [withoutClasses, Declaration.isClass]
  | split name parents others ds => simp [withoutClasses, Declaration.isClass]

theorem declaresParent_iff (h : Rearranged ds ds') (child parent : TypeName) :
    DeclaresParent ds child parent ↔ DeclaresParent ds' child parent := by
  induction h with
  | refl => rfl
  | symm _ ih => exact ih.symm
  | trans _ _ ih ih' => exact ih.trans ih'
  | cons d _ ih =>
    simp only [DeclaresParent, List.exists_mem_cons_iff] at ih ⊢
    rw [ih]
  | swap name parents d ds =>
    simp only [DeclaresParent, List.exists_mem_cons_iff]
    exact or_left_comm
  | again name parents ds =>
    simp only [DeclaresParent, List.exists_mem_cons_iff, or_self_left]
  | reorder name perm ds =>
    simp only [DeclaresParent, List.exists_mem_cons_iff, Declaration.edges, List.mem_map,
      perm.mem_iff]
  | split name parents others ds =>
    simp only [DeclaresParent, List.exists_mem_cons_iff, Declaration.edges, List.map_append,
      List.mem_append, or_assoc]

end Rearranged

/-- **Classes matter as a set of edges, and more of them only take records away.** Take a session
that checks throws only, with any ignored types, and two lists of declarations that differ in their
classes only. If every pair of child and parent that the first list declares is declared by the
second, the records under the second are among those under the first, in the same order, and
everything that is counted apart from the diagnostics is the same. If they declare the same pairs,
the check is the same; so it does not matter when a class is declared, how often, with its parents
in which order, and in how many parts. -/
theorem classes_matter_as_edges (session : Session)
    (throwsOnly : session.handlers = Handlers.throwsOnly) (file : SourceFile) :
    (∀ ds ds', withoutClasses ds = withoutClasses ds' →
      (∀ child parent, DeclaresParent ds child parent → DeclaresParent ds' child parent) →
      let fewer := (session.check (Codebase.ofDeclarations ds).program file).value.1
      let more := (session.check (Codebase.ofDeclarations ds').program file).value.1
      more.diagnostics.Sublist fewer.diagnostics ∧
        (∀ counter, counter ≠ .diagnostics →
          more.stats.get counter = fewer.stats.get counter) ∧
        more.stats.abstentions = fewer.stats.abstentions) ∧
    (∀ ds ds', withoutClasses ds = withoutClasses ds' →
      (∀ child parent, DeclaresParent ds child parent ↔ DeclaresParent ds' child parent) →
      session.check (Codebase.ofDeclarations ds).program file =
        session.check (Codebase.ofDeclarations ds').program file) ∧
    (∀ ds ds', Rearranged ds ds' →
      session.check (Codebase.ofDeclarations ds).program file =
        session.check (Codebase.ofDeclarations ds').program file) := by
  have report (p : Program) : session.report p file =
      reportFile ⟨p, session.ignored.types⟩ Handlers.throwsOnly file := by
    rw [← throwsOnly]
    rfl
  have unchanged (ds ds' : List Declaration) (same : withoutClasses ds = withoutClasses ds')
      (edges : ∀ child parent, DeclaresParent ds child parent ↔ DeclaresParent ds' child parent) :
      session.check (Codebase.ofDeclarations ds).program file =
        session.check (Codebase.ofDeclarations ds').program file := by
    have below := liesBelow_ofDeclarations same fun child parent => (edges child parent).1
    have above := liesBelow_ofDeclarations same.symm fun child parent => (edges child parent).2
    rw [Session.check, Session.check, report, report, reportFile_congr below above]
  refine ⟨?_, unchanged, ?_⟩
  · intro ds ds' same edges fewer more
    have below := liesBelow_ofDeclarations same edges
    have found (ds : List Declaration) :
        (session.check (Codebase.ofDeclarations ds).program file).value.1 =
          Session.fileReport file
            (reportFile ⟨_, session.ignored.types⟩ Handlers.throwsOnly file) :=
      congrArg (Session.fileReport file) (report _)
    have counted : more.stats.tally = fewer.stats.tally := by
      show Stats.tally (session.check _ file).value.1.stats =
        Stats.tally (session.check _ file).value.1.stats
      rw [found, found]
      exact (tally_reportFile_of_tables below.tables).symm
    refine ⟨?_, fun counter other => Stats.get_tally counted other,
      Stats.abstentions_tally counted⟩
    show (session.check _ file).value.1.diagnostics.Sublist
      (session.check _ file).value.1.diagnostics
    rw [found, found]
    exact below.sublist
  · intro ds ds' rearranged
    exact unchanged ds ds' rearranged.withoutClasses_eq rearranged.declaresParent_iff

namespace NoisyChild

def session : Session := Session.ofConfig ⟨none, ["Quiet"]⟩

/-- The function declares the parent of the first type it throws. -/
def source : SourceFile where
  path := "a"
  items := [.routine ⟨"f", .function, none⟩
    [.throw ⟨2, 0⟩ (.new "Child"), .throw ⟨3, 0⟩ (.new "Noisy"), .throw ⟨4, 0⟩ (.new "Other")]]

def declarations : List Declaration :=
  [.classLike "Child" ["Base"], .function "f" (some "Base")]

/-- The second type is now one of those that are ignored. -/
def grown : List Declaration :=
  [.function "f" (some "Base"), .classLike "Noisy" ["Quiet", "Loud"], .classLike "Child" ["Base"]]

/-- The same classes, one of them in two parts and the other one first. -/
def rearranged : List Declaration :=
  [.classLike "Child" ["Base"], .function "f" (some "Base"), .classLike "Noisy" ["Quiet"],
    .classLike "Noisy" ["Loud"]]

def check (ds : List Declaration) : FileResult :=
  (session.check (Codebase.ofDeclarations ds).program source).value.1

theorem rearranged_grown : Rearranged grown rearranged := by
  have split : Rearranged grown
      [.function "f" (some "Base"), .classLike "Noisy" ["Quiet"], .classLike "Noisy" ["Loud"],
        .classLike "Child" ["Base"]] :=
    .cons _ (.split "Noisy" ["Quiet"] ["Loud"] _)
  have second : Rearranged
      [.function "f" (some "Base"), .classLike "Noisy" ["Quiet"], .classLike "Noisy" ["Loud"],
        .classLike "Child" ["Base"]]
      [.function "f" (some "Base"), .classLike "Child" ["Base"], .classLike "Noisy" ["Quiet"],
        .classLike "Noisy" ["Loud"]] :=
    .cons _ (.trans (.cons _ (.swap "Noisy" ["Loud"] _ _)) (.swap "Noisy" ["Quiet"] _ _))
  exact (split.trans second).trans (.symm (.swap "Child" ["Base"] _ _))

theorem noisy_child_is_dropped :
    session.handlers = Handlers.throwsOnly ∧ withoutClasses declarations = withoutClasses grown ∧
      (∀ child parent, DeclaresParent declarations child parent →
        DeclaresParent grown child parent) ∧
      Rearranged grown rearranged ∧
      (check grown).diagnostics.Sublist (check declarations).diagnostics ∧
      (check declarations).diagnostics.map (·.thrownType) = ["Noisy", "Other"] ∧
      (check grown).diagnostics.map (·.thrownType) = ["Other"] ∧
      check grown = check rearranged := by
  have edges (child parent : TypeName) (declared : DeclaresParent declarations child parent) :
      DeclaresParent grown child parent := by
    obtain ⟨d, member, edge⟩ := declared
    have subset : ∀ d ∈ declarations, d ∈ grown := by decide +kernel
    exact ⟨d, subset d member, edge⟩
  obtain ⟨fewer, -, same⟩ := classes_matter_as_edges session rfl source
  refine ⟨rfl, rfl, edges, rearranged_grown, (fewer declarations grown rfl edges).1, ?_, ?_, ?_⟩
  · decide +kernel
  · decide +kernel
  · exact congrArg (·.value.1) (same grown rearranged rearranged_grown)

end NoisyChild

end Uncaught
