import Uncaught.Check.Session
import Uncaught.Codebase
import Uncaught.Proofs.Violations
import Uncaught.Proofs.Walk

/-!
What a clean run guarantees.

`Escapes` says which types leave a routine at run time, along chains of calls of any length: those
that it throws itself, and those that leave a routine that it calls, unless a clause around the throw
or the call catches them. The checker never follows a chain. It judges a call by what the target
declares, and what is declared is often only an ancestor of the type that is thrown. The step from
one to the other is that everything on the way is upward compatible: a clause, an ignored type or a
contract that answers for a declared type answers for every type that the declared one covers
(`Program.Catches.of_covered`, `Session.Permits.of_covered`). The type that admits everything is the
one exception, unless nothing is declared above it.
-/
namespace Uncaught

/-- One of some clauses names types that cover a type. -/
def Program.Catches (p : Program) (clauses : List (List String)) (t : NamedType) : Prop :=
  ∃ clause ∈ clauses, p.hierarchy.covers (TypeSet.parseAll TypeSet.empty clause).value t = true

/-- A node stands somewhere in some files. -/
def Occurrence.In (o : Occurrence) (files : List SourceFile) : Prop :=
  ∃ file ∈ files, ∃ place, file.at? place = some o

/-- A type leaves a routine of some files. A routine is given by its text, so where two of them are
written alike, what leaves either one counts for both. -/
inductive Escapes (p : Program) (files : List SourceFile) : Definition → NamedType → Prop
  /-- The routine throws it. -/
  | thrown {f : Definition} {o : Occurrence} {position : Position} {thrown : Expr} {t : NamedType}
      (stands : o.In files) (throws : o.node = .throw position thrown)
      (enclosed : o.enclosing? = some f) (inferred : t ∈ (p.typesOf f.routine thrown).value)
      (uncaught : ¬ p.Catches o.clauses t) : Escapes p files f t
  /-- It leaves a routine that the routine calls. -/
  | called {f g : Definition} {o inner : Occurrence} {position : Position} {call : Call}
      {arguments : List Node} {target : Callable} {t : NamedType}
      (stands : o.In files) (calls : o.node = .call position call arguments)
      (enclosed : o.enclosing? = some f) (reached : target ∈ p.targets f.routine call)
      (written : inner.In files) (defines : inner.node.definition? = some g)
      (same : (p.callableOf g.routine).value.id = target.id) (leaves : Escapes p files g t)
      (uncaught : ¬ p.Catches o.clauses t) : Escapes p files f t

/-- A type is ignored in a session, or the contract of a routine admits it. -/
def Session.Permits (session : Session) (p : Program) (f : Definition) (t : NamedType) : Prop :=
  p.hierarchy.covers session.ignored.types.value t = true ∨
    ∃ declared, p.contract (p.callableOf f.routine).value = .declared declared ∧
      p.hierarchy.covers declared t = true

section

variable {p : Program} {files : List SourceFile} {session : Session} {o : Occurrence}
  {f : Definition} {t u : NamedType}

/-! ## What answers for a type answers for the types that it covers -/

section

variable (rootless : ∀ parent, (TypeName.mixed, parent) ∉ p.hierarchy.edges)
  (stands : u.name = TypeName.mixed ∨ p.hierarchy.Reaches t.name u.name)

include rootless stands

theorem Program.Catches.of_covered {clauses : List (List String)} (caught : p.Catches clauses u) :
    p.Catches clauses t := by
  obtain ⟨clause, hc, covered⟩ := caught
  exact ⟨clause, hc, Hierarchy.covers_of_stands_for rootless stands covered⟩

theorem Session.Permits.of_covered (permits : session.Permits p f u) : session.Permits p f t := by
  rcases permits with ignored | ⟨declared, contract, admitted⟩
  · exact .inl (Hierarchy.covers_of_stands_for rootless stands ignored)
  · exact .inr ⟨declared, contract, Hierarchy.covers_of_stands_for rootless stands admitted⟩

end

/-! ## The sites of a clean run -/

theorem Hierarchy.uncaught_iff {clauses : List (List String)} :
    p.hierarchy.uncaught clauses t = true ↔ ¬ p.Catches clauses t := by
  rw [uncaught, List.all_eq_true]
  simp only [Program.Catches, not_exists, not_and, Bool.not_eq_true', Bool.not_eq_true]

theorem Session.diagnostics_checkAll (session : Session) (p : Program) (files : List SourceFile) :
    (session.checkAll p files).value.1.diagnostics =
      files.flatMap fun file => (session.report p file).diagnostics := by
  rw [checkAll, BatchResult.diagnostics, BatchResult.ofFiles]
  simp only [List.flatMap_map]
  rfl

theorem Handlers.handler?_withCalls (kind : SiteKind) :
    withCalls.handler? kind = some kind.check := by
  cases kind <;> rfl

theorem diagnostics_siteReport_of_clean
    (clean : (session.checkAll p files).value.1.diagnostics = []) {file : SourceFile}
    (given : file ∈ files) {place : Place} (found : file.at? place = some o) :
    (o.node.siteReport (session.input p) session.handlers file.path o.scopes).diagnostics = [] := by
  rw [Session.diagnostics_checkAll, List.flatMap_eq_nil_iff] at clean
  have file_clean : (reportFile (session.input p) session.handlers file).diagnostics = [] :=
    clean file given
  rw [diagnostics_reportFile, List.flatMap_eq_nil_iff] at file_clean
  apply file_clean
  exact SourceFile.mem_occurrences.2 ⟨place, found⟩

/-- What may be thrown at a site of a clean run is caught, or it is permitted in the routine. -/
theorem Session.permits_of_clean (calls : session.handlers = Handlers.withCalls)
    (clean : (session.checkAll p files).value.1.diagnostics = []) (stands : o.In files)
    {position : Position} {action : Action} (event : o.node.event? = some (position, action))
    (enclosed : o.enclosing? = some f) {source : TypeSet × Option Callable}
    (offered : source ∈ p.sources f.routine action) (member : t ∈ source.1)
    (uncaught : ¬ p.Catches o.clauses t) : session.Permits p f t := by
  obtain ⟨file, given, place, found⟩ := stands
  have rooted : o.Rooted := SourceFile.at?_rooted found
  let site : Site := ⟨action, o.scopes, file.path, f.routine, position⟩
  -- The report of the site is that of its check, so the check leaves no violation.
  have none : (p.sources f.routine action).flatMap (site.violations (session.input p)) = [] := by
    have quiet := diagnostics_siteReport_of_clean clean given found
    rw [Node.siteReport, event, calls] at quiet
    exact (diagnostics_reportSite rooted enclosed (Handlers.handler?_withCalls _)).symm.trans quiet
  have kept : ¬ (session.input p).violates site (p.contract (p.callableOf f.routine).value) t := by
    have empty := List.flatMap_eq_nil_iff.1 none source offered
    rw [Site.violations, List.map_eq_nil_iff] at empty
    exact List.filter_eq_nil_iff.1 empty t member
  have escapes : p.hierarchy.uncaught (ScopePath.clauses o.scopes) t = true := by
    rw [Occurrence.clauses_scopes rooted]
    exact Hierarchy.uncaught_iff.2 uncaught
  have answered : p.hierarchy.covers session.ignored.types.value t = true ∨
      (p.contract (p.callableOf f.routine).value).admits (p.hierarchy.withAncestors t) = true := by
    rw [CheckInput.violates, Bool.and_eq_true, Bool.and_eq_true, Bool.not_eq_true',
      Bool.not_eq_true'] at kept
    by_contra unanswered
    rw [not_or, Bool.not_eq_true, Bool.not_eq_true] at unanswered
    exact kept ⟨escapes, unanswered⟩
  rcases answered with ignored | admitted
  · exact .inl ignored
  · right
    cases contract : p.contract (p.callableOf f.routine).value with
    | undeclared =>
      rw [contract] at admitted
      cases admitted
    | declared types =>
      rw [contract] at admitted
      exact ⟨types, rfl, admitted⟩

/-! ## Along chains of calls -/

theorem Program.contract_congr {a b : Callable} (same : a.id = b.id) :
    p.contract a = p.contract b := by
  rw [contract, contract, same]

end

/-- **A clean run is sound.** Let nothing be declared above the type that admits everything, and let
a session that checks calls find no violation in some files. Then whatever leaves a routine of the
files, along chains of calls of any length, is ignored or is covered by what the routine declares. -/
theorem escaping_is_permitted (session : Session) (config : Config)
    (configured : session.handlers = Handlers.ofConfig config)
    (calls : config.checksCalls = true) (p : Program) (files : List SourceFile)
    (rootless : ∀ parent, (TypeName.mixed, parent) ∉ p.hierarchy.edges)
    (clean : (session.checkAll p files).value.1.diagnostics = []) {f : Definition} {t : NamedType}
    (escapes : Escapes p files f t) :
    p.hierarchy.covers session.ignored.types.value t = true ∨
      ∃ declared, p.contract (p.callableOf f.routine).value = .declared declared ∧
        p.hierarchy.covers declared t = true := by
  have handlers : session.handlers = Handlers.withCalls := by
    rw [configured, Handlers.ofConfig, if_pos calls]
  suffices session.Permits p f t from this
  induction escapes with
  | @thrown f o position thrown t stands throws enclosed inferred uncaught =>
    have event : o.node.event? = some (position, .throw thrown) := by
      rw [throws]
      rfl
    have offered : ((p.typesOf f.routine thrown).value, none) ∈ p.sources f.routine (.throw thrown) :=
      List.mem_cons_self
    exact Session.permits_of_clean handlers clean stands event enclosed offered inferred uncaught
  | @called f g o inner position call arguments target t stands calls enclosed reached written
      defines same leaves uncaught ih =>
    rcases ih with ignored | ⟨declared, contract, admitted⟩
    · exact .inl ignored
    · have event : o.node.event? = some (position, .call call) := by
        rw [calls]
        rfl
      have offered : (declared, some target) ∈ p.sources f.routine (.call call) := by
        have candidates : (p.contract target).candidates = declared := by
          rw [← Program.contract_congr same, contract]
          rfl
        rw [← candidates]
        exact List.mem_map_of_mem reached
      -- The call was judged by a declared type, which only covers the one that is thrown.
      obtain ⟨u, member, covers⟩ := Hierarchy.covers_iff.1 admitted
      have uncaught : ¬ p.Catches o.clauses u := fun caught =>
        uncaught (caught.of_covered rootless covers)
      have permits : session.Permits p f u :=
        Session.permits_of_clean handlers clean stands event enclosed offered member uncaught
      exact permits.of_covered rootless covers

namespace ThrownInCallee

/-- Both functions declare an ancestor of what the callee throws. -/
def program : Program :=
  (Codebase.ofDeclarations [.classLike "Child" ["Base"], .function "callee" (some "Base"),
    .function "caller" (some "Base")]).program

def callee : Definition where
  routine := ⟨"callee", .function, none⟩
  body := [.throw ⟨2, 0⟩ (.new "Child")]

def caller : Definition where
  routine := ⟨"caller", .function, none⟩
  body := [.call ⟨2, 0⟩ (.function (.name "callee")) []]

def files : List SourceFile :=
  [⟨"a", [.routine callee.routine callee.body]⟩, ⟨"b", [.routine caller.routine caller.body]⟩]

def config : Config := ⟨some true, []⟩

def child : NamedType := ⟨⟨"Child"⟩, false⟩

theorem child_is_permitted_in_caller :
    Escapes program files caller child ∧
      (program.hierarchy.covers (Session.ofConfig config).ignored.types.value child = true ∨
        ∃ declared, program.contract (program.callableOf caller.routine).value = .declared declared ∧
          program.hierarchy.covers declared child = true) := by
  have rootless : ∀ parent, (TypeName.mixed, parent) ∉ program.hierarchy.edges := by
    have edges : program.hierarchy.edges = [(⟨"Child"⟩, ⟨"Base"⟩)] := by decide +kernel
    rw [edges]
    intro parent declared
    have same : TypeName.mixed = ⟨"Child"⟩ := congrArg Prod.fst (List.mem_singleton.1 declared)
    exact absurd same (by decide)
  have clean : ((Session.ofConfig config).checkAll program files).value.1.diagnostics = [] := by
    decide +kernel
  have thrown : Escapes program files callee child := by
    have found : SourceFile.at? ⟨"a", [.routine callee.routine callee.body]⟩ [0, 0] = some _ := rfl
    refine .thrown ⟨_, List.mem_cons_self, [0, 0], found⟩ rfl rfl ?_ ?_
    · decide +kernel
    · intro h
      obtain ⟨clause, member, -⟩ := h
      cases member
  have escapes : Escapes program files caller child := by
    have found : SourceFile.at? ⟨"b", [.routine caller.routine caller.body]⟩ [0, 0] = some _ := rfl
    have inner : SourceFile.at? ⟨"a", [.routine callee.routine callee.body]⟩ [0] = some _ := rfl
    have reached : ⟨⟨"callee"⟩, "callee"⟩ ∈
        program.targets caller.routine (.function (.name "callee")) := by
      decide +kernel
    have same : (program.callableOf callee.routine).value.id = ⟨"callee"⟩ := by
      decide +kernel
    refine .called ⟨_, List.mem_cons_of_mem _ List.mem_cons_self, [0, 0], found⟩ rfl rfl reached
      ⟨_, List.mem_cons_self, [0], inner⟩ rfl same thrown ?_
    intro h
    obtain ⟨clause, member, -⟩ := h
    cases member
  exact ⟨escapes, escaping_is_permitted (Session.ofConfig config) config rfl rfl program files
    rootless clean escapes⟩

end ThrownInCallee

end Uncaught
