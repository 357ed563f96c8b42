import Mathlib.Data.List.Nodup
import Uncaught.Proofs.Ignoring

/-!
When a site reports the same thing twice.

A record accuses a type and, at a call, the callee that the type comes from. Within one source no
type is accused twice, since the members of a set differ and each can be read back from its record.
Two sources of one site accuse the same only if their callees are shown with the same name and one
type violates the contract in both (`nodup_subjects_iff`). A throw has one source, and so has a call
of a function by name, of a method or of a static method, so these sites never repeat themselves.
A variable may hold a callable that is bound to it twice, and then the call repeats every violation
(`repeated_only_through_variables`).
-/
namespace Uncaught

/-- What a record accuses: the type that escapes, and the callee that it comes from. -/
def Diagnostic.subject (d : Diagnostic) : String × Option String := (d.thrownType, d.invoked)

/-- The members of a set that violate the contract around a site. -/
def Site.offenders (input : CheckInput) (site : Site) (types : TypeSet) : List NamedType :=
  let contract := input.program.contract (input.program.callableOf site.routine).value
  types.members.filter (input.violates site contract)

/-- What is accused at a site, in the order of the records. -/
def Site.subjects (input : CheckInput) (site : Site) : List (String × Option String) :=
  (site.kind.check input site).log.diagnostics.map Diagnostic.subject

/-! ## Sources -/

section

variable {input : CheckInput} {site : Site} {source other : TypeSet × Option Callable}

theorem mem_subjects_violations {subject : String × Option String} :
    subject ∈ (site.violations input source).map Diagnostic.subject ↔
      ∃ t ∈ site.offenders input source.1,
        (t.text, source.2.map (·.name)) = subject := by
  simp only [← TypeSet.render_singleton]
  rw [Site.violations, List.map_map]
  exact List.mem_map

/-- A type with a name in path form is known from its text. -/
theorem NamedType.eq_of_text {t u : NamedType} (valid : t.name.IsPath) (valid' : u.name.IsPath)
    (same : t.text = u.text) : t = u := by
  have read := ofPiece?_text valid
  rw [same, ofPiece?_text valid'] at read
  exact (Option.some.inj read).symm

theorem mem_of_mem_offenders {types : TypeSet} {t : NamedType}
    (offends : t ∈ site.offenders input types) : t ∈ types :=
  (List.mem_filter.1 offends).1

/-- One source does not accuse a type twice. -/
theorem nodup_subjects_violations (readable : source.1.IsReadable) :
    ((site.violations input source).map Diagnostic.subject).Nodup := by
  have distinct : (site.offenders input source.1).Nodup := source.1.nodup.filter _
  rw [Site.violations, List.map_map]
  refine distinct.map_on fun t ht u hu same => ?_
  have texts : t.text = u.text := by
    rw [← TypeSet.render_singleton, ← TypeSet.render_singleton]
    exact congrArg Prod.fst same
  exact NamedType.eq_of_text (readable t (mem_of_mem_offenders ht))
    (readable u (mem_of_mem_offenders hu)) texts

/-- Two sources accuse the same if their callees have one name and they share a violation. -/
theorem disjoint_subjects_iff (readable : source.1.IsReadable) (readable' : other.1.IsReadable) :
    List.Disjoint ((site.violations input source).map Diagnostic.subject)
        ((site.violations input other).map Diagnostic.subject) ↔
      (source.2.map (·.name) = other.2.map (·.name) →
        List.Disjoint (site.offenders input source.1) (site.offenders input other.1)) := by
  constructor
  · intro apart names t ht hu
    refine apart (mem_subjects_violations.2 ⟨t, ht, rfl⟩) (mem_subjects_violations.2 ⟨t, hu, ?_⟩)
    rw [names]
  · intro apart subject accused accused'
    obtain ⟨t, ht, rfl⟩ := mem_subjects_violations.1 accused
    obtain ⟨u, hu, same⟩ := mem_subjects_violations.1 accused'
    have names : source.2.map (·.name) = other.2.map (·.name) := (congrArg Prod.snd same).symm
    have types : u = t :=
      NamedType.eq_of_text (readable' u (mem_of_mem_offenders hu))
        (readable t (mem_of_mem_offenders ht)) (congrArg Prod.fst same)
    rw [types] at hu
    exact apart names ht hu

end

/-! ## Sites -/

section

variable {input : CheckInput} {site : Site}

theorem subjects_eq :
    site.subjects input =
      (input.program.sources site.routine site.action).flatMap fun source =>
        (site.violations input source).map Diagnostic.subject := by
  rw [Site.subjects, diagnostics_check, List.map_flatMap]

/-- A site accuses nothing twice if and only if no two of its sources accuse the same. -/
theorem nodup_subjects_iff (readable : input.program.IsReadable) :
    (site.subjects input).Nodup ↔
      (input.program.sources site.routine site.action).Pairwise fun a b =>
        a.2.map (·.name) = b.2.map (·.name) →
          List.Disjoint (site.offenders input a.1) (site.offenders input b.1) := by
  rw [subjects_eq, List.nodup_flatMap]
  refine (and_iff_right fun source member => ?_).trans ?_
  · exact nodup_subjects_violations (readable.sources member)
  · refine List.Pairwise.iff_of_mem fun member member' => ?_
    exact disjoint_subjects_iff (readable.sources member) (readable.sources member')

end

namespace Program

variable {p : Program} {scope : Routine}

/-- Only a call of a variable may have several targets. -/
theorem length_targets_le_one {call : Call} (named : ∀ name, call ≠ .function (.var name)) :
    (p.targets scope call).length ≤ 1 := by
  cases call with
  | function callee =>
    cases callee with
    | var name => exact absurd rfl (named name)
    | name name | stringLiteral name =>
      rw [targets, callTargets]
      cases p.callableNamed? name with
      | none => exact Nat.zero_le 1
      | some callable => exact Nat.le_refl 1
    | new className | classRef name | unknown => exact Nat.zero_le 1
  | method receiver method =>
    rw [targets]
    cases method.known? with
    | none => exact Nat.zero_le 1
    | some name => exact Option.length_toList_le
  | static className name => exact Option.length_toList_le

theorem length_sources_le_one {action : Action}
    (named : ∀ name, action ≠ .call (.function (.var name))) :
    (p.sources scope action).length ≤ 1 := by
  cases action with
  | throw thrown => exact Nat.le_refl 1
  | call c =>
    rw [sources, List.length_map]
    exact length_targets_le_one fun name same => named name (congrArg Action.call same)

end Program

theorem pairwise_of_length_le_one {α : Type} {R : α → α → Prop} {xs : List α}
    (short : xs.length ≤ 1) : xs.Pairwise R := by
  match xs, short with
  | [], _ => exact List.Pairwise.nil
  | [x], _ => exact List.pairwise_singleton R x

/-- **Only a call of a variable can repeat itself.** Check a file against any declarations and with
any configuration. At every visit of a site that is not the call of a variable, no two records agree
in the type and in the callee. At the call of a variable this is so if and only if no two of the
callables that the variable holds are shown with the same name and have a violation in common; a
callable that the variable holds twice counts as two. -/
theorem repeated_only_through_variables (ds : List Declaration) (config : Config)
    (file : SourceFile) {handler : Handler} {site : Site}
    (visited : (handler, site) ∈ file.invocations (Handlers.ofConfig config)) :
    let p := (Codebase.ofDeclarations ds).program
    let input := (Session.ofConfig config).input p
    let found := (handler input site).log.diagnostics.map Diagnostic.subject
    ((∀ name, site.action ≠ .call (.function (.var name))) → found.Nodup) ∧
    (∀ name, site.action = .call (.function (.var name)) →
      (found.Nodup ↔ (p.targets site.routine (.function (.var name))).Pairwise fun a b =>
        a.name = b.name →
          List.Disjoint (site.offenders input (p.contract a).candidates)
            (site.offenders input (p.contract b).candidates))) := by
  intro p input found
  have checked : handler = site.kind.check :=
    SourceFile.eq_check_of_mem_invocations (Handlers.areChecks_ofConfig config) visited
  have accused : found = site.subjects input := by
    rw [Site.subjects, ← checked]
  have readable : input.program.IsReadable := Program.isReadable_ofDeclarations ds
  rw [accused, nodup_subjects_iff readable]
  constructor
  · intro named
    exact pairwise_of_length_le_one (Program.length_sources_le_one named)
  · intro name calls
    rw [calls, Program.sources, List.pairwise_map]
    simp only [Option.map_some, Option.some.injEq]
    rfl

namespace CallOfVariable

def caller : Routine := ⟨"f", .function, none⟩

/-- The function calls its variable. -/
def source : SourceFile where
  path := "a"
  items := [.routine caller [.call ⟨2, 4⟩ (.function (.var "v")) []]]

def config : Config := ⟨some true, []⟩

def site : Site := ⟨.call (.function (.var "v")), [.inRoutine caller], "a", caller, ⟨2, 4⟩⟩

/-- What the variable holds, where two functions throw the same. -/
def declarations (callees : List String) : List Declaration :=
  [.function "g" (some "X|Y"), .function "h" (some "X"), .variableCallables "f" "v" callees]

def input (callees : List String) : CheckInput :=
  (Session.ofConfig config).input (Codebase.ofDeclarations (declarations callees)).program

theorem visited : (checkCall, site) ∈ source.invocations (Handlers.ofConfig config) :=
  List.mem_filterMap.2 ⟨[0, 0], SourceFile.mem_places.2 ⟨_, rfl⟩, rfl⟩

theorem two_functions_are_told_apart :
    (checkCall, site) ∈ source.invocations (Handlers.ofConfig config) ∧
    ((checkCall (input ["g", "h"]) site).log.diagnostics.map Diagnostic.subject).Nodup := by
  have once := repeated_only_through_variables (declarations ["g", "h"]) config source visited
  have apart : ((input ["g", "h"]).program.targets caller (.function (.var "v"))).Pairwise
      fun a b => a.name ≠ b.name := by
    decide +kernel
  exact ⟨visited, (once.2 "v" rfl).2 (apart.imp fun differ same => absurd same differ)⟩

/-- What is bound twice is reported twice, every violation in the same words. -/
theorem bound_twice_is_reported_twice :
    (checkCall, site) ∈ source.invocations (Handlers.ofConfig config) ∧
    (checkCall (input ["h", "h"]) site).log.diagnostics.map Diagnostic.subject =
      [("X", some "h"), ("X", some "h")] :=
  ⟨visited, by decide +kernel⟩

end CallOfVariable

end Uncaught
