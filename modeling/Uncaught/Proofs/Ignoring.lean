import Uncaught.Check.Session
import Uncaught.Proofs.DeclaredTypes
import Uncaught.Proofs.Exactness
import Uncaught.Proofs.FileChecks

/-!
Ignoring types only takes records away.

The ignored types are consulted in the middle of a site, after the clauses and before the contract,
and are parsed when the first type gets that far. All the same a check with a list of ignored types
finds what a check without one finds, less the records of the types that are covered by the list
(`ignoring_filters_diagnostics`). The reason is that being ignored is one of three tests on one
type, none of which depends on the others, and that the tested type can be read back from its record
(`offender?_violation`). What the list covers is said by the entries that are well-formed: one that
is blank or malformed adds nothing (`mem_parseIgnored`).
-/
namespace Uncaught

/-! ## The entries of a list -/

namespace TypeSet

/-- The union of sets, one after the other. -/
def unionAll (sets : List TypeSet) : TypeSet := sets.foldl union empty

theorem mem_foldl_union {sets : List TypeSet} {s : TypeSet} {t : NamedType} :
    t ∈ sets.foldl union s ↔ t ∈ s ∨ ∃ other ∈ sets, t ∈ other := by
  induction sets generalizing s with
  | nil => simp
  | cons other sets ih =>
    rw [List.foldl_cons, ih, mem_union, or_assoc]
    simp only [List.mem_cons, exists_eq_or_imp]

theorem mem_unionAll {sets : List TypeSet} {t : NamedType} :
    t ∈ unionAll sets ↔ ∃ s ∈ sets, t ∈ s := by
  rw [unionAll, mem_foldl_union]
  exact or_iff_right List.not_mem_nil

end TypeSet

/-- The union of the entries of a list that are the text of a set. -/
def ignoredUnion (entries : List String) : TypeSet :=
  TypeSet.unionAll ((entries.map fun entry => (TypeSet.parse entry).value).filter (!·.isEmpty))

variable {entries : List String} {t : NamedType}

theorem mem_ignoredUnion :
    t ∈ ignoredUnion entries ↔ ∃ entry ∈ entries, t ∈ (TypeSet.parse entry).value := by
  rw [ignoredUnion, TypeSet.mem_unionAll]
  constructor
  · intro h
    obtain ⟨types, member, ht⟩ := h
    obtain ⟨entry, he, rfl⟩ := List.mem_map.1 (List.mem_filter.1 member).1
    exact ⟨entry, he, ht⟩
  · intro h
    obtain ⟨entry, he, ht⟩ := h
    refine ⟨_, List.mem_filter.2 ⟨List.mem_map.2 ⟨entry, he, rfl⟩, ?_⟩, ht⟩
    -- A set with a member is not empty.
    have inhabited : (TypeSet.parse entry).value.members ≠ [] := List.ne_nil_of_mem ht
    simpa [TypeSet.isEmpty] using inhabited

/-- Skipping the blank entries leaves out nothing. -/
theorem value_parseIgnored (s : TypeSet) :
    (parseIgnored s entries).value = (TypeSet.parseAll s entries).value := by
  induction entries generalizing s with
  | nil => rfl
  | cons entry rest ih =>
    rw [parseIgnored, TypeSet.parseAll]
    split
    next blank =>
      rw [Logged.value_bind, TypeSet.parse_of_blank blank]
      exact ih s
    next => exact ih _

theorem TypeSet.mem_parseAll {s : TypeSet} :
    t ∈ (parseAll s entries).value ↔ t ∈ s ∨ ∃ entry ∈ entries, t ∈ (parse entry).value := by
  induction entries generalizing s with
  | nil => simp [parseAll]
  | cons entry rest ih => simp [parseAll, ih, or_assoc]

theorem mem_parseIgnored {s : TypeSet} :
    t ∈ (parseIgnored s entries).value ↔
      t ∈ s ∨ ∃ entry ∈ entries, t ∈ (TypeSet.parse entry).value := by
  rw [value_parseIgnored, TypeSet.mem_parseAll]

theorem Hierarchy.covers_congr {h : Hierarchy} {target other : TypeSet}
    (same : ∀ u, u ∈ target ↔ u ∈ other) : h.covers target t = h.covers other t := by
  rw [Bool.eq_iff_iff, covers_iff, covers_iff]
  simp only [same]

theorem Hierarchy.covers_parseIgnored (h : Hierarchy) :
    h.covers (parseIgnored TypeSet.empty entries).value t = h.covers (ignoredUnion entries) t := by
  refine covers_congr fun u => ?_
  rw [mem_parseIgnored, mem_ignoredUnion]
  exact or_iff_right List.not_mem_nil

/-! ## The records of ignored types -/

/-- The type that a record is about, if the record names exactly one. -/
def Diagnostic.offender? (d : Diagnostic) : Option NamedType :=
  match (TypeSet.parse d.thrownType).value.members with
  | [t] => some t
  | _ => none

/-- The type that a record is about, given with its ancestors, may stand where an ignored one is
asked for. -/
def Diagnostic.isIgnored (p : Program) (entries : List String) (d : Diagnostic) : Bool :=
  d.offender?.any fun t => (p.hierarchy.withAncestors t).castable (ignoredUnion entries)

section

variable {p : Program} {site : Site} {source : TypeSet × Option Callable}

/-- A record gives back the type that it is about. -/
theorem offender?_violation (valid : t.name.IsPath) (function : Callable) (contract : Contract)
    (callee : Option Callable) :
    (site.violation function contract callee t).offender? = some t := by
  have readable : (TypeSet.singleton t).IsReadable := by
    intro u member
    rcases TypeSet.mem_insert.1 member with member | rfl
    · cases member
    · exact valid
  have named : (site.violation function contract callee t).thrownType =
      (TypeSet.singleton t).render := rfl
  rw [Diagnostic.offender?, named, TypeSet.parse_render readable]
  rfl

theorem exists_offender? (readable : source.1.IsReadable) {input : CheckInput} {d : Diagnostic}
    (reported : d ∈ site.violations input source) : ∃ t ∈ source.1, d.offender? = some t := by
  obtain ⟨t, ht, rfl⟩ := List.mem_map.1 reported
  have member : t ∈ source.1 := (List.mem_filter.1 ht).1
  exact ⟨t, member, offender?_violation (readable t member) _ _ _⟩

theorem covers_noEntries (h : Hierarchy) : h.covers (ignoredUnion []) t = false := by
  simp [Hierarchy.covers, TypeSet.castable, ignoredUnion, TypeSet.unionAll]

/-- With ignored types, a type is a violation if it is one without them and is not ignored. -/
theorem violates_ignoring (contract : Contract) :
    CheckInput.violates ⟨p, parseIgnored TypeSet.empty entries⟩ site contract t =
      (!p.hierarchy.covers (ignoredUnion entries) t &&
        CheckInput.violates ⟨p, parseIgnored TypeSet.empty []⟩ site contract t) := by
  simp only [CheckInput.violates, Hierarchy.covers_parseIgnored, covers_noEntries, Bool.not_false,
    Bool.true_and]
  exact Bool.and_left_comm _ _ _

theorem violations_ignoring (readable : source.1.IsReadable) :
    site.violations ⟨p, parseIgnored TypeSet.empty entries⟩ source =
      (site.violations ⟨p, parseIgnored TypeSet.empty []⟩ source).filter
        (!·.isIgnored p entries) := by
  rw [Site.violations, Site.violations, List.filter_map, List.filter_filter]
  refine congrArg (List.map _) (List.filter_congr fun t member => ?_)
  have offender : (site.violation (p.callableOf site.routine).value
      (p.contract (p.callableOf site.routine).value) source.2 t).offender? = some t :=
    offender?_violation (readable t member) _ _ _
  rw [violates_ignoring, Function.comp_apply, Diagnostic.isIgnored, offender]
  rfl

end

/-! ## Files -/

section

variable {p : Program} {handlers : Handlers} {file : SourceFile}

theorem exists_offender?_reportFile (readable : p.IsReadable) (checks : handlers.AreChecks)
    {ignored : Noted TypeSet} {d : Diagnostic}
    (reported : d ∈ (reportFile ⟨p, ignored⟩ handlers file).diagnostics) :
    ∃ t, d.offender? = some t := by
  rw [diagnostics_reportFile_of_checks checks] at reported
  obtain ⟨i, -, reported⟩ := List.mem_flatMap.1 reported
  obtain ⟨source, member, reported⟩ := List.mem_flatMap.1 reported
  obtain ⟨t, -, offender⟩ := exists_offender? (readable.sources member) reported
  exact ⟨t, offender⟩

/-- The walk with ignored types finds what the walk without them does, less what is ignored. -/
theorem diagnostics_reportFile_ignoring (readable : p.IsReadable) (checks : handlers.AreChecks) :
    (reportFile ⟨p, parseIgnored TypeSet.empty entries⟩ handlers file).diagnostics =
      (reportFile ⟨p, parseIgnored TypeSet.empty []⟩ handlers file).diagnostics.filter
        (!·.isIgnored p entries) := by
  rw [diagnostics_reportFile_of_checks checks, diagnostics_reportFile_of_checks checks,
    List.filter_flatMap]
  refine List.flatMap_congr fun i _ => ?_
  rw [List.filter_flatMap]
  refine List.flatMap_congr fun source member => ?_
  exact violations_ignoring (readable.sources member)

/-- Nothing that is counted apart from diagnostics depends on the ignored types. -/
theorem tally_reportFile_ignoring (checks : handlers.AreChecks) (a b : Noted TypeSet) :
    (reportFile ⟨p, a⟩ handlers file).tally = (reportFile ⟨p, b⟩ handlers file).tally := by
  rw [tally_reportFile checks, tally_reportFile checks]

end

/-- **Ignoring types is a filter behind the check.** Check a file with a list of ignored types and
without one, calls included or not. Every record of the check without the list is about exactly one
type. The check with the list finds the same records in the same order, less those whose type, given
with its ancestors, may stand where a type of a well-formed entry is asked for. Everything that is
counted apart from the diagnostics is the same. -/
theorem ignoring_filters_diagnostics (ds : List Declaration) (calls : Option Bool)
    (entries : List String) (file : SourceFile) :
    let p := (Codebase.ofDeclarations ds).program
    let all := ((Session.ofConfig ⟨calls, []⟩).check p file).value.1
    let kept := ((Session.ofConfig ⟨calls, entries⟩).check p file).value.1
    (∀ d ∈ all.diagnostics, ∃ t, d.offender? = some t) ∧
    kept.diagnostics = all.diagnostics.filter (!·.isIgnored p entries) ∧
    (∀ counter, counter ≠ .diagnostics → kept.stats.get counter = all.stats.get counter) ∧
    kept.stats.abstentions = all.stats.abstentions := by
  intro p all kept
  have readable := Program.isReadable_ofDeclarations ds
  have checks := Handlers.areChecks_ofConfig ⟨calls, []⟩
  have counted : kept.stats.tally = all.stats.tally :=
    tally_reportFile_ignoring checks (parseIgnored TypeSet.empty entries) _
  refine ⟨?_, diagnostics_reportFile_ignoring readable checks, ?_, ?_⟩
  · intro d reported
    exact exists_offender?_reportFile readable checks reported
  · intro counter other
    exact Stats.get_tally counted other
  · exact Stats.abstentions_tally counted

end Uncaught
