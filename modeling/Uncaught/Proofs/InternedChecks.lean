import Uncaught.Proofs.Inquiry
import Uncaught.Proofs.InternedResolution

/-!
What a check by numbers leaves.

A check by name writes a report, as if nothing had been before it. A check by numbers goes on from a
state: it enters names in the table there is, adds to what has been found, and has the list of the
ignored types parsed when it is the first to ask for them. `CheckState.StandsFor` says which state
there is when some report has been written, and a check `Follows` the one by name if it leads from
there to the state for the longer report. What the one by name spells out again, each time it is
asked whether a type is ignored, has been entered the first time, so entering it again changes
nothing (`Follows.ignoredTypes`). Every handler of the contract checks follows the one by name.
-/
namespace Uncaught

theorem NameTable.noteAll_eq_self {names : NameTable} {mentions : List Mention}
    (known : ∀ name ∈ mentions, names.Has name) : names.noteAll mentions = names := by
  induction mentions with
  | nil => rfl
  | cons name rest ih =>
    have same : names.note name = names := by
      cases name with
      | type name => exact congrArg (NameTable.mk · _) (dif_pos (known _ List.mem_cons_self))
      | callable name => exact congrArg (NameTable.mk _) (dif_pos (known _ List.mem_cons_self))
    show (names.note name).noteAll rest = names
    rw [same]
    exact ih fun other member => known other (List.mem_cons_of_mem name member)

namespace Stats

theorem merge_add (s : Stats) (counter : Counter) :
    s.merge (zero.add counter 1) = s.add counter 1 := by
  cases counter <;> simp [merge, add, zero, AbstentionCounts.merge, AbstentionCounts.zero]

theorem merge_addAbstention (s : Stats) (reason : Abstention) :
    s.merge (zero.addAbstention reason) = s.addAbstention reason := by
  have entry (count : Option Nat) : count.merge (· + ·) (some 1) = some (count.getD 0 + 1) := by
    cases count <;> simp
  cases reason <;>
    simp [merge, addAbstention, zero, AbstentionCounts.merge, AbstentionCounts.record,
      AbstentionCounts.zero, AbstentionCounts.get, AbstentionCounts.entry?, entry]

end Stats

/-- A table of names and what has been reported since. -/
structure Progress where
  start : NameTable
  done : Report

namespace Progress

/-- The names there are now. -/
def names (r : Progress) : NameTable := r.start.noteAll r.done.mentions

def write (r : Progress) (part : Report) : Progress := { r with done := r.done ++ part }

/-- A list of ignored types as it is now, if it was there at the start. -/
def ignored (list : IgnoredTypes) (r : Progress) : IgnoredTypes :=
  if r.done.askedIgnored then list.initialized else list

theorem names_write (r : Progress) (part : Report) :
    (r.write part).names = r.names.noteAll part.mentions := r.start.noteAll_append _ _

theorem write_empty (r : Progress) : r.write ∅ = r := by
  rw [write, Report.append_empty]

theorem write_append (r : Progress) (a b : Report) : r.write (a ++ b) = (r.write a).write b := by
  rw [write, ← Report.append_assoc]
  rfl

theorem keptBy_write (r : Progress) (part : Report) : r.names.KeptBy (r.write part).names := by
  rw [names_write]
  exact r.names.keptBy_noteAll _

end Progress

/-- The ignored types, with the mark that they were asked for. -/
def CheckInput.askIgnored (input : CheckInput) : Check TypeSet := do
  Logged.write { Report.empty with askedIgnored := true }
  input.ignored

theorem CheckInput.log_askIgnored (input : CheckInput) :
    input.askIgnored.log =
      { Report.empty with mentions := input.ignored.log, askedIgnored := true } :=
  Report.ext rfl (Stats.merge_zero _) rfl rfl

theorem CheckInput.isReportable_eq (input : CheckInput) (lineage : TypeSet) :
    input.isReportable lineage = (do
      let ignored ← input.askIgnored
      return ignored.isEmpty || !lineage.castable ignored) :=
  (Check.bind_assoc _ _ _).symm

namespace Interned

/-! ## Ignored types -/

structure IgnoredTypes.StandsFor (names : NameTable) (list : IgnoredTypes)
    (list' : Uncaught.IgnoredTypes) : Prop where
  configured : list.configured = list'.configured
  parsed : Option.Rel (TypeSet.StandsFor names) list.parsed list'.parsed

theorem IgnoredTypes.StandsFor.mono {names later : NameTable} {list : IgnoredTypes}
    {list' : Uncaught.IgnoredTypes} (h : list.StandsFor names list') (kept : names.KeptBy later) :
    list.StandsFor later list' :=
  ⟨h.configured, h.parsed.imp fun _ _ types => types.mono kept⟩

theorem follows_parseIgnored {names : NameTable} {types : TypeSet} {types' : Uncaught.TypeSet}
    (ht : types.StandsFor names types') (sources : List String) :
    Follows names TypeSet.StandsFor (parseIgnored types sources)
      (Uncaught.parseIgnored types' sources) := by
  induction sources generalizing names types types' with
  | nil => exact Follows.pure ht
  | cons source rest ih =>
    unfold parseIgnored Uncaught.parseIgnored
    split
    · exact ih ht
    · refine (TypeSet.follows_parse names source).bind fun later parsed parsed' kept hs => ?_
      exact ih ((ht.mono kept).union hs)

/-- Asking for the types of a list, in a session or in a check, leaves it initialized. -/
theorem IgnoredTypes.StandsFor.follows_get {names : NameTable} {list : IgnoredTypes}
    {list' : Uncaught.IgnoredTypes} (h : list.StandsFor names list') :
    Follows names (fun later answer types' =>
        answer.1.StandsFor later types' ∧ answer.2.StandsFor later list'.initialized)
      list.get list'.types := by
  obtain ⟨configured, parsed⟩ := list
  obtain ⟨configured', parsed'⟩ := list'
  obtain ⟨rfl, parsed⟩ := h
  cases parsed with
  | some ht => exact Follows.pure ⟨ht, rfl, .some ht⟩
  | none =>
    have parsed : Follows names TypeSet.StandsFor (parseIgnored TypeSet.empty configured)
      (Uncaught.parseIgnored .empty configured) :=
        follows_parseIgnored TypeSet.standsFor_empty configured
    exact ⟨parsed.names_eq, parsed.value, rfl, .some parsed.value⟩

/-! ## States -/

/-- The state in which a check goes on, with a list of ignored types from the start, when something
has been reported since. -/
structure CheckState.StandsFor (list : Uncaught.IgnoredTypes) (r : Progress) (s : CheckState) :
    Prop where
  names : s.names = r.names
  ignored : s.ignored.StandsFor r.names (r.ignored list)
  /-- The names of ignored types are there from the first question on. -/
  entered : r.done.askedIgnored = true → ∀ name ∈ list.types.log, r.names.Has name
  diagnostics : s.diagnostics = r.done.diagnostics
  stats : s.stats = r.done.stats

/-- From a state on, a check leads to the state for what another one has reported, and its result is
related to the other's. -/
def Check.Follows {α β : Type} (list : Uncaught.IgnoredTypes) (r : Progress)
    (related : NameTable → α → β → Prop) (x : Check α) (y : Uncaught.Check β) : Prop :=
  ∀ s : CheckState, s.StandsFor list r →
    (x.run s).2.StandsFor list (r.write y.log) ∧
      related (r.write y.log).names (x.run s).1 y.value

/-- A check that gives just the result of another one. -/
abbrev Check.Matches {α : Type} (list : Uncaught.IgnoredTypes) (r : Progress) (x : Check α)
    (y : Uncaught.Check α) : Prop :=
  Check.Follows list r (fun _ => Eq) x y

namespace Check.Follows

variable {α β γ δ : Type} {list : Uncaught.IgnoredTypes} {r : Progress}
  {related : NameTable → α → β → Prop} {related' : NameTable → γ → δ → Prop} {x : Check α}
  {y : Uncaught.Check β}

protected theorem pure {a : α} {b : β} (h : related r.names a b) :
    Follows list r related (pure a) (pure b) := by
  intro s hs
  show s.StandsFor list (r.write ∅) ∧ related (r.write ∅).names a b
  rw [r.write_empty]
  exact ⟨hs, h⟩

protected theorem bind {f : α → Check γ} {g : β → Uncaught.Check δ}
    (first : Follows list r related x y)
    (next : ∀ later a b, r.names.KeptBy (Progress.names later) → related later.names a b →
      Follows list later related' (f a) (g b)) :
    Follows list r related' (x >>= f) (y >>= g) := by
  intro s hs
  obtain ⟨middle, value⟩ := first s hs
  show CheckState.StandsFor list (r.write (y.log ++ (g y.value).log)) _ ∧
    related' (r.write (y.log ++ (g y.value).log)).names _ _
  rw [r.write_append]
  exact next _ _ _ (r.keptBy_write y.log) value _ middle

/-- Names that an answer enters are the ones that are reported. -/
protected theorem lift {answer : Interning α} {answer' : Noted β}
    (follows : Interned.Follows r.names related answer answer') :
    Follows list r related (liftM answer) (liftM answer') := by
  intro s hs
  let part : Report := { Report.empty with mentions := answer'.log }
  have names : (answer.run s.names).2 = (r.write part).names := by
    rw [hs.names, follows.names_eq]
    exact (r.names_write part).symm
  have unasked : (r.write part).done.askedIgnored = r.done.askedIgnored := Bool.or_false _
  have kept : (r.write part).ignored list = r.ignored list := by
    rw [Progress.ignored, unasked]
    rfl
  show CheckState.StandsFor list (r.write part) { s with names := (answer.run s.names).2 } ∧
    related (r.write part).names (answer.run s.names).1 answer'.value
  constructor
  · -- The ignored types stay as they are, asked for or not; their numbers keep their meaning.
    refine ⟨names, ?_, ?_, hs.diagnostics.trans (List.append_nil _).symm,
      hs.stats.trans (Stats.merge_zero _).symm⟩
    · rw [kept]
      exact hs.ignored.mono (r.keptBy_write part)
    · intro asked name member
      rw [r.names_write]
      exact NameTable.has_noteAll.2 (.inl (hs.entered (unasked ▸ asked) name member))
  · rw [← names, hs.names]
    exact follows.value

/-- Diagnostics and counts are added to what there is. -/
protected theorem write {x : Check Unit} {part : Report} (names : part.mentions = [])
    (unasked : part.askedIgnored = false)
    (writes : ∀ s : CheckState, (x.run s).2 = { s with
      diagnostics := s.diagnostics ++ part.diagnostics
      stats := s.stats.merge part.stats }) :
    Check.Matches list r x (Logged.write part) := by
  intro s hs
  have same : (r.write part).names = r.names := by
    rw [r.names_write, names]
    rfl
  have asked : (r.write part).done.askedIgnored = r.done.askedIgnored := by
    show (r.done.askedIgnored || part.askedIgnored) = r.done.askedIgnored
    rw [unasked, Bool.or_false]
  have kept : (r.write part).ignored list = r.ignored list := by
    rw [Progress.ignored, asked]
    rfl
  refine ⟨?_, rfl⟩
  show CheckState.StandsFor list (r.write part) _
  rw [writes s]
  refine ⟨hs.names.trans same.symm, ?_, ?_, congrArg (· ++ part.diagnostics) hs.diagnostics,
    congrArg (Stats.merge · part.stats) hs.stats⟩
  · rw [same, kept]
    exact hs.ignored
  · rw [asked, same]
    exact hs.entered

protected theorem count (counter : Counter) :
    Check.Matches list r (Check.count counter) (Uncaught.Check.count counter) := by
  refine Follows.write rfl rfl fun s => ?_
  show _ = { s with diagnostics := s.diagnostics ++ [], stats := _ }
  rw [List.append_nil, Stats.merge_add]
  rfl

protected theorem emit (d : Diagnostic) :
    Check.Matches list r (Check.emit d) (Uncaught.Check.emit d) := by
  refine Follows.write rfl rfl fun s => ?_
  rw [Stats.merge_add]
  rfl

protected theorem abstain (reason : Abstention) :
    Check.Matches list r (Check.abstain reason) (Uncaught.Check.abstain reason) := by
  refine Follows.write rfl rfl fun s => ?_
  show _ = { s with diagnostics := s.diagnostics ++ [], stats := _ }
  rw [List.append_nil, Stats.merge_addAbstention]
  rfl

/-- The first question has the list parsed, and later ones are answered from what it has left. The
names that they spell out again are there already. -/
protected theorem ignoredTypes (p : Uncaught.Program) :
    Follows list r TypeSet.StandsFor Check.ignoredTypes
      (CheckInput.askIgnored ⟨p, list.types⟩) := by
  intro s hs
  let part : Report := { Report.empty with mentions := list.types.log, askedIgnored := true }
  rw [CheckInput.log_askIgnored]
  have asked : (r.write part).done.askedIgnored = true := Bool.or_true _
  -- The list as it is now spells out what is spelled out here, or else that is known.
  have names : r.names.noteAll (r.ignored list).types.log = (r.write part).names := by
    rw [r.names_write]
    cases known : r.done.askedIgnored with
    | false => rw [Progress.ignored, known, if_neg Bool.false_ne_true]
    | true =>
      rw [Progress.ignored, known, if_pos rfl, NameTable.noteAll_eq_self (hs.entered known)]
      rfl
  have types : (r.ignored list).types.value = list.types.value := by
    rw [Progress.ignored]
    split <;> rfl
  have left : (r.ignored list).initialized = (r.write part).ignored list := by
    rw [Progress.ignored, Progress.ignored, asked, if_pos rfl]
    split <;> rfl
  obtain ⟨entered, got⟩ := hs.ignored.follows_get
  rw [types, left] at got
  rw [entered, names, ← hs.names] at got
  show CheckState.StandsFor list (r.write part) { s with
      names := (s.ignored.get.run s.names).2
      ignored := (s.ignored.get.run s.names).1.2 } ∧
    TypeSet.StandsFor (r.write part).names (s.ignored.get.run s.names).1.1 list.types.value
  refine ⟨⟨?_, got.2, fun _ name member => ?_, ?_, ?_⟩, got.1⟩
  · rw [← names, ← entered, hs.names]
  · rw [r.names_write]
    exact NameTable.has_noteAll.2 (.inr member)
  · exact hs.diagnostics.trans (List.append_nil _).symm
  · exact hs.stats.trans (Stats.merge_zero _).symm

/-- A check done for each member of a list follows the check done for each member of a related one.
-/
protected theorem forM {R : NameTable → α → β → Prop}
    (mono : ∀ names later a b, NameTable.KeptBy names later → R names a b → R later a b)
    {xs : List α} {ys : List β} (related : List.Forall₂ (R r.names) xs ys)
    {f : α → Check Unit} {g : β → Uncaught.Check Unit}
    (each : ∀ later a b, r.names.KeptBy (Progress.names later) → R later.names a b →
      Check.Matches list later (f a) (g b)) :
    Check.Matches list r (xs.forM f) (ys.forM g) := by
  induction xs generalizing r ys with
  | nil =>
    cases related
    exact Follows.pure rfl
  | cons x xs ih =>
    cases related with
    | cons first rest =>
      refine Follows.bind (each r _ _ (.refl _) first) fun later _ _ kept _ => ?_
      refine ih (rest.imp fun _ _ h => mono _ _ _ _ kept h) fun last a b kept' h => ?_
      exact each last a b (kept.trans kept') h

/-- The table of names can be looked at. -/
protected theorem get {f : CheckState → Check α}
    (next : ∀ s, s.names = r.names → Follows list r related (f s) y) :
    Follows list r related (get >>= f) y :=
  fun s hs => next s hs.names s hs

end Check.Follows

/-! ## Contracts -/

section

variable {names : NameTable} {list : Uncaught.IgnoredTypes} {r : Progress} {p : Program}
  {p' : Uncaught.Program} {site : Site}

theorem Program.StandsFor.matches_isReportable (hp : p.StandsFor r.names p') {lineage : TypeSet}
    {lineage' : Uncaught.TypeSet} (hl : lineage.StandsFor r.names lineage') :
    Check.Matches list r (p.isReportable lineage)
      (CheckInput.isReportable ⟨p', list.types⟩ lineage') := by
  rw [CheckInput.isReportable_eq]
  refine (Check.Follows.ignoredTypes p').bind fun later ignored ignored' kept hi => ?_
  refine Check.Follows.pure ?_
  rw [hi.isEmpty_eq, (hp.mono kept).castable_eq (hl.mono kept) hi]

theorem Program.StandsFor.admits_eq (hp : p.StandsFor names p') {contract : Contract}
    {contract' : Uncaught.Contract} (hc : contract.StandsFor names contract') {lineage : TypeSet}
    {lineage' : Uncaught.TypeSet} (hl : lineage.StandsFor names lineage') :
    p.admits contract lineage = contract'.admits lineage' := by
  cases hc with
  | undeclared => rfl
  | declared ht => exact hp.castable_eq hl ht

/-- A violation is written in names, whatever their numbers are. -/
theorem violation_eq {function : Callable} {function' : Uncaught.Callable}
    (hf : function.StandsFor names function') {contract : Contract} {contract' : Uncaught.Contract}
    (hc : contract.StandsFor names contract') {invoked : Option Callable}
    {invoked' : Option Uncaught.Callable}
    (hi : Option.Rel (Callable.StandsFor names) invoked invoked') {t : TypeRef} {t' : NamedType}
    (ht : t.StandsFor names t') :
    violation names site function contract invoked t =
      site.violation function' contract' invoked' t' := by
  have target : invoked.isSome = invoked'.isSome ∧
      invoked.map (·.name) = invoked'.map (·.name) := by
    cases hi with
    | none => exact ⟨rfl, rfl⟩
    | some h => exact ⟨rfl, congrArg some h.name⟩
  have declared : contract.declared?.map (TypeSet.render names) =
      contract'.declared?.map Uncaught.TypeSet.render := by
    cases hc with
    | undeclared => rfl
    | declared hd => exact congrArg some hd.render_eq
  unfold violation Site.violation
  rw [hf.name, target.1, target.2, (TypeSet.standsFor_singleton ht).render_eq, declared]
  cases hc <;> rfl

theorem matches_reportType (hp : p.StandsFor r.names p') {function : Callable}
    {function' : Uncaught.Callable} (hf : function.StandsFor r.names function')
    {contract : Contract} {contract' : Uncaught.Contract}
    (hc : contract.StandsFor r.names contract') {invoked : Option Callable}
    {invoked' : Option Uncaught.Callable}
    (hi : Option.Rel (Callable.StandsFor r.names) invoked invoked') {t : TypeRef} {t' : NamedType}
    (ht : t.StandsFor r.names t') :
    Check.Matches list r (reportType p site function contract invoked t)
      (Uncaught.reportType ⟨p', list.types⟩ site function' contract' invoked' t') := by
  have lineage := hp.hierarchy.withAncestors ht
  refine (hp.matches_isReportable lineage).bind fun later reportable _ kept same => ?_
  subst same
  cases reportable with
  | false => exact Check.Follows.pure rfl
  | true =>
    have admits := hp.admits_eq hc lineage
    dsimp only
    rw [if_pos rfl, if_pos rfl, admits]
    split
    · exact Check.Follows.pure rfl
    · -- Only here are numbers turned into names, with the table that there is at this point.
      refine Check.Follows.get fun s names => ?_
      have hi := hi.imp fun _ _ h => h.mono kept
      rw [names, violation_eq (hf.mono kept) (hc.mono kept) hi (ht.mono kept)]
      exact Check.Follows.emit _

theorem matches_reportEscaping (hp : p.StandsFor r.names p') {escaping : TypeSet}
    {escaping' : Uncaught.TypeSet} (he : escaping.StandsFor r.names escaping')
    {invoked : Option Callable} {invoked' : Option Uncaught.Callable}
    (hi : Option.Rel (Callable.StandsFor r.names) invoked invoked') :
    Check.Matches list r (reportEscaping p site escaping invoked)
      (Uncaught.reportEscaping ⟨p', list.types⟩ site escaping' invoked') := by
  unfold reportEscaping Uncaught.reportEscaping
  rw [he.isEmpty_eq]
  split
  · exact Check.Follows.pure rfl
  · refine (Check.Follows.lift (hp.follows_callableOf site.routine)).bind
      fun middle function function' kept hf => ?_
    have hp := hp.mono kept
    have he := he.mono kept
    have hi := hi.imp fun _ _ h => h.mono kept
    refine Check.Follows.forM (R := TypeRef.StandsFor) (fun _ _ _ _ kept ht => ht.mono kept) he
      fun later t t' kept ht => ?_
    exact matches_reportType (hp.mono kept) (hf.mono kept) ((hp.contract hf).mono kept)
      (hi.imp fun _ _ h => h.mono kept) ht

theorem matches_reportThrown (hp : p.StandsFor r.names p') {candidates : TypeSet}
    {candidates' : Uncaught.TypeSet} (hc : candidates.StandsFor r.names candidates')
    {invoked : Option Callable} {invoked' : Option Uncaught.Callable}
    (hi : Option.Rel (Callable.StandsFor r.names) invoked invoked') :
    Check.Matches list r (reportThrown p site candidates invoked)
      (Uncaught.reportThrown ⟨p', list.types⟩ site candidates' invoked') :=
  (Check.Follows.lift (hp.follows_escaping hc (ScopePath.clauses site.scopes))).bind
    fun _ _ _ kept he => matches_reportEscaping (hp.mono kept) he
      (hi.imp fun _ _ h => h.mono kept)

theorem matches_checkTarget (hp : p.StandsFor r.names p') {target : Callable}
    {target' : Uncaught.Callable} (ht : target.StandsFor r.names target') :
    Check.Matches list r (checkTarget p site target)
      (Uncaught.checkTarget ⟨p', list.types⟩ site target') := by
  have candidates := (hp.contract ht).candidates
  unfold checkTarget Uncaught.checkTarget
  dsimp only
  rw [candidates.isEmpty_eq]
  split
  · exact Check.Follows.pure rfl
  · exact matches_reportThrown hp candidates (.some ht)

theorem matches_checkMethod (hp : p.StandsFor r.names p') {found : Except Abstention Callable}
    {found' : Except Abstention Uncaught.Callable}
    (hf : OutcomeRel (Callable.StandsFor r.names) found found') :
    Check.Matches list r (checkMethod p site found)
      (Uncaught.checkMethod ⟨p', list.types⟩ site found') := by
  cases hf with
  | ok ht => exact matches_checkTarget hp ht
  | error reason => exact Check.Follows.abstain reason

end

/-! ## Handlers -/

/-- A handler leaves at every site what the other one reports there. -/
def Handler.Follows (handler : Handler) (handler' : Uncaught.Handler) : Prop :=
  ∀ (list : Uncaught.IgnoredTypes) (r : Progress) (p : Program) (p' : Uncaught.Program)
    (site : Site), p.StandsFor r.names p' →
      Check.Matches list r (handler p site) (handler' ⟨p', list.types⟩ site)

/-- The handlers of a table follow those of the other one, kind by kind. -/
def Handlers.Follow (handlers : Handlers) (handlers' : Uncaught.Handlers) : Prop :=
  ∀ kind, Option.Rel Handler.Follows (handlers.handler? kind) (handlers'.handler? kind)

theorem follows_checkThrow : checkThrow.Follows Uncaught.checkThrow := by
  intro list r p p' site hp
  unfold checkThrow Uncaught.checkThrow
  cases site.action with
  | call c => exact Check.Follows.pure rfl
  | throw thrown =>
    refine (Check.Follows.count .throwSites).bind fun middle _ _ kept _ => ?_
    have hp := hp.mono kept
    refine (Check.Follows.lift (hp.follows_typesOf site.routine thrown)).bind
      fun later types types' kept ht => ?_
    rw [ht.isEmpty_eq]
    split
    · exact Check.Follows.count .unknownTypes
    · exact matches_reportThrown (hp.mono kept) ht .none

theorem follows_checkCall : checkCall.Follows Uncaught.checkCall := by
  intro list r p p' site hp
  unfold checkCall Uncaught.checkCall
  rcases site.action with thrown | call
  · exact Check.Follows.pure rfl
  cases call with
  | function callee =>
    refine (Check.Follows.count .callSites).bind fun later _ _ kept _ => ?_
    have hp := hp.mono kept
    have targets := hp.callTargets site.routine callee
    dsimp only
    revert targets
    generalize p.callTargets site.routine callee = found,
      p'.callTargets site.routine callee = found'
    intro targets
    cases targets with
    | error reason => exact Check.Follows.abstain reason
    | ok ht =>
      exact Check.Follows.forM (R := Callable.StandsFor) (fun _ _ _ _ kept h => h.mono kept) ht
        fun last _ _ kept h => matches_checkTarget (hp.mono kept) h
  | _ => exact Check.Follows.pure rfl

theorem follows_checkMethodCall : checkMethodCall.Follows Uncaught.checkMethodCall := by
  intro list r p p' site hp
  unfold checkMethodCall Uncaught.checkMethodCall
  rcases site.action with thrown | call
  · exact Check.Follows.pure rfl
  cases call with
  | method receiver method =>
    refine (Check.Follows.count .callSites).bind fun later _ _ kept _ => ?_
    have hp := hp.mono kept
    cases method.known? with
    | none => exact Check.Follows.abstain .unresolvable
    | some name =>
      exact (Check.Follows.lift (hp.follows_methodTarget site.routine receiver name .object)).bind
        fun last _ _ kept found => matches_checkMethod (hp.mono kept) found
  | _ => exact Check.Follows.pure rfl

theorem follows_checkStaticCall : checkStaticCall.Follows Uncaught.checkStaticCall := by
  intro list r p p' site hp
  unfold checkStaticCall Uncaught.checkStaticCall
  rcases site.action with thrown | call
  · exact Check.Follows.pure rfl
  cases call with
  | static className name =>
    refine (Check.Follows.count .callSites).bind fun later _ _ kept _ => ?_
    have hp := hp.mono kept
    have target := hp.follows_methodTarget site.routine className name (.static true)
    exact (Check.Follows.lift target).bind fun last _ _ kept found =>
      matches_checkMethod (hp.mono kept) found
  | _ => exact Check.Follows.pure rfl

namespace Handlers

theorem follow_empty : empty.Follow .empty := fun _ => .none

theorem Follow.register {handlers : Handlers} {handlers' : Uncaught.Handlers}
    (follow : handlers.Follow handlers') {handler : Handler} {handler' : Uncaught.Handler}
    (follows : handler.Follows handler') (kind : SiteKind) :
    (handlers.register kind handler).Follow (handlers'.register kind handler') := by
  intro other
  unfold Handlers.register Uncaught.Handlers.register
  dsimp only
  split
  · exact .some follows
  · exact follow other

/-- The checks that a configuration asks for follow those by name. -/
theorem follow_ofConfig (config : Config) : (ofConfig config).Follow (.ofConfig config) := by
  have throwsOnly := follow_empty.register follows_checkThrow .throw
  have withCalls := ((throwsOnly.register follows_checkCall .call).register
    follows_checkMethodCall .methodCall).register follows_checkStaticCall .staticCall
  unfold ofConfig Uncaught.Handlers.ofConfig
  split
  · exact withCalls
  · exact throwsOnly

end Handlers

end Interned

end Uncaught
