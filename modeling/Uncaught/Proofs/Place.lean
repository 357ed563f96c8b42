import Mathlib.Data.List.Basic
import Uncaught.Check.Walk

/-!
Places in a source file, and what stands at them.

A place is the way down from the file to a node: the number of the item, and then in every node that
is passed the number of the child. Children are numbered in the order of the text, those of a try
statement through the protected body, the clauses and the part that always runs. What is found at a
place is an *occurrence*: the node together with the nodes above it. From the nodes above come the
scopes around the node, the routine that encloses it, and the clauses that may catch what it throws.

Nothing here follows the walk of the checker: a place is looked up by its numbers. `places` lists all
places of a file, and `Place.Before` is the order in which a walk has to come by them, from the
children to the parent. `mem_places` and `places_pairwise` say that the list is complete and in this
order, so every place stands in it exactly once.
-/
namespace Uncaught

structure Definition where
  routine : Routine
  body : List Node

namespace Node

/-- The routine that a node defines, if it defines one. -/
def definition? : Node → Option Definition
  | .routine f body => some ⟨f, body⟩
  | _ => none

/-- What happens at a node, and where, if something does. -/
def event? : Node → Option (Position × Action)
  | .throw position thrown => some (position, .throw thrown)
  | .call position c _ => some (position, .call c)
  | _ => none

/-- The kind of site that a node is, if it is one. -/
def siteKind? : Node → Option SiteKind
  | .throw _ _ => some .throw
  | .call _ (.function _) _ => some .call
  | .call _ (.method _ _) _ => some .methodCall
  | .call _ (.static _ _) _ => some .staticCall
  | _ => none

/-- The clauses of a node that is a try statement. -/
def catches : Node → Catches
  | .tryCatch _ clauses _ => clauses.map CatchClause.types
  | _ => []

/-- The nodes directly below a node in the order of the text, each with the step of scope that leads
into its part of the node, if there is one. -/
def children : Node → List (Option ScopeStep × Node)
  | .routine f body => body.map (some (.inRoutine f), ·)
  | .block body => body.map (none, ·)
  | .tryCatch body clauses final =>
    let catches := clauses.map CatchClause.types
    body.map (some (.inTry catches), ·) ++
      clauses.flatMap (fun clause =>
        clause.body.map (some (.inCatch catches clause.types), ·)) ++
      (final.getD []).map (some (.inFinally catches), ·)
  | .throw _ _ => []
  | .call _ _ arguments => arguments.map (none, ·)

theorem siteKind?_eq (node : Node) : node.siteKind? = node.event?.map (·.2.kind) := by
  cases node with
  | call position call arguments => cases call <;> rfl
  | _ => rfl

theorem sizeOf_child {node : Node} {child : Option ScopeStep × Node} (h : child ∈ node.children) :
    sizeOf child.2 < sizeOf node := by
  cases node with
  | routine f body =>
    obtain ⟨inner, hm, rfl⟩ := List.mem_map.1 h
    have := List.sizeOf_lt_of_mem hm
    simp only [Node.routine.sizeOf_spec]
    omega
  | block body =>
    obtain ⟨inner, hm, rfl⟩ := List.mem_map.1 h
    have := List.sizeOf_lt_of_mem hm
    simp only [Node.block.sizeOf_spec]
    omega
  | tryCatch body clauses final =>
    simp only [children, List.mem_append, List.mem_map, List.mem_flatMap] at h
    simp only [Node.tryCatch.sizeOf_spec]
    rcases h with (⟨inner, hm, rfl⟩ | ⟨⟨types, handler⟩, hc, inner, hm, rfl⟩) | ⟨inner, hm, rfl⟩
    · show sizeOf inner < _
      have := List.sizeOf_lt_of_mem hm
      omega
    · show sizeOf inner < _
      have := List.sizeOf_lt_of_mem hc
      have : sizeOf inner < sizeOf handler := List.sizeOf_lt_of_mem hm
      simp only [CatchClause.mk.sizeOf_spec] at *
      omega
    · show sizeOf inner < _
      cases final with
      | none => simp at hm
      | some final =>
        have : sizeOf inner < sizeOf final := List.sizeOf_lt_of_mem hm
        simp only [Option.some.sizeOf_spec]
        omega
  | throw position thrown => simp [children] at h
  | call position c arguments =>
    obtain ⟨inner, hm, rfl⟩ := List.mem_map.1 h
    have := List.sizeOf_lt_of_mem hm
    simp only [Node.call.sizeOf_spec]
    omega

/-- Induction over nodes: what holds of a node when it holds of its children holds of all. -/
@[elab_as_elim]
theorem inductionOn {motive : Node → Prop} (node : Node)
    (step : ∀ node, (∀ child ∈ node.children, motive child.2) → motive node) : motive node :=
  step node fun child _ => inductionOn child.2 step
termination_by sizeOf node
decreasing_by exact sizeOf_child ‹_›

end Node

/-! ## Places -/

/-- A way down: the number of the item or the child to take, level by level. -/
abbrev Place := List Nat

namespace Place

/-- The order of a walk that visits children first: what lies below a place comes before it, and
where two ways part the smaller number comes first. -/
inductive Before : Place → Place → Prop
  | inside (i : Nat) (place : Place) : Before (i :: place) []
  | earlier {i j : Nat} (h : i < j) (place other : Place) : Before (i :: place) (j :: other)
  | within (i : Nat) {place other : Place} (h : Before place other) :
      Before (i :: place) (i :: other)

theorem Before.irrefl {place : Place} : ¬ Before place place := by
  intro h
  induction place with
  | nil => cases h
  | cons i place ih =>
    cases h with
    | earlier h => exact Nat.lt_irrefl i h
    | within _ h => exact ih h

/-- The places below several entries, given those of each: every one behind the entry's number. -/
def below (entries : List (List Place)) : List Place :=
  entries.zipIdx.flatMap fun (places, i) => places.map (i :: ·)

theorem mem_below {entries : List (List Place)} {place : Place} :
    place ∈ below entries ↔
      ∃ i rest places, place = i :: rest ∧ entries[i]? = some places ∧ rest ∈ places := by
  simp only [below, List.mem_flatMap, List.mem_map]
  constructor
  · intro h
    obtain ⟨⟨places, i⟩, h, rest, hr, rfl⟩ := h
    exact ⟨i, rest, places, rfl, List.mem_zipIdx_iff_getElem?.1 h, hr⟩
  · intro h
    obtain ⟨i, rest, places, rfl, h, hr⟩ := h
    exact ⟨(places, i), List.mem_zipIdx_iff_getElem?.2 h, rest, hr, rfl⟩

theorem pairwise_zipIdx {α : Type} (xs : List α) (n : Nat) :
    (xs.zipIdx n).Pairwise fun a b => a.2 < b.2 := by
  induction xs generalizing n with
  | nil => exact List.Pairwise.nil
  | cons x xs ih =>
    refine List.pairwise_cons.2 ⟨fun b hb => ?_, ih (n + 1)⟩
    exact List.le_snd_of_mem_zipIdx hb

theorem below_pairwise {entries : List (List Place)}
    (sorted : ∀ places ∈ entries, places.Pairwise Before) : (below entries).Pairwise Before := by
  refine List.pairwise_flatMap.2 ⟨?_, ?_⟩
  · -- Below one entry the order is that of its own places.
    intro (places, i) h
    have hp := sorted places (List.mem_of_getElem? (List.mem_zipIdx_iff_getElem?.1 h))
    exact List.pairwise_map.2 (hp.imp fun hb => .within i hb)
  · -- Below two entries the numbers of the entries decide.
    refine (pairwise_zipIdx entries 0).imp fun {a b} less x hx y hy => ?_
    obtain ⟨place, -, rfl⟩ := List.mem_map.1 hx
    obtain ⟨other, -, rfl⟩ := List.mem_map.1 hy
    exact .earlier less place other

/-- Looking up the places below entries is looking up each entry's own places in it. -/
theorem filterMap_below {α β : Type} (xs : List α) (places : α → List Place)
    (find? : α → Place → Option β) (whole? : Place → Option β)
    (cons : ∀ i place, whole? (i :: place) = xs[i]?.bind fun x => find? x place) :
    (below (xs.map places)).filterMap whole? =
      xs.flatMap fun x => (places x).filterMap (find? x) := by
  have entry : ∀ e ∈ xs.zipIdx,
      ((places e.1).map (e.2 :: ·)).filterMap whole? = (places e.1).filterMap (find? e.1) := by
    intro (x, i) h
    have hx : xs[i]? = some x := List.mem_zipIdx_iff_getElem?.1 h
    rw [List.filterMap_map]
    apply List.filterMap_congr
    intro place _
    rw [Function.comp_apply, cons, hx, Option.bind_some]
  calc (below (xs.map places)).filterMap whole?
      = xs.zipIdx.flatMap fun e => ((places e.1).map (e.2 :: ·)).filterMap whole? := by
        rw [below, List.zipIdx_map, List.flatMap_map, List.filterMap_flatMap]
        rfl
    _ = xs.zipIdx.flatMap fun e => (places e.1).filterMap (find? e.1) := List.flatMap_congr entry
    _ = xs.flatMap fun x => (places x).filterMap (find? x) := by
        conv_rhs => rw [← List.zipIdx_map_fst 0 xs, List.flatMap_map]

end Place

/-! ## Occurrences -/

/-- A node in a source file, and what is above it. -/
structure Occurrence where
  node : Node
  /-- The nodes above, innermost first, each with the step of scope that leads down from it. -/
  above : List (Node × Option ScopeStep)

namespace Node

/-- What stands at a place below a node that has some nodes above it. -/
def at? (above : List (Node × Option ScopeStep)) (node : Node) : Place → Option Occurrence
  | [] => some ⟨node, above⟩
  | i :: place =>
    node.children[i]?.bind fun child => child.2.at? ((node, child.1) :: above) place

/-- The places of a node and of the nodes below it. -/
def places (node : Node) : List Place :=
  Place.below (node.children.attach.map fun child => child.1.2.places) ++ [[]]
termination_by sizeOf node
decreasing_by exact sizeOf_child child.2

/-- What stands at the places of a node that has some nodes above it. -/
def occurrences (above : List (Node × Option ScopeStep)) (node : Node) : List Occurrence :=
  node.places.filterMap (node.at? above)

theorem places_eq (node : Node) :
    node.places = Place.below (node.children.map fun child => child.2.places) ++ [[]] := by
  rw [places, List.attach_map_val (f := fun child : Option ScopeStep × Node => child.2.places)]

theorem mem_places {node : Node} {above : List (Node × Option ScopeStep)} {place : Place} :
    place ∈ node.places ↔ ∃ o, node.at? above place = some o := by
  -- Along the place, since a look-up goes down by one number at a time.
  induction place generalizing node above with
  | nil =>
    rw [places_eq]
    exact iff_of_true (by simp) ⟨_, rfl⟩
  | cons i place ih =>
    rw [places_eq, List.mem_append, Place.mem_below]
    simp only [List.getElem?_map, Option.map_eq_some_iff, at?, Option.bind_eq_some_iff]
    constructor
    · intro h
      rcases h with ⟨j, rest, places, h, ⟨child, hc, rfl⟩, hr⟩ | h
      · obtain ⟨rfl, rfl⟩ := List.cons.inj h
        obtain ⟨o, ho⟩ := ih.1 hr
        exact ⟨o, child, hc, ho⟩
      · simp at h
    · intro h
      obtain ⟨o, child, hc, ho⟩ := h
      exact .inl ⟨i, place, _, rfl, ⟨child, hc, rfl⟩, ih.2 ⟨o, ho⟩⟩

theorem places_pairwise (node : Node) : node.places.Pairwise Place.Before := by
  induction node using inductionOn with
  | step node ih =>
    rw [places_eq]
    refine List.pairwise_append.2 ⟨Place.below_pairwise ?_, List.pairwise_singleton .., ?_⟩
    · intro places h
      obtain ⟨child, hc, rfl⟩ := List.mem_map.1 h
      exact ih child hc
    · -- The node itself comes behind everything below it.
      intro place h other ho
      obtain ⟨i, rest, -, rfl, -⟩ := Place.mem_below.1 h
      rw [List.mem_singleton.1 ho]
      exact .inside i rest

/-- What stands below a node comes child by child, and then comes the node. -/
theorem occurrences_eq (above : List (Node × Option ScopeStep)) (node : Node) :
    node.occurrences above =
      (node.children.flatMap fun child => child.2.occurrences ((node, child.1) :: above)) ++
        [⟨node, above⟩] := by
  rw [occurrences, places_eq, List.filterMap_append,
    Place.filterMap_below _ _ (fun child => child.2.at? ((node, child.1) :: above)) _
      fun _ _ => rfl]
  rfl

end Node

namespace SourceFile

def at? (file : SourceFile) : Place → Option Occurrence
  | [] => none
  | i :: place => file.items[i]?.bind fun item => item.at? [] place

def places (file : SourceFile) : List Place := Place.below (file.items.map Node.places)

def occurrences (file : SourceFile) : List Occurrence := file.places.filterMap file.at?

/-- The places of a file are those at which something stands. -/
theorem mem_places {file : SourceFile} {place : Place} :
    place ∈ file.places ↔ ∃ o, file.at? place = some o := by
  rw [places, Place.mem_below]
  constructor
  · intro h
    obtain ⟨i, rest, places, rfl, hi, hr⟩ := h
    rw [List.getElem?_map, Option.map_eq_some_iff] at hi
    obtain ⟨item, hi, rfl⟩ := hi
    obtain ⟨o, ho⟩ := Node.mem_places.1 hr
    exact ⟨o, Option.bind_eq_some_iff.2 ⟨item, hi, ho⟩⟩
  · intro h
    obtain ⟨o, ho⟩ := h
    cases place with
    | nil => cases ho
    | cons i rest =>
      obtain ⟨item, hi, ho⟩ := Option.bind_eq_some_iff.1 ho
      refine ⟨i, rest, item.places, rfl, ?_, Node.mem_places.2 ⟨o, ho⟩⟩
      rw [List.getElem?_map, hi]
      rfl

/-- The places of a file are in the order of a walk that visits children first. -/
theorem places_pairwise (file : SourceFile) : file.places.Pairwise Place.Before := by
  apply Place.below_pairwise
  intro places h
  obtain ⟨item, -, rfl⟩ := List.mem_map.1 h
  exact item.places_pairwise

example : places ⟨"", [.routine ⟨"f", .function, none⟩
    [.tryCatch [.call ⟨1, 0⟩ (.function .unknown) [.throw ⟨1, 2⟩ .unknown]]
      [.mk ["E"] [.throw ⟨2, 0⟩ .unknown]] (some [.throw ⟨3, 0⟩ .unknown])]]⟩ =
    [[0, 0, 0, 0], [0, 0, 0], [0, 0, 1], [0, 0, 2], [0, 0], [0]] := by decide +kernel

theorem mem_occurrences {file : SourceFile} {o : Occurrence} :
    o ∈ file.occurrences ↔ ∃ place, file.at? place = some o := by
  rw [occurrences, List.mem_filterMap]
  constructor
  · intro h
    obtain ⟨place, -, h⟩ := h
    exact ⟨place, h⟩
  · intro h
    obtain ⟨place, h⟩ := h
    exact ⟨place, mem_places.2 ⟨o, h⟩, h⟩

theorem occurrences_eq (file : SourceFile) :
    file.occurrences = file.items.flatMap fun item => item.occurrences [] :=
  Place.filterMap_below _ _ _ _ fun _ _ => rfl

end SourceFile

end Uncaught
