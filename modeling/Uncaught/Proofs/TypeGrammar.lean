import Mathlib.Data.List.Forall2
import Mathlib.Data.List.Induction
import Uncaught.Codebase
import Uncaught.Proofs.TypeText

/-!
The grammar of type sets.

A text is cut at `|`. Every piece has to spell a type: blanks, a `?` and more blanks if the type is
nullable, a separator or none, a path, and blanks again; a path is one or more segments with single
separators in between. The grammar says this without the reader, by what a text is put together
from, and a piece is read as a type exactly if it spells this type (`ofPiece?_eq_some_iff`). So a
text writes a set other than the empty one exactly if all of its pieces spell a type; the members
are these types, each where it occurs first. The reader goes from left to right and gives up at the
first piece that spells none. It has met the names before that piece by then, and a code base
remembers them (`reading_follows_grammar`).
-/
namespace Uncaught

/-! ## The grammar -/

namespace Grammar

/-- A segment of a path: a letter or `_`, and then letters, numbers and `_`. -/
inductive Segment : List Char → Prop where
  | mk {c : Char} {cs : List Char} (first : c = '_' ∨ Text.isAlphabetic c = true)
      (rest : ∀ d ∈ cs, d = '_' ∨ Text.isAlphanumeric d = true) : Segment (c :: cs)

/-- One or more segments with a single separator between two neighbours. -/
def Path (text : List Char) : Prop :=
  ∃ segments, segments ≠ [] ∧ (∀ s ∈ segments, Segment s) ∧ text = Text.join ['\\'] segments

/-- A text spells a path, with or without a separator in front. -/
inductive SpellsPath : List Char → List Char → Prop where
  | plain {path : List Char} (valid : Path path) : SpellsPath path path
  | rooted {path : List Char} (valid : Path path) : SpellsPath ('\\' :: path) path

/-- A text spells a type: a path, behind `?` and blanks if the type is nullable. -/
inductive SpellsType : List Char → NamedType → Prop where
  | plain {text path : List Char} (spells : SpellsPath text path) :
      SpellsType text ⟨⟨String.ofList path⟩, false⟩
  | nullable {blanks text path : List Char} (blank : ∀ c ∈ blanks, Text.isBlank c = true)
      (spells : SpellsPath text path) :
      SpellsType ('?' :: (blanks ++ text)) ⟨⟨String.ofList path⟩, true⟩

/-- A piece of a text spells a type, with blanks around it or none. -/
def SpellsPiece (piece : List Char) (t : NamedType) : Prop :=
  ∃ before text after, piece = before ++ text ++ after ∧ (∀ c ∈ before, Text.isBlank c = true) ∧
    (∀ c ∈ after, Text.isBlank c = true) ∧ SpellsType text t

/-! ## Paths -/

variable {text path : List Char}

theorem isSegment_iff : isSegment text = true ↔ Segment text := by
  constructor
  · intro h
    cases text with
    | nil => cases h
    | cons c cs =>
      simp only [isSegment, Bool.and_eq_true, Bool.or_eq_true, beq_iff_eq, List.all_eq_true] at h
      exact ⟨h.1, h.2⟩
  · intro segment
    obtain ⟨first, rest⟩ := segment
    simpa [isSegment] using ⟨first, rest⟩

theorem Segment.not_mem_separator (segment : Segment text) : '\\' ∉ text := by
  intro separator
  have name := isNameChar_of_isSegment (isSegment_iff.2 segment) separator
  rw [Text.isNameChar_signs.2.2] at name
  cases name

/-- A path is what gives only segments when it is cut at the separators. -/
theorem path_iff : Path text ↔ ∀ s ∈ Text.pieces '\\' text, isSegment s = true := by
  constructor
  · intro path
    obtain ⟨segments, some, valid, rfl⟩ := path
    rw [Text.pieces_join '\\' some fun s hs => (valid s hs).not_mem_separator]
    exact fun s hs => isSegment_iff.2 (valid s hs)
  · intro valid
    exact ⟨_, Text.pieces_ne_nil _ _, fun s hs => isSegment_iff.1 (valid s hs),
      (Text.join_pieces '\\' text).symm⟩

theorem Path.afterRoot_eq (valid : Path path) : afterRoot path = path := by
  rw [afterRoot.eq_def]
  split
  next rest =>
    -- Nothing stands before the separator in front, and nothing is no segment.
    have segment := path_iff.1 valid [] (by rw [Text.pieces, if_pos rfl]; exact List.mem_cons_self)
    cases segment
  next => rfl

theorem spellsPath_iff : SpellsPath text path ↔ isTypePath text = true ∧ afterRoot text = path := by
  rw [isTypePath, List.all_eq_true]
  constructor
  · intro spells
    cases spells with
    | plain valid =>
      rw [valid.afterRoot_eq]
      exact ⟨path_iff.1 valid, rfl⟩
    | rooted valid => exact ⟨path_iff.1 valid, rfl⟩
  · intro h
    obtain ⟨valid, rfl⟩ := h
    rw [← path_iff] at valid
    rw [afterRoot.eq_def] at valid ⊢
    split at valid
    · exact .rooted valid
    · exact .plain valid

theorem SpellsPath.isBlank_eq (spells : SpellsPath text path) {c : Char} (hc : c ∈ text) :
    Text.isBlank c = false :=
  isBlank_of_isTypePath (spellsPath_iff.1 spells).1 hc

theorem SpellsPath.ne_nil (spells : SpellsPath text path) : text ≠ [] := by
  rintro rfl
  have valid := (spellsPath_iff.1 spells).1
  cases valid

/-- No path has a qualifier in front. -/
theorem SpellsPath.not_mem_qualifier (spells : SpellsPath text path) : '?' ∉ text := by
  intro qualifier
  have name := isNameChar_of_isTypePath (spellsPath_iff.1 spells).1 qualifier
  exact absurd name (by decide +kernel)

/-- A text that spells a type has no blanks at its ends. -/
theorem SpellsType.trimChars_around {t : NamedType} (spells : SpellsType text t)
    {before after : List Char} (blank : ∀ c ∈ before, Text.isBlank c = true)
    (blank' : ∀ c ∈ after, Text.isBlank c = true) :
    Text.trimChars (before ++ text ++ after) = text := by
  cases spells with
  | plain path =>
    exact Text.trimChars_append blank blank' path.ne_nil (path.isBlank_eq (List.head_mem _))
      (path.isBlank_eq (List.getLast_mem _))
  | nullable _ path =>
    refine Text.trimChars_append blank blank' (List.cons_ne_nil _ _)
      (show Text.isBlank '?' = false by decide) ?_
    rw [List.getLast_cons (List.append_ne_nil_of_right_ne_nil _ path.ne_nil),
      List.getLast_append_of_ne_nil _ path.ne_nil]
    exact path.isBlank_eq (List.getLast_mem _)

end Grammar

/-! ## Pieces -/

namespace NamedType

open Grammar

variable {piece : List Char} {t : NamedType}

theorem ofPath?_eq_some_iff {nullable : Bool} {text : List Char} :
    ofPath? nullable text = some t ↔
      ∃ path, SpellsPath text path ∧ t = ⟨⟨String.ofList path⟩, nullable⟩ := by
  have name (valid : isTypePath text = true) :
      TypeName.ofText (String.ofList text) = ⟨String.ofList (afterRoot text)⟩ := by
    rw [← TypeName.toList_ofText valid, String.ofList_toList]
  rw [ofPath?]
  split
  next valid =>
    rw [name valid, Option.some.injEq, eq_comm]
    constructor
    · exact fun same => ⟨_, spellsPath_iff.2 ⟨valid, rfl⟩, same⟩
    · rintro ⟨path, spells, rfl⟩
      rw [(spellsPath_iff.1 spells).2]
  next invalid =>
    refine iff_of_false (Option.some_ne_none t).symm ?_
    rintro ⟨path, spells, -⟩
    exact invalid (spellsPath_iff.1 spells).1

/-- A piece is read as a type exactly if it spells this type. -/
theorem ofPiece?_eq_some_iff : ofPiece? piece = some t ↔ SpellsPiece piece t := by
  constructor
  · intro read
    obtain ⟨before, after, split, blank, blank'⟩ := Text.exists_eq_trimChars piece
    refine ⟨before, _, after, split, blank, blank', ?_⟩
    rw [ofPiece?] at read
    split at read
    next rest qualified =>
      obtain ⟨path, spells, rfl⟩ := ofPath?_eq_some_iff.1 read
      rw [qualified, ← List.takeWhile_append_dropWhile (p := Text.isBlank) (l := rest)]
      exact .nullable (fun c hc => List.mem_takeWhile_imp hc) spells
    next =>
      obtain ⟨path, spells, rfl⟩ := ofPath?_eq_some_iff.1 read
      exact .plain spells
  · rintro ⟨before, text, after, rfl, blank, blank', spells⟩
    rw [ofPiece?, spells.trimChars_around blank blank']
    cases spells with
    | plain path =>
      split
      next => exact absurd List.mem_cons_self path.not_mem_qualifier
      next => exact ofPath?_eq_some_iff.2 ⟨_, path, rfl⟩
    | nullable inner path =>
      refine ofPath?_eq_some_iff.2 ⟨_, ?_, rfl⟩
      rw [Text.trimStartChars_append inner,
        Text.trimStartChars_eq_self fun c hc => path.isBlank_eq hc]
      exact path

theorem ofPiece?_eq_none_iff : ofPiece? piece = none ↔ ∀ t, ¬ SpellsPiece piece t := by
  simp only [Option.eq_none_iff_forall_ne_some, ne_eq, ofPiece?_eq_some_iff]

end NamedType

/-! ## Sets -/

namespace TypeSet

open Grammar

variable {s : TypeSet} {pieces : List (List Char)} {types : List NamedType}

/-- A set grown from the empty one has every type where it occurs first. -/
theorem members_ofList (types : List NamedType) : (ofList types).members = types.eraseDups := by
  induction types using List.reverseRecOn with
  | nil => rfl
  | append_singleton types t ih =>
    have grown : ofList (types ++ [t]) = (ofList types).insert t := List.foldl_append
    have known : t ∈ ofList types ↔ t ∈ types := by rw [mem_def, ih, List.mem_eraseDups]
    rw [grown, members_insert, ih, List.eraseDups_append]
    by_cases old : t ∈ types
    · simp [known, old, List.removeAll]
    · simp [known, old, List.removeAll, List.eraseDups_cons]

/-- Pieces that spell types are read one after the other, whatever comes behind them. -/
theorem parsePieces_append (spelled : List.Forall₂ SpellsPiece pieces types)
    (more : List (List Char)) :
    parsePieces s (pieces ++ more) =
      ⟨(parsePieces (s.extend types) more).value,
        types.map (.type ·.name) ++ (parsePieces (s.extend types) more).log⟩ := by
  induction spelled generalizing s with
  | nil => rfl
  | cons spells _ ih =>
    rw [List.cons_append, parsePieces, NamedType.ofPiece?_eq_some_iff.2 spells]
    simp only [ih]
    rfl

theorem exists_spelled_iff :
    (∃ types, List.Forall₂ SpellsPiece pieces types) ↔ ∀ piece ∈ pieces, ∃ t, SpellsPiece piece t := by
  induction pieces with
  | nil => simp
  | cons piece pieces ih =>
    rw [List.forall_mem_cons, ← ih]
    constructor
    · rintro ⟨types, spelled⟩
      obtain ⟨t, rest, spells, others, rfl⟩ := List.forall₂_cons_left_iff.1 spelled
      exact ⟨⟨t, spells⟩, rest, others⟩
    · rintro ⟨⟨t, spells⟩, types, spelled⟩
      exact ⟨t :: types, .cons spells spelled⟩

/-- All pieces spell types, or there is a first one that does not. -/
theorem spelled_or_exists_unspelled (pieces : List (List Char)) :
    (∃ types, List.Forall₂ SpellsPiece pieces types) ∨
      ∃ before piece after types, pieces = before ++ piece :: after ∧
        List.Forall₂ SpellsPiece before types ∧ ∀ t, ¬ SpellsPiece piece t := by
  induction pieces with
  | nil => exact .inl ⟨[], .nil⟩
  | cons piece pieces ih =>
    cases read : NamedType.ofPiece? piece with
    | none =>
      exact .inr ⟨[], piece, pieces, [], rfl, .nil, NamedType.ofPiece?_eq_none_iff.1 read⟩
    | some t =>
      have spells := NamedType.ofPiece?_eq_some_iff.1 read
      rcases ih with ⟨types, spelled⟩ | ⟨before, bad, after, types, rfl, spelled, unspelled⟩
      · exact .inl ⟨t :: types, .cons spells spelled⟩
      · exact .inr ⟨piece :: before, bad, after, t :: types, rfl, .cons spells spelled, unspelled⟩

variable {source : String}

theorem parse_of_spelled (spelled : List.Forall₂ SpellsPiece (Text.pieces '|' source.toList) types) :
    parse source = ⟨ofList types, types.map (.type ·.name)⟩ := by
  have read := parsePieces_append (s := empty) spelled []
  rw [List.append_nil] at read
  rw [parse, read]
  exact congrArg (Logged.mk _) (List.append_nil _)

/-- The first piece that spells no type makes the set empty and keeps what comes behind it unread. -/
theorem parse_of_unspelled {before after : List (List Char)} {piece : List Char}
    (split : Text.pieces '|' source.toList = before ++ piece :: after)
    (spelled : List.Forall₂ SpellsPiece before types) (unspelled : ∀ t, ¬ SpellsPiece piece t) :
    parse source = ⟨empty, types.map (.type ·.name)⟩ := by
  have stop (s : TypeSet) : parsePieces s (piece :: after) = pure empty := by
    rw [parsePieces, NamedType.ofPiece?_eq_none_iff.2 unspelled]
  rw [parse, split, parsePieces_append spelled, stop]
  exact congrArg (Logged.mk _) (List.append_nil _)

end TypeSet

/-- A code base that has met the names of some types as well. -/
def Codebase.meet (c : Codebase) (types : List NamedType) : Codebase :=
  { c with names := c.names.noteAll (types.map (.type ·.name)) }

open Grammar in
/-- **A text is read by the grammar.** The set that a text writes is not empty exactly if every
piece between the `|` spells a type. Then its members are these types, each where it occurs first,
and the code base has met their names. If some piece spells no type, the set is empty, and all that
changes is that the code base has met the names of the types before the first such piece. -/
theorem reading_follows_grammar (c : Codebase) (source : String) :
    let pieces := Text.pieces '|' source.toList
    let read := c.ask (TypeSet.parse source)
    (read.1.members ≠ [] ↔ ∀ piece ∈ pieces, ∃ t, SpellsPiece piece t) ∧
    (∀ types, List.Forall₂ SpellsPiece pieces types →
      read.1.members = types.eraseDups ∧ read.2 = c.meet types) ∧
    ∀ before piece after types, pieces = before ++ piece :: after →
      List.Forall₂ SpellsPiece before types → (∀ t, ¬ SpellsPiece piece t) →
      read.1.members = [] ∧ read.2 = c.meet types := by
  intro pieces read
  have all (types : List NamedType) (spelled : List.Forall₂ SpellsPiece pieces types) :
      read.1.members = types.eraseDups ∧ read.2 = c.meet types := by
    have parsed : read = (TypeSet.ofList types, c.meet types) := by
      rw [show read = c.ask (TypeSet.parse source) from rfl, TypeSet.parse_of_spelled spelled]
      rfl
    rw [parsed]
    exact ⟨TypeSet.members_ofList types, rfl⟩
  have broken (before : List (List Char)) (piece : List Char) (after : List (List Char))
      (types : List NamedType) (split : pieces = before ++ piece :: after)
      (spelled : List.Forall₂ SpellsPiece before types) (unspelled : ∀ t, ¬ SpellsPiece piece t) :
      read.1.members = [] ∧ read.2 = c.meet types := by
    have parsed : read = (TypeSet.empty, c.meet types) := by
      rw [show read = c.ask (TypeSet.parse source) from rfl,
        TypeSet.parse_of_unspelled split spelled unspelled]
      rfl
    rw [parsed]
    exact ⟨rfl, rfl⟩
  refine ⟨?_, all, broken⟩
  rcases TypeSet.spelled_or_exists_unspelled pieces with
    ⟨types, spelled⟩ | ⟨before, piece, after, types, split, spelled, unspelled⟩
  · have some : types ≠ [] := by
      rintro rfl
      exact Text.pieces_ne_nil _ _ (List.forall₂_nil_right_iff.1 spelled)
    obtain ⟨t, ht⟩ := List.exists_mem_of_ne_nil types some
    have member : t ∈ read.1.members := by
      rw [(all types spelled).1]
      exact List.mem_eraseDups.2 ht
    exact iff_of_true (List.ne_nil_of_mem member) (TypeSet.exists_spelled_iff.1 ⟨types, spelled⟩)
  · refine iff_of_false (fun some => some (broken _ _ _ _ split spelled unspelled).1) fun every => ?_
    obtain ⟨t, spells⟩ := every piece (by rw [split]; simp)
    exact unspelled t spells

/-- Blanks may stand around a piece and behind `?`, and a type that occurs again is left out. -/
example :
    (TypeSet.parse " \\A|?\t\\B\\_1 |A").value.members = [⟨⟨"A"⟩, false⟩, ⟨⟨"B\\_1"⟩, true⟩] := by
  decide +kernel

/-- The empty piece at the end is no type, but the names before it are met. -/
example :
    (TypeSet.parse "P|?Q|").value.members = [] ∧
    (TypeSet.parse "P|?Q|").log = [.type ⟨"P"⟩, .type ⟨"Q"⟩] := by
  decide +kernel

end Uncaught
