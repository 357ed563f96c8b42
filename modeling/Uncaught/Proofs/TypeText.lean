import Uncaught.Codebase
import Uncaught.Proofs.Trimming

/-!
What is written can be read back.

A name is in path form if it is a path without a separator in front. Every name that is read out of
a text is in this form (`NamedType.isPath_of_ofPiece?`), and every type with such a name is read
back from its own text (`NamedType.ofPiece?_text`). The reason is that letters, numbers and `_` are
no blanks, no separators and no qualifiers, so nothing is trimmed, cut or stripped from a path. It
follows that reading undoes writing, members, order and all (`TypeSet.parse_render`). This holds of
all sets that are computed from what was read, since uniting and filtering make up no new types
(`reading_undoes_writing`).
-/
namespace Uncaught

namespace Text

/-! ## Blanks and signs are no letters -/

/-- The code points of some ranges. -/
def CodeRanges.codes (ranges : CodeRanges) : List Nat :=
  ranges.flatMap fun r => List.range' r.1 (r.2 + 1 - r.1)

theorem CodeRanges.mem_codes {ranges : CodeRanges} {n : Nat} (covered : ranges.covers n = true) :
    n ∈ ranges.codes := by
  induction ranges with
  | nil => cases covered
  | cons r rest ih =>
    obtain ⟨first, last⟩ := r
    rw [covers] at covered
    rw [codes, List.flatMap_cons, List.mem_append, List.mem_range'_1]
    split at covered
    · cases covered
    · split at covered
      · left
        omega
      · exact .inr (ih covered)

theorem not_covers_blank : ∀ n ∈ blankRanges.codes,
    alphabeticRanges.covers n = false ∧ numberRanges.covers n = false := by
  decide +kernel

/-- A character of the names of types: a letter, a number or `_`. -/
def isNameChar (c : Char) : Bool := c == '_' || isAlphanumeric c

theorem isBlank_of_isNameChar {c : Char} (name : isNameChar c = true) : isBlank c = false := by
  by_contra blank
  rw [Bool.not_eq_false] at blank
  obtain ⟨letter, number⟩ := not_covers_blank c.toNat (CodeRanges.mem_codes blank)
  have same : c = '_' := by
    simpa [isNameChar, isAlphanumeric, isAlphabetic, isNumber, letter, number] using name
  rw [same] at blank
  exact absurd blank (by decide)

theorem isNameChar_signs :
    isNameChar '|' = false ∧ isNameChar '?' = false ∧ isNameChar '\\' = false := by
  decide +kernel

end Text

/-! ## Paths -/

section

variable {cs : List Char} {c : Char}

theorem isNameChar_of_isSegment (segment : isSegment cs = true) (hc : c ∈ cs) :
    Text.isNameChar c = true := by
  cases cs with
  | nil => cases hc
  | cons d ds =>
    rw [isSegment, Bool.and_eq_true, List.all_eq_true] at segment
    rcases List.mem_cons.1 hc with rfl | hc
    · rw [Text.isNameChar, Text.isAlphanumeric, ← Bool.or_assoc, segment.1, Bool.true_or]
    · exact segment.2 c hc

theorem mem_or_eq_of_mem_afterRoot (hc : c ∈ cs) : c = '\\' ∨ c ∈ afterRoot cs := by
  rw [afterRoot.eq_def]
  split
  · rcases List.mem_cons.1 hc with rfl | hc
    · exact .inl rfl
    · exact .inr hc
  · exact .inr hc

theorem isNameChar_of_isTypePath (path : isTypePath cs = true) (hc : c ∈ cs) :
    c = '\\' ∨ Text.isNameChar c = true := by
  rcases mem_or_eq_of_mem_afterRoot hc with rfl | hc
  · exact .inl rfl
  · refine (Text.mem_pieces '\\' hc).imp_right fun h => ?_
    obtain ⟨segment, hs, hc⟩ := h
    exact isNameChar_of_isSegment (List.all_eq_true.1 path segment hs) hc

theorem isBlank_of_isTypePath (path : isTypePath cs = true) (hc : c ∈ cs) :
    Text.isBlank c = false := by
  rcases isNameChar_of_isTypePath path hc with rfl | name
  · decide
  · exact Text.isBlank_of_isNameChar name

/-- A path goes on with a segment after the separator it may start with. -/
theorem exists_afterRoot_of_isTypePath (path : isTypePath cs = true) :
    ∃ d ds, afterRoot cs = d :: ds ∧ Text.isNameChar d = true := by
  rw [isTypePath] at path
  cases h : afterRoot cs with
  | nil =>
    rw [h] at path
    cases path
  | cons d ds =>
    rw [h, Text.pieces] at path
    refine ⟨d, ds, rfl, ?_⟩
    split at path
    · cases path
    · cases hp : Text.pieces '\\' ds with
      | nil => exact absurd hp (Text.pieces_ne_nil _ _)
      | cons p ps =>
        rw [hp] at path
        have segment : isSegment (d :: p) = true := (Bool.and_eq_true_iff.1 path).1
        exact isNameChar_of_isSegment segment List.mem_cons_self

end

/-! ## Names in path form -/

/-- A name that is a path without a separator in front. -/
def TypeName.IsPath (name : TypeName) : Prop :=
  isTypePath name.text.toList = true ∧ afterRoot name.text.toList = name.text.toList

section

variable {path : List Char}

theorem afterRoot_idem_of_isTypePath (valid : isTypePath path = true) :
    afterRoot (afterRoot path) = afterRoot path := by
  obtain ⟨d, ds, start, name⟩ := exists_afterRoot_of_isTypePath valid
  rw [start, afterRoot.eq_def]
  split
  next same =>
    cases same
    rw [Text.isNameChar_signs.2.2] at name
    cases name
  next => rfl

theorem isTypePath_afterRoot (valid : isTypePath path = true) :
    isTypePath (afterRoot path) = true := by
  rw [isTypePath, afterRoot_idem_of_isTypePath valid]
  exact valid

theorem dropWhile_eq_afterRoot (valid : isTypePath path = true) :
    path.dropWhile (· == '\\') = afterRoot path := by
  obtain ⟨d, ds, start, name⟩ := exists_afterRoot_of_isTypePath valid
  have other : (d == '\\') = false := by
    rw [beq_eq_false_iff_ne]
    rintro rfl
    rw [Text.isNameChar_signs.2.2] at name
    cases name
  have stop : (afterRoot path).dropWhile (· == '\\') = afterRoot path := by
    rw [start, List.dropWhile_cons, other]
    rfl
  rw [afterRoot.eq_def] at stop ⊢
  split at stop
  · exact stop
  · exact stop

/-- A path names the type with this path, the separator in front left out. -/
theorem TypeName.toList_ofText (valid : isTypePath path = true) :
    (TypeName.ofText (String.ofList path)).text.toList = afterRoot path := by
  rw [TypeName.ofText, Text.toList_stripLeading, Text.toList_trim, String.toList_ofList,
    Text.trimChars_eq_self fun c hc => isBlank_of_isTypePath valid hc, dropWhile_eq_afterRoot valid]

theorem TypeName.isPath_ofText (valid : isTypePath path = true) :
    (TypeName.ofText (String.ofList path)).IsPath := by
  rw [IsPath, toList_ofText valid]
  exact ⟨isTypePath_afterRoot valid, afterRoot_idem_of_isTypePath valid⟩

theorem TypeName.IsPath.ofText_eq {name : TypeName} (valid : name.IsPath) :
    TypeName.ofText (String.ofList name.text.toList) = name := by
  obtain ⟨text⟩ := name
  refine congrArg TypeName.mk (String.toList_injective ?_)
  exact (toList_ofText valid.1).trans valid.2

end

/-! ## Types -/

namespace NamedType

variable {t : NamedType} {piece : List Char}

theorem isPath_of_ofPath? {nullable : Bool} {path : List Char}
    (read : ofPath? nullable path = some t) : t.name.IsPath := by
  rw [ofPath?] at read
  split at read
  next valid =>
    rw [← Option.some.inj read]
    exact TypeName.isPath_ofText valid
  next => cases read

/-- Whatever is read out of a text has a name in path form. -/
theorem isPath_of_ofPiece? (read : ofPiece? piece = some t) : t.name.IsPath := by
  rw [ofPiece?] at read
  split at read
  · exact isPath_of_ofPath? read
  · exact isPath_of_ofPath? read

theorem toList_text (t : NamedType) :
    t.text.toList = if t.nullable then '?' :: t.name.text.toList else t.name.text.toList := by
  rw [text]
  split
  · rw [String.toList_append]
    rfl
  · rfl

theorem ofPath?_of_isPath {name : TypeName} (valid : name.IsPath) (nullable : Bool) :
    ofPath? nullable name.text.toList = some ⟨name, nullable⟩ := by
  rw [ofPath?, if_pos valid.1, valid.ofText_eq]

/-- A type with a name in path form is read back from its text. -/
theorem ofPiece?_text (valid : t.name.IsPath) : ofPiece? t.text.toList = some t := by
  obtain ⟨name, nullable⟩ := t
  have solid (c : Char) (hc : c ∈ name.text.toList) : Text.isBlank c = false :=
    isBlank_of_isTypePath valid.1 hc
  rw [ofPiece?, toList_text]
  cases nullable with
  | true =>
    have solid' (c : Char) (hc : c ∈ '?' :: name.text.toList) : Text.isBlank c = false := by
      rcases List.mem_cons.1 hc with rfl | hc
      · decide
      · exact solid c hc
    rw [if_pos rfl, Text.trimChars_eq_self solid']
    show ofPath? true (Text.trimStartChars name.text.toList) = _
    rw [Text.trimStartChars_eq_self solid, ofPath?_of_isPath valid]
  | false =>
    rw [if_neg Bool.false_ne_true, Text.trimChars_eq_self solid]
    split
    next rest start =>
      -- A path has no qualifier in front.
      have letter := isNameChar_of_isTypePath valid.1 (start ▸ List.mem_cons_self)
      exact absurd letter (by decide +kernel)
    next => exact ofPath?_of_isPath valid false

end NamedType

/-! ## Sets -/

namespace TypeSet

variable {s : TypeSet}

/-- All members have names in path form. -/
def IsReadable (s : TypeSet) : Prop := ∀ t ∈ s, t.name.IsPath

theorem isReadable_empty : empty.IsReadable := fun _ member => absurd member List.not_mem_nil

theorem isReadable_parsePieces (readable : s.IsReadable) (pieces : List (List Char)) :
    (parsePieces s pieces).value.IsReadable := by
  induction pieces generalizing s with
  | nil => exact readable
  | cons piece rest ih =>
    rw [parsePieces]
    cases read : NamedType.ofPiece? piece with
    | none => exact isReadable_empty
    | some t =>
      refine ih fun u member => ?_
      rcases mem_insert.1 member with member | rfl
      · exact readable u member
      · exact NamedType.isPath_of_ofPiece? read

/-- Whatever is parsed is readable. -/
theorem isReadable_parse (source : String) : (parse source).value.IsReadable :=
  isReadable_parsePieces isReadable_empty _

/-- A blank text writes nothing. -/
theorem parse_of_blank {source : String} (blank : Text.trim source = "") :
    (parse source).value = empty := by
  have nothing : Text.trimChars source.toList = [] := by
    rw [← Text.toList_trim, blank]
    rfl
  have whole : Text.pieces '|' (Text.join ['|'] [source.toList]) = [source.toList] := by
    refine Text.pieces_join '|' (List.cons_ne_nil _ _) ?_
    intro piece member bar
    rw [List.mem_singleton.1 member] at bar
    exact absurd (Text.isBlank_of_trimChars_eq_nil nothing _ bar) (by decide)
  rw [Text.join] at whole
  rw [parse, whole, parsePieces, NamedType.ofPiece?, nothing]
  rfl

theorem not_mem_text {t : NamedType} (valid : t.name.IsPath) : '|' ∉ t.text.toList := by
  have apart : '|' ∉ t.name.text.toList := fun member =>
    absurd (isNameChar_of_isTypePath valid.1 member) (by decide +kernel)
  rw [NamedType.toList_text]
  split
  · exact List.not_mem_cons_of_ne_of_not_mem (by decide) apart
  · exact apart

theorem pieces_render (readable : s.IsReadable) (inhabited : s.members ≠ []) :
    Text.pieces '|' s.render.toList = s.members.map (·.text.toList) := by
  rw [render, String.toList_ofList]
  refine Text.pieces_join '|' (List.map_eq_nil_iff.not.2 inhabited) ?_
  intro piece member
  obtain ⟨t, ht, rfl⟩ := List.mem_map.1 member
  exact not_mem_text (readable t ht)

/-- Types that are not members yet are added one after the other, as they are read. -/
theorem members_parsePieces (types : List NamedType) (valid : ∀ t ∈ types, t.name.IsPath)
    (new : (s.members ++ types).Nodup) :
    (parsePieces s (types.map (·.text.toList))).value.members = s.members ++ types := by
  induction types generalizing s with
  | nil => exact (List.append_nil _).symm
  | cons t types ih =>
    have fresh : ¬ t ∈ s := fun member =>
      (List.nodup_append.1 new).2.2 t member t List.mem_cons_self rfl
    have grown : (s.insert t).members = s.members ++ [t] := by
      rw [members_insert, if_neg fresh]
    rw [List.map_cons, parsePieces, NamedType.ofPiece?_text (valid t List.mem_cons_self)]
    show (parsePieces (s.insert t) _).value.members = _
    rw [ih (fun u hu => valid u (List.mem_cons_of_mem t hu))] <;> rw [grown, List.append_assoc]
    · rfl
    · exact new

/-- Reading undoes writing, the order of the members included. -/
theorem parse_render (readable : s.IsReadable) : (parse s.render).value = s := by
  by_cases nothing : s.members = []
  · obtain ⟨members, nodup⟩ := s
    cases nothing
    rfl
  · apply eq_of_members
    rw [parse, pieces_render readable nothing,
      members_parsePieces s.members readable (by simpa using s.nodup)]
    rfl

/-- Different sets are written differently, if they differ in the order of the members only too. -/
theorem render_injective {other : TypeSet} (readable : s.IsReadable) (readable' : other.IsReadable)
    (same : s.render = other.render) : s = other := by
  rw [← parse_render readable, same, parse_render readable']

/-! ## Sets that are computed -/

/-- A set that is computed from sets that were read out of texts. -/
inductive IsComputed : TypeSet → Prop where
  | empty : IsComputed empty
  | parse (source : String) : IsComputed (parse source).value
  | union {s other : TypeSet} (first : IsComputed s) (second : IsComputed other) :
      IsComputed (s.union other)
  | without {s : TypeSet} (whole : IsComputed s) (t : NamedType) : IsComputed (s.without t)
  | filter {s : TypeSet} (whole : IsComputed s) (keep : NamedType → Bool) :
      IsComputed (s.filter keep)

theorem isReadable_filter (readable : s.IsReadable) (keep : NamedType → Bool) :
    (s.filter keep).IsReadable :=
  fun t member => readable t (mem_filter.1 member).1

theorem IsComputed.isReadable (computed : s.IsComputed) : s.IsReadable := by
  induction computed with
  | empty => exact isReadable_empty
  | parse source => exact isReadable_parse source
  | union _ _ first second => exact fun t member => (mem_union.1 member).elim (first t) (second t)
  | without _ t whole => exact isReadable_filter whole _
  | filter _ keep whole => exact isReadable_filter whole keep

end TypeSet

/-- **Reading undoes writing.** Whatever is computed from sets that were read, by uniting them,
leaving out a type or keeping some of the types, is given back when it is written and read again:
the same members in the same order. In particular a set that was read out of a text is, however the
text was spelled. And two such sets that are written alike have the same members in the same
order. -/
theorem reading_undoes_writing (c : Codebase) :
    (∀ s : TypeSet, s.IsComputed → (c.ask (TypeSet.parse s.render)).1 = s) ∧
    (∀ source, let s := (c.ask (TypeSet.parse source)).1; (c.ask (TypeSet.parse s.render)).1 = s) ∧
    ∀ s other : TypeSet, s.IsComputed → other.IsComputed →
      (s.render = other.render ↔ s.members = other.members) := by
  have answer (source : String) : (c.ask (TypeSet.parse source)).1 = (TypeSet.parse source).value :=
    rfl
  simp only [answer]
  refine ⟨?_, ?_, ?_⟩
  · intro s computed
    exact TypeSet.parse_render computed.isReadable
  · intro source
    exact TypeSet.parse_render (TypeSet.isReadable_parse source)
  · intro s other computed computed'
    constructor
    · intro same
      rw [TypeSet.render_injective computed.isReadable computed'.isReadable same]
    · intro members
      rw [TypeSet.eq_of_members members]

/-- The order in which a union is written is that of the members. -/
example :
    let s := ((TypeSet.parse "\\A| ?B").value.union (TypeSet.parse "C|?B").value).without ⟨⟨"A"⟩, false⟩
    s.render = "?B|C" ∧ (TypeSet.parse s.render).value = s := by
  decide +kernel

end Uncaught
