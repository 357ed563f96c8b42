import Mathlib.Data.List.TakeWhile
import Uncaught.Text.Blank

/-!
What trimming drops and what it leaves.

A text is what trimming leaves with blanks in front and behind (`exists_eq_trimChars`). What is left
neither starts nor ends with a blank, and no other part of the text with blanks around it is of this
kind (`trimChars_append`). So a blank is left if and only if it stands between two characters that
are none (`mem_trimChars_iff_of_isBlank`), and a text is left alone if and only if it neither starts
nor ends with a blank (`trim_eq_self_iff`).
-/
namespace Uncaught.Text

/-! ## What is dropped -/

theorem trimStartChars_eq_self {cs : List Char} (solid : ∀ c ∈ cs, isBlank c = false) :
    trimStartChars cs = cs := by
  cases cs with
  | nil => rfl
  | cons c cs =>
    rw [trimStartChars, List.dropWhile_cons, solid c List.mem_cons_self]
    rfl

theorem isBlank_of_trimChars_eq_nil {cs : List Char} (nothing : trimChars cs = []) :
    ∀ c ∈ cs, isBlank c = true := by
  -- What is left after the start is trimmed is blank as well, so its first character would be.
  have rest : ∀ c ∈ cs.dropWhile isBlank, isBlank c = true := by
    intro c hc
    have ends := List.dropWhile_eq_nil_iff.1 (List.reverse_eq_nil_iff.1 nothing)
    exact ends c (List.mem_reverse.2 hc)
  intro c hc
  rw [← List.takeWhile_append_dropWhile (p := isBlank) (l := cs)] at hc
  rcases List.mem_append.1 hc with hc | hc
  · exact List.mem_takeWhile_imp hc
  · exact rest c hc

theorem trimChars_eq_self {cs : List Char} (solid : ∀ c ∈ cs, isBlank c = false) :
    trimChars cs = cs := by
  have backwards : trimStartChars cs.reverse = cs.reverse :=
    trimStartChars_eq_self fun c hc => solid c (List.mem_reverse.1 hc)
  rw [trimChars, trimStartChars_eq_self solid, trimEndChars]
  exact (congrArg List.reverse backwards).trans (List.reverse_reverse cs)

theorem trimStartChars_append {blanks : List Char} (blank : ∀ c ∈ blanks, isBlank c = true)
    (cs : List Char) : trimStartChars (blanks ++ cs) = trimStartChars cs :=
  List.dropWhile_append_of_pos blank

theorem trimEndChars_append (cs : List Char) {blanks : List Char}
    (blank : ∀ c ∈ blanks, isBlank c = true) : trimEndChars (cs ++ blanks) = trimEndChars cs := by
  have blank : ∀ c ∈ blanks.reverse, isBlank c = true := fun c hc => blank c (List.mem_reverse.1 hc)
  rw [trimEndChars, trimEndChars, List.reverse_append, List.dropWhile_append_of_pos blank]

/-- What trimming drops at the end is blank. -/
theorem exists_eq_trimEndChars (cs : List Char) :
    ∃ after, cs = trimEndChars cs ++ after ∧ ∀ c ∈ after, isBlank c = true := by
  refine ⟨(cs.reverse.takeWhile isBlank).reverse, ?_, ?_⟩
  · rw [trimEndChars, ← List.reverse_append, List.takeWhile_append_dropWhile, List.reverse_reverse]
  · exact fun c hc => List.mem_takeWhile_imp (List.mem_reverse.1 hc)

/-- What trimming drops is blank. -/
theorem exists_eq_trimChars (cs : List Char) :
    ∃ before after, cs = before ++ trimChars cs ++ after ∧ (∀ c ∈ before, isBlank c = true) ∧
      ∀ c ∈ after, isBlank c = true := by
  obtain ⟨after, split, blank⟩ := exists_eq_trimEndChars (trimStartChars cs)
  refine ⟨cs.takeWhile isBlank, after, ?_, fun c hc => List.mem_takeWhile_imp hc, blank⟩
  calc cs = cs.takeWhile isBlank ++ trimStartChars cs := List.takeWhile_append_dropWhile.symm
    _ = cs.takeWhile isBlank ++ (trimChars cs ++ after) := congrArg _ split
    _ = cs.takeWhile isBlank ++ trimChars cs ++ after := (List.append_assoc _ _ _).symm

/-- Trimming drops the blanks around a text, and no more if neither of its ends is blank. -/
theorem trimChars_append {before cs after : List Char} (blank : ∀ c ∈ before, isBlank c = true)
    (blank' : ∀ c ∈ after, isBlank c = true) (some : cs ≠ [])
    (first : isBlank (cs.head some) = false) (last : isBlank (cs.getLast some) = false) :
    trimChars (before ++ cs ++ after) = cs := by
  have start : trimStartChars (cs ++ after) = cs ++ after := by
    obtain ⟨c, rest, rfl⟩ := List.exists_cons_of_ne_nil some
    exact List.dropWhile_cons_of_neg (ne_true_of_eq_false first)
  have stop : trimEndChars cs = cs := by
    have ends : cs.reverse = cs.getLast some :: cs.dropLast.reverse := by
      rw [← List.reverse_concat, List.dropLast_concat_getLast]
    rw [trimEndChars, ends, List.dropWhile_cons_of_neg (ne_true_of_eq_false last), ← ends,
      List.reverse_reverse]
  rw [List.append_assoc, trimChars, trimStartChars_append blank, start,
    trimEndChars_append _ blank', stop]

/-! ## The ends of what is left -/

section

variable {cs before after : List Char} {c : Char}

theorem isBlank_of_trimStartChars (start : trimStartChars cs = c :: after) : isBlank c = false := by
  have other := List.head?_dropWhile_not isBlank cs
  rw [show cs.dropWhile isBlank = c :: after from start] at other
  simpa using other

/-- What is left after trimming does not end with a blank. -/
theorem isBlank_last_trimChars (stop : trimChars cs = before ++ [c]) : isBlank c = false := by
  have backwards : trimStartChars (trimStartChars cs).reverse = c :: before.reverse := by
    have turned := congrArg List.reverse stop
    rwa [trimChars, trimEndChars, List.reverse_reverse, List.reverse_append] at turned
  exact isBlank_of_trimStartChars backwards

/-- What is left after trimming does not start with a blank. -/
theorem isBlank_head_trimChars (start : trimChars cs = c :: after) : isBlank c = false := by
  obtain ⟨blanks, whole, -⟩ := exists_eq_trimEndChars (trimStartChars cs)
  rw [← trimChars, start, List.cons_append] at whole
  exact isBlank_of_trimStartChars whole

end

section

variable {s : String}

def StartsBlank (s : String) : Prop := ∃ c ∈ s.toList.head?, isBlank c = true

def EndsBlank (s : String) : Prop := ∃ c ∈ s.toList.getLast?, isBlank c = true

instance : DecidablePred StartsBlank := fun s =>
  decidable_of_iff (s.toList.head?.any isBlank = true) (Option.any_eq_true _ _)

instance : DecidablePred EndsBlank := fun s =>
  decidable_of_iff (s.toList.getLast?.any isBlank = true) (Option.any_eq_true _ _)

theorem not_startsBlank_trim : ¬ StartsBlank (trim s) := by
  rintro ⟨c, first, blank⟩
  rw [toList_trim] at first
  obtain ⟨rest, start⟩ := List.head?_eq_some_iff.1 first
  rw [isBlank_head_trimChars start] at blank
  cases blank

theorem not_endsBlank_trim : ¬ EndsBlank (trim s) := by
  rintro ⟨c, last, blank⟩
  rw [toList_trim] at last
  obtain ⟨rest, stop⟩ := List.getLast?_eq_some_iff.1 last
  rw [isBlank_last_trimChars stop] at blank
  cases blank

/-- A text is left alone exactly if neither of its ends is blank. -/
theorem trim_eq_self_iff : trim s = s ↔ ¬ StartsBlank s ∧ ¬ EndsBlank s := by
  constructor
  · intro same
    rw [← same]
    exact ⟨not_startsBlank_trim, not_endsBlank_trim⟩
  · rintro ⟨first, last⟩
    apply String.toList_injective
    rw [toList_trim]
    by_cases none : s.toList = []
    · rw [none]
      rfl
    · have whole := trimChars_append (List.forall_mem_nil _) (List.forall_mem_nil _) none
        (eq_false_of_ne_true fun blank => first ⟨_, List.head?_eq_some_head none, blank⟩)
        (eq_false_of_ne_true fun blank => last ⟨_, List.getLast?_eq_some_getLast none, blank⟩)
      simpa using whole

end

/-- The first character that is not blank, with the blanks before it. -/
theorem exists_first_solid (cs : List Char) (solid : ∃ d ∈ cs, isBlank d = false) :
    ∃ blanks d rest, cs = blanks ++ d :: rest ∧ (∀ c ∈ blanks, isBlank c = true) ∧
      isBlank d = false := by
  cases first : cs.find? (!isBlank ·) with
  | none =>
    obtain ⟨d, member, other⟩ := solid
    have blank := List.find?_eq_none.1 first d member
    rw [other] at blank
    exact absurd rfl blank
  | some d =>
    obtain ⟨other, blanks, rest, whole, blank⟩ := List.find?_eq_some_iff_append.1 first
    refine ⟨blanks, d, rest, whole, fun c member => ?_, ?_⟩
    · simpa using blank c member
    · simpa using other

/-- The last character that is not blank, with the blanks behind it. -/
theorem exists_last_solid (cs : List Char) (solid : ∃ d ∈ cs, isBlank d = false) :
    ∃ rest d blanks, cs = rest ++ d :: blanks ∧ (∀ c ∈ blanks, isBlank c = true) ∧
      isBlank d = false := by
  obtain ⟨d, member, other⟩ := solid
  obtain ⟨blanks, d, rest, turned, blank, other⟩ :=
    exists_first_solid cs.reverse ⟨d, List.mem_reverse.2 member, other⟩
  refine ⟨rest.reverse, d, blanks.reverse, ?_, fun c hc => blank c (List.mem_reverse.1 hc), other⟩
  rw [← List.reverse_reverse cs, turned, List.reverse_append, List.reverse_cons, List.append_assoc,
    List.singleton_append]

/-- A blank is left exactly if it stands between two characters that are none. -/
theorem mem_trimChars_iff_of_isBlank {cs : List Char} {c : Char} (blank : isBlank c = true) :
    c ∈ trimChars cs ↔ ∃ before after, cs = before ++ c :: after ∧
      (∃ d ∈ before, isBlank d = false) ∧ ∃ d ∈ after, isBlank d = false := by
  constructor
  · intro member
    obtain ⟨front, back, whole, -, -⟩ := exists_eq_trimChars cs
    obtain ⟨before, after, inside⟩ := List.append_of_mem member
    -- The blank is neither the first character that is left nor the last one.
    have first : ∃ d ∈ before, isBlank d = false := by
      cases before with
      | nil =>
        rw [isBlank_head_trimChars inside] at blank
        cases blank
      | cons d rest => exact ⟨d, List.mem_cons_self, isBlank_head_trimChars inside⟩
    have last : ∃ d ∈ after, isBlank d = false := by
      rcases List.eq_nil_or_concat after with rfl | ⟨rest, d, rfl⟩
      · rw [isBlank_last_trimChars inside] at blank
        cases blank
      · have stop : trimChars cs = (before ++ c :: rest) ++ [d] := by
          rw [inside, List.concat_eq_append, List.append_assoc, List.cons_append]
        exact ⟨d, by simp, isBlank_last_trimChars stop⟩
    refine ⟨front ++ before, after ++ back, ?_, ?_, ?_⟩
    · rw [whole, inside]
      simp only [List.append_assoc, List.cons_append]
    · exact first.imp fun d hd => ⟨List.mem_append_right _ hd.1, hd.2⟩
    · exact last.imp fun d hd => ⟨List.mem_append_left _ hd.1, hd.2⟩
  · rintro ⟨before, after, rfl, first, last⟩
    obtain ⟨front, d, rest, rfl, blankFront, solid⟩ := exists_first_solid before first
    obtain ⟨rest', d', back, rfl, blankBack, solid'⟩ := exists_last_solid after last
    have left : trimChars (front ++ (d :: (rest ++ c :: rest') ++ [d']) ++ back) =
        d :: (rest ++ c :: rest') ++ [d'] :=
      trimChars_append blankFront blankBack (List.cons_ne_nil _ _) solid
        (by rwa [List.getLast_concat])
    have same : (front ++ d :: rest) ++ c :: (rest' ++ d' :: back) =
        front ++ (d :: (rest ++ c :: rest') ++ [d']) ++ back := by
      simp only [List.append_assoc, List.cons_append, List.nil_append]
    rw [same, left]
    simp

end Uncaught.Text
