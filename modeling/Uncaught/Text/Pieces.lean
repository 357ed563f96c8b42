/-!
Texts cut at a separator, put together with one, and stripped of a leading one.

`join` undoes `pieces`: cutting a text at a character and joining the pieces with it gives the text
back.
-/
namespace Uncaught.Text

/-- The pieces of a text between the occurrences of a separator: one more than there are
occurrences. -/
def pieces (sep : Char) : List Char → List (List Char)
  | [] => [[]]
  | c :: cs => if c = sep then [] :: pieces sep cs else (pieces sep cs).modifyHead (c :: ·)

/-- Texts one after the other, with a separator between two neighbours. -/
def join (sep : List Char) : List (List Char) → List Char
  | [] => []
  | [p] => p
  | p :: q :: rest => p ++ sep ++ join sep (q :: rest)

/-- The texts between the occurrences of a separator. -/
def split (sep : Char) (s : String) : List String := (pieces sep s.toList).map String.ofList

/-- A text without the occurrences of a character at its start. -/
def stripLeading (c : Char) (s : String) : String := String.ofList (s.toList.dropWhile (· == c))

@[simp] theorem toList_stripLeading (c : Char) (s : String) :
    (stripLeading c s).toList = s.toList.dropWhile (· == c) := by
  simp [stripLeading]

theorem pieces_ne_nil (sep : Char) (cs : List Char) : pieces sep cs ≠ [] := by
  induction cs with
  | nil => simp [pieces]
  | cons c cs ih =>
    rw [pieces]
    split
    · simp
    · cases h : pieces sep cs with
      | nil => exact absurd h ih
      | cons p ps => simp

theorem join_cons_cons (sep : List Char) (c : Char) (p : List Char) (ps : List (List Char)) :
    join sep ((c :: p) :: ps) = c :: join sep (p :: ps) := by
  cases ps <;> simp [join]

theorem join_pieces (sep : Char) (cs : List Char) : join [sep] (pieces sep cs) = cs := by
  induction cs with
  | nil => rfl
  | cons c cs ih =>
    cases h : pieces sep cs with
    | nil => exact absurd h (pieces_ne_nil sep cs)
    | cons p ps =>
      rw [h] at ih
      by_cases hc : c = sep
      · simp [pieces, hc, h, join, ih]
      · simp [pieces, hc, h, join_cons_cons, ih]

theorem pieces_append (sep : Char) {p : List Char} (free : sep ∉ p) (cs : List Char) :
    pieces sep (p ++ cs) = (pieces sep cs).modifyHead (p ++ ·) := by
  induction p with
  | nil =>
    rw [List.nil_append]
    cases pieces sep cs <;> rfl
  | cons c p ih =>
    have hc : c ≠ sep := fun e => free (e ▸ List.mem_cons_self)
    rw [List.cons_append, pieces, if_neg hc, ih fun h => free (List.mem_cons_of_mem c h)]
    cases pieces sep cs <;> rfl

/-- Cutting gives back the texts that were joined, if the separator is in none of them. -/
theorem pieces_join (sep : Char) {ps : List (List Char)} (some : ps ≠ [])
    (free : ∀ p ∈ ps, sep ∉ p) : pieces sep (join [sep] ps) = ps := by
  induction ps with
  | nil => exact absurd rfl some
  | cons p ps ih =>
    have hp := free p List.mem_cons_self
    cases ps with
    | nil => simpa [join, pieces] using pieces_append sep hp []
    | cons q rest =>
      have ih := ih (List.cons_ne_nil q rest) fun r hr => free r (List.mem_cons_of_mem p hr)
      rw [join, List.append_assoc, pieces_append sep hp, List.singleton_append, pieces, if_pos rfl,
        ih]
      simp

theorem mem_join {sep : List Char} {ps : List (List Char)} {c : Char} (hc : c ∈ join sep ps) :
    c ∈ sep ∨ ∃ p ∈ ps, c ∈ p := by
  induction ps with
  | nil => cases hc
  | cons p ps ih =>
    cases ps with
    | nil => exact .inr ⟨p, List.mem_cons_self, hc⟩
    | cons q rest =>
      rcases List.mem_append.1 hc with hc | hc
      · rcases List.mem_append.1 hc with hc | hc
        · exact .inr ⟨p, List.mem_cons_self, hc⟩
        · exact .inl hc
      · refine (ih hc).imp_right fun h => ?_
        obtain ⟨r, hr, hc⟩ := h
        exact ⟨r, List.mem_cons_of_mem p hr, hc⟩

/-- A character of a text is a separator or stands in one of the pieces. -/
theorem mem_pieces (sep : Char) {cs : List Char} {c : Char} (hc : c ∈ cs) :
    c = sep ∨ ∃ p ∈ pieces sep cs, c ∈ p := by
  rw [← join_pieces sep cs] at hc
  exact (mem_join hc).imp_left List.mem_singleton.1

end Uncaught.Text
