import Uncaught.Proofs.BoundNames
import Uncaught.Proofs.Interning
import Uncaught.Proofs.Trimming

/-!
Looking a stored name up by its own text.

Every look-up drops what may be around a name before it searches the table, and it finds the number
of a stored name under the text of the name exactly if there is nothing to drop
(`find?_text_eq_some_iff`). Most names have been through the same before they were stored. But the
separators in front of a type are dropped after the blanks around it, so a blank behind them is
stored, and the name of a method is stored as it was written. Nothing else is left for a look-up to
drop (`NameCall.ofText_text_name_iff`), so every other name leads back to its number
(`stored_name_leads_back_iff`).
-/
namespace Uncaught

def Mention.text : Mention → String
  | .type name => name.text
  | .callable name => name.text

/-- The name that a look-up searches for. -/
def NameKind.ofText : NameKind → String → Mention
  | .type, text => .type (TypeName.ofText text)
  | .callable, text => .callable (CallableName.ofText text)

theorem NameKind.kind_ofText (kind : NameKind) (text : String) : (kind.ofText text).kind = kind := by
  cases kind <;> rfl

/-- No blank has been stored at an end of the name: neither behind the separators in front of a type
or a class nor behind the name of a method. -/
def NameCall.LeadsBack : NameCall → Prop
  | .internType spelling | .findType spelling =>
    ¬ Text.StartsBlank (TypeName.ofText spelling).text
  | .internMethod className method =>
    ¬ Text.StartsBlank (TypeName.ofText className).text ∧ ¬ Text.EndsBlank method
  | .internCallable _ | .findCallable _ => True

/-! ## Texts of names -/

namespace Text

variable {s front back : String}

/-- Trimming and stripping leave a text alone only if each of them does. -/
theorem stripLeading_trim_eq_self_iff :
    stripLeading '\\' (trim s) = s ↔ trim s = s ∧ ¬ IsRooted s := by
  constructor
  · intro same
    have stripped : (trimChars s.toList).dropWhile (· == '\\') = s.toList := by
      rw [← toList_trim, ← toList_stripLeading, same]
    -- Nothing is dropped in front, for the rest would be too short.
    have short : (trimChars s.toList).length ≤ s.toList.length := by
      obtain ⟨before, after, whole, -, -⟩ := exists_eq_trimChars s.toList
      have lengths := congrArg List.length whole
      simp only [List.length_append] at lengths
      omega
    have suffix := List.dropWhile_suffix (l := trimChars s.toList) (· == '\\')
    rw [stripped] at suffix
    have trimmed := suffix.eq_of_length_le short
    refine ⟨String.toList_injective ((toList_trim s).trans trimmed.symm), ?_⟩
    rw [← same]
    exact not_isRooted_stripLeading
  · rintro ⟨trimmed, unrooted⟩
    rw [trimmed, stripLeading_of_not_isRooted unrooted]

theorem not_endsBlank_stripLeading (solid : ¬ EndsBlank s) : ¬ EndsBlank (stripLeading '\\' s) := by
  rintro ⟨c, last, blank⟩
  rw [toList_stripLeading] at last
  refine solid ⟨c, ?_, blank⟩
  have some : s.toList.dropWhile (· == '\\') ≠ [] := by
    intro none
    rw [none] at last
    cases last
  rw [← List.takeWhile_append_dropWhile (p := (· == '\\')) (l := s.toList),
    List.getLast?_append_of_ne_nil _ some]
  exact last

theorem startsBlank_append_iff : StartsBlank (front ++ "::" ++ back) ↔ StartsBlank front := by
  have colon : isBlank ':' = false := by decide
  simp only [StartsBlank, String.toList_append]
  cases front.toList with
  | nil => simp [colon]
  | cons c rest => rfl

theorem endsBlank_append_iff : EndsBlank (front ++ "::" ++ back) ↔ EndsBlank back := by
  have colon : isBlank ':' = false := by decide
  simp only [EndsBlank, String.toList_append]
  rcases List.eq_nil_or_concat back.toList with none | ⟨rest, c, some⟩
  · simp [none, colon]
  · rw [some, List.concat_eq_append, ← List.append_assoc, List.getLast?_concat, List.getLast?_concat]

end Text

/-- A text spells the type with this text exactly if there is nothing to trim and no separator in
front. -/
theorem TypeName.ofText_text_eq_iff {name : TypeName} :
    TypeName.ofText name.text = name ↔ Text.trim name.text = name.text ∧ ¬ IsRooted name.text := by
  obtain ⟨text⟩ := name
  rw [TypeName.ofText, TypeName.mk.injEq, Text.stripLeading_trim_eq_self_iff]

/-- Of the type that a spelling names, only a blank in front can be lost. -/
theorem TypeName.ofText_text_ofText_iff {spelling : String} :
    TypeName.ofText (TypeName.ofText spelling).text = TypeName.ofText spelling ↔
      ¬ Text.StartsBlank (TypeName.ofText spelling).text := by
  have unrooted : ¬ IsRooted (TypeName.ofText spelling).text := not_isRooted_stripLeading
  have solid : ¬ Text.EndsBlank (TypeName.ofText spelling).text :=
    Text.not_endsBlank_stripLeading Text.not_endsBlank_trim
  rw [ofText_text_eq_iff, and_iff_left unrooted, Text.trim_eq_self_iff, and_iff_left solid]

theorem CallableName.ofText_text_eq_iff {name : CallableName} :
    CallableName.ofText name.text = name ↔
      ¬ Text.StartsBlank name.text ∧ ¬ Text.EndsBlank name.text := by
  obtain ⟨text⟩ := name
  rw [CallableName.ofText, CallableName.mk.injEq, Text.trim_eq_self_iff]

/-- A name is what its own text spells exactly if no look-up finds anything to drop. -/
theorem NameCall.ofText_text_name_iff (c : NameCall) :
    c.kind.ofText c.name.text = c.name ↔ c.LeadsBack := by
  cases c with
  | internType spelling | findType spelling =>
    show Mention.type (TypeName.ofText (TypeName.ofText spelling).text) =
      .type (TypeName.ofText spelling) ↔ _
    rw [Mention.type.injEq]
    exact TypeName.ofText_text_ofText_iff
  | internCallable spelling | findCallable spelling =>
    refine iff_of_true (congrArg Mention.callable ?_) trivial
    exact CallableName.ofText_text_eq_iff.2 ⟨Text.not_startsBlank_trim, Text.not_endsBlank_trim⟩
  | internMethod className method =>
    show Mention.callable (CallableName.ofText (CallableName.ofMethod className method).text) =
      .callable (CallableName.ofMethod className method) ↔ _
    rw [Mention.callable.injEq, CallableName.ofText_text_eq_iff, CallableName.ofMethod,
      Text.startsBlank_append_iff, Text.endsBlank_append_iff]
    rfl

namespace NameTable

variable {t : NameTable} {name : Mention} {n : Nat}

/-- The number that a text is found under. -/
def find? (t : NameTable) : NameKind → String → Option Nat
  | .type, text => t.type? text
  | .callable, text => t.callable? text

/-- A stored name is found under its own text exactly if the text spells the name. -/
theorem find?_text_eq_some_iff (number : t.number? name = some n) :
    t.find? name.kind name.text = some n ↔ name.kind.ofText name.text = name := by
  have searched : t.find? name.kind name.text = t.number? (name.kind.ofText name.text) := by
    cases name <;> rfl
  rw [searched]
  constructor
  · intro found
    exact (eq_iff_of_number? found number (NameKind.kind_ofText _ _)).1 rfl
  · intro same
    rw [same, number]

end NameTable

/-- **A stored name leads back to its number unless a blank was stored at one of its ends.** Let a
new table of names go through any history of calls. The number that a call was answered with stands
for a name, and this name is looked up by its own text. The number is found if and only if the text
spells the name, and this is so if and only if no blank follows the separators in front of the type,
or of the class of the method, and the method does not end with a blank. Functions and closures
always lead back. -/
theorem stored_name_leads_back_iff (calls : List NameCall) :
    let t := NameTable.empty.after calls
    ∀ c n, (c, some n) ∈ NameTable.empty.transcript calls →
      t.resolve? c.kind n = some c.name ∧
      (t.find? c.kind c.name.text = some n ↔ c.kind.ofText c.name.text = c.name) ∧
      (t.find? c.kind c.name.text = some n ↔ c.LeadsBack) := by
  intro t c n answered
  have number := NameTable.number?_of_mem_transcript answered
  have found := NameTable.find?_text_eq_some_iff number
  exact ⟨NameTable.number?_eq_some_iff.1 number, found, found.trans c.ofText_text_name_iff⟩

namespace BlankInside

/-- A type with a blank behind the separator, the method of a class that is spelled with blanks and
separators around it, and the method again by its identity. -/
def calls : List NameCall :=
  [.internType "\\ A", .internMethod " \\\\A\t" "m", .findCallable " A::m"]

/-- The method leads back however its class was spelled, and the type does not. -/
theorem method_leads_back_and_type_does_not :
    let t := NameTable.empty.after calls
    (.internMethod " \\\\A\t" "m", some 0) ∈ NameTable.empty.transcript calls ∧
    t.find? .callable "A::m" = some 0 ∧
    (.internType "\\ A", some 0) ∈ NameTable.empty.transcript calls ∧
    t.find? .type " A" ≠ some 0 := by
  intro t
  have method : (.internMethod " \\\\A\t" "m", some 0) ∈ NameTable.empty.transcript calls := by
    decide +kernel
  have type : (.internType "\\ A", some 0) ∈ NameTable.empty.transcript calls := by
    decide +kernel
  have leads : (NameCall.internMethod " \\\\A\t" "m").LeadsBack := by
    constructor <;> decide +kernel
  have blank : ¬ (NameCall.internType "\\ A").LeadsBack :=
    not_not.2 (by decide +kernel : Text.StartsBlank (TypeName.ofText "\\ A").text)
  have back := (stored_name_leads_back_iff calls _ _ method).2.2.2 leads
  have lost := mt (stored_name_leads_back_iff calls _ _ type).2.2.1 blank
  exact ⟨method, back, type, lost⟩

end BlankInside

namespace BlankStored

def calls : List NameCall := [.internType "\\ Foo", .internMethod "Foo" "m "]

/-- The numbers stand for names that are not found under their own texts. -/
theorem stored_names_are_not_found :
    let t := NameTable.empty.after calls
    t.resolve? .type 0 = some (.type ⟨" Foo"⟩) ∧ t.find? .type " Foo" = none ∧
    t.resolve? .callable 0 = some (.callable ⟨"Foo::m "⟩) ∧
    t.find? .callable "Foo::m " = none := by
  decide +kernel

end BlankStored

/-- Another name may be found in its place. -/
example :
    let t := NameTable.empty.after [.internType "Foo", .internType "\\ Foo"]
    t.resolve? .type 1 = some (.type ⟨" Foo"⟩) ∧ t.find? .type " Foo" = some 0 := by
  decide +kernel

end Uncaught
