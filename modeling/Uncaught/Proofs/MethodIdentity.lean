import Mathlib.Algebra.Ring.Nat
import Uncaught.Proofs.Registrations

/-!
What the identity of a method tells.

The identity of a method is the text of its class, `::` and its name as it was written. From the text
alone class and name cannot be told apart, since either may have a `::` of its own. It is different
for methods that are looked up under one name. Then the written names agree in lower case, and of two
texts with the same lower case neither is a longer end of the other, because lower case never takes a
character away (`append_inj_of_lowercase`). So among the methods that one look-up may come by, the
identity tells the method (`eq_of_lastMethod?_id`).
-/
namespace Uncaught

namespace Text

/-! ## The length of lower case -/

theorem length_lowercaseAfter (before cs : List Char) :
    (lowercaseAfter before cs).length = (cs.map fun c => (lowercaseChar c).length).sum := by
  induction cs generalizing before with
  | nil => rfl
  | cons c rest ih =>
    have one : (if c = 'Σ' then [if startsCased before && !startsCased rest then 'ς' else 'σ']
        else lowercaseChar c).length = (lowercaseChar c).length := by
      split
      next sigma => simp [sigma, lowercaseChar]
      next => rfl
    rw [lowercaseAfter, List.length_append, one, ih, List.map_cons, List.sum_cons]

theorem length_lowercaseChar_pos (c : Char) : 0 < (lowercaseChar c).length := by
  rw [lowercaseChar]
  split <;> simp

/-- An end of a text that has the same lower case is the whole text. -/
theorem eq_nil_of_lowercase {before before' front cs : List Char}
    (same : lowercaseAfter before (front ++ cs) = lowercaseAfter before' cs) : front = [] := by
  cases front with
  | nil => rfl
  | cons c front =>
    have lengths := congrArg List.length same
    have pos := length_lowercaseChar_pos c
    simp only [length_lowercaseAfter, List.cons_append, List.map_cons, List.map_append,
      List.sum_cons, List.sum_append] at lengths
    omega

/-- Two texts that end alike and have the same lower case at the end are cut there alike. -/
theorem append_inj_of_lowercase {front front' name name' : String}
    (same : front ++ name = front' ++ name') (lower : lowercase name = lowercase name') :
    front = front' ∧ name = name' := by
  have chars : front.toList ++ name.toList = front'.toList ++ name'.toList := by
    rw [← String.toList_append, same, String.toList_append]
  have lower : lowercaseAfter [] name.toList = lowercaseAfter [] name'.toList :=
    String.ofList_injective lower
  suffices lengths : name.toList.length = name'.toList.length by
    obtain ⟨fronts, names⟩ := List.append_inj' chars lengths
    exact ⟨String.toList_injective fronts, String.toList_injective names⟩
  -- One of the names is an end of the other one.
  rcases List.append_eq_append_iff.1 chars with ⟨more, -, ends⟩ | ⟨more, -, ends⟩
  · rw [ends] at lower
    rw [ends, eq_nil_of_lowercase lower, List.nil_append]
  · rw [ends] at lower
    rw [ends, eq_nil_of_lowercase lower.symm, List.nil_append]

end Text

/-! ## Methods of one name -/

section

variable {ds : List Declaration} {name : String} {owner owner' : TypeName} {info info' : MethodInfo}

/-- A method has the identity of its class and of some spelling of its name. -/
theorem exists_spelling_of_lastMethod? (last : lastMethod? ds owner name = some info) :
    ∃ spelling, Text.lowercase spelling = Text.lowercase name ∧
      info.id.text = owner.text ++ "::" ++ spelling := by
  obtain ⟨entry, found, rfl⟩ := Option.map_eq_some_iff.1 last
  obtain ⟨d, -, gives⟩ := exists_of_latest? found
  obtain ⟨declares, keyed⟩ := Option.filter_eq_some_iff.1 gives
  have keyed : entry.1 = MethodKey.ofName owner name := of_decide_eq_true keyed
  have spelled : ∃ className spelling,
      entry.1 = MethodKey.ofName (TypeName.ofText className) spelling ∧
        entry.2.id = CallableName.ofMethod className spelling := by
    cases d with
    | method className spelling throws =>
      obtain rfl := Option.some.inj declares
      exact ⟨className, spelling, rfl, rfl⟩
    | staticMethod className spelling throws =>
      obtain rfl := Option.some.inj declares
      exact ⟨className, spelling, rfl, rfl⟩
    | _ => exact absurd declares (Option.some_ne_none entry).symm
  obtain ⟨className, spelling, key, id⟩ := spelled
  have key := MethodKey.mk.inj (key.symm.trans keyed)
  refine ⟨spelling, key.2, ?_⟩
  rw [id, ← key.1]
  rfl

/-- Among methods of one name the identity tells the method. -/
theorem eq_of_lastMethod?_id (last : lastMethod? ds owner name = some info)
    (last' : lastMethod? ds owner' name = some info') (same : info.id = info'.id) :
    info = info' := by
  obtain ⟨spelling, lower, text⟩ := exists_spelling_of_lastMethod? last
  obtain ⟨spelling', lower', text'⟩ := exists_spelling_of_lastMethod? last'
  have texts : owner.text ++ "::" ++ spelling = owner'.text ++ "::" ++ spelling' := by
    rw [← text, ← text', same]
  obtain ⟨fronts, -⟩ := Text.append_inj_of_lowercase texts (lower.trans lower'.symm)
  have owners : owner = owner' := by
    have chars := congrArg String.toList fronts
    simp only [String.toList_append, List.append_cancel_right_eq] at chars
    cases owner
    cases owner'
    exact congrArg TypeName.mk (String.toList_injective chars)
  rw [owners, last'] at last
  exact (Option.some.inj last).symm

end

end Uncaught
