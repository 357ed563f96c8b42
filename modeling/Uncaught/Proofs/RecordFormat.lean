import Uncaught.Diagnostic.Record

/-!
The format of diagnostic records.

A record may be written in many ways: as an object in any order of its fields and with others among
them, or as an array that gives the fields in a fixed order; with the kind by its name, or as the
only key of an object; and without a callee or a declaration, or with `null` in their place. The
format says what each field has to be, however the field is come by (`Diagnostic.FieldsSpell`), and
a value is read as a diagnostic exactly if it spells this diagnostic (`ofJson?_eq_some_iff`). Of all
the values that spell a diagnostic one is canonical. It is made from any other by taking the fields
in their order, without the empty ones and with the kind by its name, and it is the one that is
written. So what is written is read back, and what was read is written in its canonical form
(`records_survive_json`).
-/
namespace Uncaught

/-! ## Values of fields -/

namespace Json

variable {j : Json}

theorem text?_eq_some_iff {text : String} : j.text? = some text ↔ j = .string text := by
  cases j <;> simp [text?]

theorem word?_integer (word : UInt32) : (integer word.toNat).word? = some word := by
  show (if word.toNat < UInt32.size then some (UInt32.ofNat word.toNat) else none) = some word
  rw [if_pos word.toNat_lt_size, UInt32.ofNat_toNat]

/-- Only the integers of 32 bits without a sign are read as words. -/
theorem word?_eq_some_iff {word : UInt32} : j.word? = some word ↔ j = .integer word.toNat := by
  constructor
  · intro read
    rw [word?.eq_def] at read
    split at read
    next n =>
      split at read
      next small =>
        rw [← Option.some.inj read, UInt32.toNat_ofNat_of_lt' small]
        rfl
      next => cases read
    next => cases read
  · rintro rfl
    exact word?_integer word

end Json

namespace IssueKind

variable {kind : IssueKind}

theorem ofName?_eq_some_iff {text : String} : ofName? text = some kind ↔ text = kind.name := by
  constructor
  · intro read
    have named := List.find?_some read
    exact (eq_of_beq named).symm
  · rintro rfl
    cases kind <;> decide

/-- A kind is spelled by its name, or by an object with the name as its only key. -/
inductive Spells : Json → IssueKind → Prop where
  | name (kind : IssueKind) : Spells (.string kind.name) kind
  | key (kind : IssueKind) : Spells (.object [(kind.name, .null)]) kind

theorem ofJson?_eq_some_iff {j : Json} : ofJson? j = some kind ↔ Spells j kind := by
  constructor
  · intro read
    rw [ofJson?.eq_def] at read
    split at read
    next text =>
      rw [ofName?_eq_some_iff.1 read]
      exact .name kind
    next text =>
      rw [ofName?_eq_some_iff.1 read]
      exact .key kind
    next => cases read
  · intro spells
    cases spells with
    | name => exact ofName?_eq_some_iff.2 rfl
    | key => exact ofName?_eq_some_iff.2 rfl

end IssueKind

namespace Diagnostic

/-! ## The format -/

/-- The names of the fields in their order; the last two fields may be left out. -/
def fieldNames : List String :=
  ["kind", "file", "line", "column", "function", "thrown_type", "invoked", "declared"]

/-- What a field spells that may be left out. -/
inductive SpellsOptional : Option Json → Option String → Prop where
  | absent : SpellsOptional none none
  | null : SpellsOptional (some .null) none
  | text (text : String) : SpellsOptional (some (.string text)) (some text)

/-- What the fields of a record have to be, where there is a way to come by them. -/
structure FieldsSpell (field? : String → Option Json) (d : Diagnostic) : Prop where
  kind : ∃ kind, field? "kind" = some kind ∧ IssueKind.Spells kind d.kind
  file : field? "file" = some (.string d.file)
  line : field? "line" = some (.integer d.line.toNat)
  column : field? "column" = some (.integer d.column.toNat)
  function : field? "function" = some (.string d.function)
  thrownType : field? "thrown_type" = some (.string d.thrownType)
  invoked : SpellsOptional (field? "invoked") d.invoked
  declared : SpellsOptional (field? "declared") d.declared

/-- A value spells a diagnostic: an object with the fields among others, or an array of their values
in order. -/
inductive Spells : Json → Diagnostic → Prop where
  | object {fields : List (String × Json)} {d : Diagnostic}
      (spells : FieldsSpell (fields.lookup ·) d) : Spells (.object fields) d
  | array {values : List Json} {d : Diagnostic} (enough : 6 ≤ values.length)
      (few : values.length ≤ 8) (spells : FieldsSpell ((fieldNames.zip values).lookup ·) d) :
      Spells (.array values) d

/-- A kind by its name. -/
def canonicalKind : Json → Json
  | .object [(name, .null)] => .string name
  | kind => kind

/-- The field of a key in its canonical form, if it is not empty. -/
def canonicalField? (field? : String → Option Json) (key : String) : Option (String × Json) :=
  match field? key with
  | none | some .null => none
  | some value => some (key, if key = "kind" then canonicalKind value else value)

/-- The fields of a record in their order, without the empty ones and with the kind by its name. -/
def canonicalFields (field? : String → Option Json) : List (String × Json) :=
  fieldNames.filterMap (canonicalField? field?)

/-- A record as it is written. -/
def canonical : Json → Json
  | .object fields => .object (canonicalFields (fields.lookup ·))
  | .array values => .object (canonicalFields ((fieldNames.zip values).lookup ·))
  | j => j

/-! ## Reading -/

variable {d : Diagnostic}

theorem textOrNull?_eq_some_iff {value? : Option Json} {text? : Option String} :
    (value?.getD .null).textOrNull? = some text? ↔ SpellsOptional value? text? := by
  constructor
  · intro read
    cases value? with
    | none =>
      obtain rfl := Option.some.inj read
      exact .absent
    | some value =>
      cases value with
      | null =>
        obtain rfl := Option.some.inj read
        exact .null
      | string text =>
        obtain rfl := Option.some.inj read
        exact .text text
      | _ => cases read
  · intro spells
    cases spells <;> rfl

theorem ofFields?_eq_some_iff {kind file line column function thrownType invoked declared : Json} :
    ofFields? kind file line column function thrownType invoked declared = some d ↔
      IssueKind.Spells kind d.kind ∧ file = .string d.file ∧ line = .integer d.line.toNat ∧
      column = .integer d.column.toNat ∧ function = .string d.function ∧
      thrownType = .string d.thrownType ∧ invoked.textOrNull? = some d.invoked ∧
      declared.textOrNull? = some d.declared := by
  simp only [← IssueKind.ofJson?_eq_some_iff, ← Json.text?_eq_some_iff, ← Json.word?_eq_some_iff]
  constructor
  · intro read
    simp only [ofFields?, Option.bind_eq_bind, Option.bind_eq_some_iff, Option.pure_def,
      Option.some.injEq] at read
    obtain ⟨_, kind, _, file, _, line, _, column, _, function, _, thrownType, _, invoked, _,
      declared, rfl⟩ := read
    exact ⟨kind, file, line, column, function, thrownType, invoked, declared⟩
  · intro fields
    obtain ⟨kind, file, line, column, function, thrownType, invoked, declared⟩ := fields
    rw [ofFields?, kind, file, line, column, function, thrownType, invoked, declared]
    rfl

theorem ofJson?_object_eq_some_iff {fields : List (String × Json)} :
    ofJson? (.object fields) = some d ↔ FieldsSpell (fields.lookup ·) d := by
  constructor
  · intro read
    simp only [ofJson?, Option.bind_eq_bind, Option.bind_eq_some_iff] at read
    obtain ⟨kind, hasKind, _, file, _, line, _, column, _, function, _, thrownType, read⟩ := read
    obtain ⟨spells, rfl, rfl, rfl, rfl, rfl, invoked, declared⟩ := ofFields?_eq_some_iff.1 read
    exact ⟨⟨kind, hasKind, spells⟩, file, line, column, function, thrownType,
      textOrNull?_eq_some_iff.1 invoked, textOrNull?_eq_some_iff.1 declared⟩
  · intro fields
    obtain ⟨kind, hasKind, spells⟩ := fields.kind
    simp only [ofJson?, hasKind, fields.file, fields.line, fields.column, fields.function,
      fields.thrownType, Option.bind_eq_bind, Option.bind_some]
    exact ofFields?_eq_some_iff.2 ⟨spells, rfl, rfl, rfl, rfl, rfl,
      textOrNull?_eq_some_iff.2 fields.invoked, textOrNull?_eq_some_iff.2 fields.declared⟩

/-- Only the fields of a record count, not their order and no other fields. -/
theorem ofJson?_object_congr {fields fields' : List (String × Json)}
    (same : ∀ key ∈ fieldNames, fields.lookup key = fields'.lookup key) :
    ofJson? (.object fields) = ofJson? (.object fields') := by
  simp only [fieldNames, List.forall_mem_cons] at same
  obtain ⟨kind, file, line, column, function, thrownType, invoked, declared, -⟩ := same
  simp only [ofJson?, kind, file, line, column, function, thrownType, invoked, declared]

/-- An array is read as the object that gives the values the names of the fields in order. -/
theorem ofJson?_array {values : List Json} (enough : 6 ≤ values.length) (few : values.length ≤ 8) :
    ofJson? (.array values) = ofJson? (.object (fieldNames.zip values)) := by
  match values with
  | [kind, file, line, column, function, thrownType] => rfl
  | [kind, file, line, column, function, thrownType, invoked] => rfl
  | [kind, file, line, column, function, thrownType, invoked, declared] => rfl

theorem length_of_ofJson?_array {values : List Json} (read : ofJson? (.array values) = some d) :
    6 ≤ values.length ∧ values.length ≤ 8 := by
  rw [ofJson?.eq_def] at read
  split at read
  next same => cases same
  next rest same =>
    obtain rfl := Json.array.inj same
    split at read
    · simp
    · simp
    · simp
    · cases read
  next => cases read

/-- A value is read as a diagnostic exactly if it spells this diagnostic. -/
theorem ofJson?_eq_some_iff {j : Json} : ofJson? j = some d ↔ Spells j d := by
  constructor
  · intro read
    cases j with
    | object fields => exact .object (ofJson?_object_eq_some_iff.1 read)
    | array values =>
      obtain ⟨enough, few⟩ := length_of_ofJson?_array read
      rw [ofJson?_array enough few] at read
      exact .array enough few (ofJson?_object_eq_some_iff.1 read)
    | _ => cases read
  · intro spells
    cases spells with
    | object spells => exact ofJson?_object_eq_some_iff.2 spells
    | array enough few spells =>
      rw [ofJson?_array enough few]
      exact ofJson?_object_eq_some_iff.2 spells

/-! ## Writing -/

theorem exists_fields_toJson (d : Diagnostic) :
    ∃ fields, d.toJson = .object fields ∧ FieldsSpell (fields.lookup ·) d ∧
      fields.lookup "invoked" = d.invoked.map .string ∧
      fields.lookup "declared" = d.declared.map .string := by
  obtain ⟨kind, file, line, column, function, thrownType, invoked, declared⟩ := d
  refine ⟨_, rfl, ?_, ?_, ?_⟩
  · cases invoked <;> cases declared <;>
      exact ⟨⟨_, rfl, .name kind⟩, rfl, rfl, rfl, rfl, rfl, by constructor, by constructor⟩
  · cases invoked <;> cases declared <;> rfl
  · cases invoked <;> cases declared <;> rfl

section

variable {field? : String → Option Json} {key : String}

theorem canonicalField?_kind {kind : Json} {k : IssueKind} (found : field? "kind" = some kind)
    (spells : IssueKind.Spells kind k) :
    canonicalField? field? "kind" = some ("kind", .string k.name) := by
  rw [canonicalField?, found]
  cases spells <;> rfl

theorem canonicalField?_string {text : String} (found : field? key = some (.string text)) :
    canonicalField? field? key = some (key, .string text) := by
  simp only [canonicalField?, found, canonicalKind, ite_self]

theorem canonicalField?_integer {value : Int} (found : field? key = some (.integer value)) :
    canonicalField? field? key = some (key, .integer value) := by
  simp only [canonicalField?, found, canonicalKind, ite_self]

theorem canonicalField?_optional {text? : Option String}
    (spells : SpellsOptional (field? key) text?) :
    canonicalField? field? key = text?.map fun text => (key, .string text) := by
  generalize found : field? key = value? at spells
  cases spells with
  | absent => rw [canonicalField?, found, Option.map_none]
  | null => rw [canonicalField?, found, Option.map_none]
  | text text => rw [canonicalField?_string found, Option.map_some]

/-- The fields that spell a diagnostic give what is written in their canonical form. -/
theorem toJson_eq_canonicalFields (fields : FieldsSpell field? d) :
    d.toJson = .object (canonicalFields field?) := by
  obtain ⟨kind, hasKind, spells⟩ := fields.kind
  rw [toJson, canonicalFields]
  simp only [fieldNames, List.filterMap_cons, List.filterMap_nil,
    canonicalField?_kind hasKind spells, canonicalField?_string fields.file,
    canonicalField?_integer fields.line, canonicalField?_integer fields.column,
    canonicalField?_string fields.function, canonicalField?_string fields.thrownType,
    canonicalField?_optional fields.invoked, canonicalField?_optional fields.declared]
  cases d.invoked <;> cases d.declared <;> rfl

end

/-- What spells a diagnostic has the canonical form in which the diagnostic is written. -/
theorem Spells.canonical_eq {j : Json} (spells : Spells j d) : canonical j = d.toJson := by
  cases spells with
  | object fields => exact (toJson_eq_canonicalFields fields).symm
  | array _ _ fields => exact (toJson_eq_canonicalFields fields).symm

theorem spells_toJson (d : Diagnostic) : Spells d.toJson d := by
  obtain ⟨fields, written, spells, -⟩ := exists_fields_toJson d
  rw [written]
  exact .object spells

end Diagnostic

open Diagnostic in
/-- **Diagnostics survive being written and read.** What is written of a diagnostic is read as the
diagnostic, and it has a field for the callee or the declaration only if there is one. A value is
read as a diagnostic exactly if it spells the diagnostic by the format. Then writing the diagnostic
gives the canonical form of the value, which is read as the same diagnostic; so two values are read
as the same diagnostic exactly if they have the same canonical form. An array is read as any object
in which the fields have its values. -/
theorem records_survive_json :
    (∀ d : Diagnostic, ofJson? d.toJson = some d) ∧
    (∀ d : Diagnostic, ∃ fields, d.toJson = .object fields ∧
      fields.lookup "invoked" = d.invoked.map .string ∧
      fields.lookup "declared" = d.declared.map .string) ∧
    (∀ j d, ofJson? j = some d ↔ Spells j d) ∧
    (∀ j d, ofJson? j = some d → d.toJson = canonical j ∧ ofJson? (canonical j) = some d) ∧
    (∀ j j' d d', ofJson? j = some d → ofJson? j' = some d' →
      (d = d' ↔ canonical j = canonical j')) ∧
    ∀ values fields, 6 ≤ values.length → values.length ≤ 8 →
      (∀ key ∈ fieldNames, fields.lookup key = (fieldNames.zip values).lookup key) →
      ofJson? (.object fields) = ofJson? (.array values) := by
  have written (d : Diagnostic) : ofJson? d.toJson = some d :=
    ofJson?_eq_some_iff.2 (spells_toJson d)
  have form (j : Json) (d : Diagnostic) (read : ofJson? j = some d) : canonical j = d.toJson :=
    (ofJson?_eq_some_iff.1 read).canonical_eq
  refine ⟨written, ?_, fun j d => ofJson?_eq_some_iff, ?_, ?_, ?_⟩
  · intro d
    obtain ⟨fields, same, -, optional⟩ := exists_fields_toJson d
    exact ⟨fields, same, optional⟩
  · intro j d read
    rw [form j d read]
    exact ⟨rfl, written d⟩
  · intro j j' d d' read read'
    rw [form j d read, form j' d' read']
    constructor
    · exact congrArg toJson
    · intro same
      have again := written d
      rw [same, written d'] at again
      exact (Option.some.inj again).symm
  · intro values fields enough few same
    rw [ofJson?_array enough few]
    exact ofJson?_object_congr same

/-- An array without a declaration, with the kind as a key. -/
example :
    (Diagnostic.ofJson? (.array [.object [("ThrowTypeAbsentForCall", .null)], .string "a.php",
      .integer 3, .integer 4294967295, .string "f", .string "X", .string "g"])) =
      some ⟨.absentForCall, "a.php", 3, 4294967295, "f", "X", some "g", none⟩ := by
  decide

end Uncaught
