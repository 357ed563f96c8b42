import Uncaught.Config.Load
import Uncaught.Proofs.Trimming

/-!
The layers of a configuration.

Loading meets at most four faults: in the user's file, in the project's file, in a variable, and in
an entry of the ignored types that is there in the end. A computation that meets faults in a row
ends with the first one that occurs, and with a value if none does (`Yields`). The steps of loading
each meet one fault, and they are put together one by one (`Yields.bind`). What is loaded without a
fault is told by the layers alone (`ConfigLayers`): a setting is that of the topmost layer that has
it, where a variable or an override has the ignored types even if it lists none, and a file only if
it lists some. All this is so for every way to decode the texts of files (`yields_loadWith`), that
of TOML documents among them (`topmost_layer_is_loaded`).
-/
namespace Uncaught

/-! ## The first fault -/

/-- An error comes from the first of several faults that occurs. -/
inductive FirstFault {ε : Type} : List (ε → Prop) → ε → Prop where
  | here {fault : ε → Prop} {later : List (ε → Prop)} {e : ε} (occurs : fault e) :
      FirstFault (fault :: later) e
  | later {fault : ε → Prop} {later : List (ε → Prop)} {e : ε} (absent : ∀ e', ¬ fault e')
      (first : FirstFault later e) : FirstFault (fault :: later) e

namespace FirstFault

variable {ε : Type} {fault : ε → Prop} {later : List (ε → Prop)} {e e' : ε}

theorem cons_of_occurs (occurs : fault e) : FirstFault (fault :: later) e' ↔ fault e' := by
  constructor
  · intro first
    cases first with
    | here occurs' => exact occurs'
    | later absent _ => exact absurd occurs (absent e)
  · exact .here

theorem cons_of_absent (absent : ∀ e', ¬ fault e') :
    FirstFault (fault :: later) e ↔ FirstFault later e := by
  constructor
  · intro first
    cases first with
    | here occurs => exact absurd occurs (absent e)
    | later _ first => exact first
  · exact .later absent

theorem singleton_iff : FirstFault [fault] e ↔ fault e := by
  constructor
  · intro first
    cases first with
    | here occurs => exact occurs
    | later _ first => cases first
  · exact .here

end FirstFault

/-- A computation yields a value, or the error of the first fault if one occurs. -/
structure Yields {ε α : Type} (x : Except ε α) (faults : List (ε → Prop)) (a : α) : Prop where
  error_iff : ∀ e, x = .error e ↔ FirstFault faults e
  ok_iff : ∀ b, x = .ok b ↔ (∀ fault ∈ faults, ∀ e, ¬ fault e) ∧ b = a

namespace Yields

variable {ε α β : Type} {fault : ε → Prop} {faults : List (ε → Prop)} {a : α}

theorem nothing (a : α) : Yields (.ok a : Except ε α) [] a where
  error_iff e := iff_of_false (fun same => by cases same) (fun first => by cases first)
  ok_iff b := by
    rw [Except.ok.injEq, eq_comm]
    exact (and_iff_right fun _ member => absurd member List.not_mem_nil).symm

/-- The fault of a computation does not occur. -/
theorem ok (absent : ∀ e, ¬ fault e) : Yields (.ok a) [fault] a where
  error_iff e := by
    rw [FirstFault.singleton_iff]
    exact iff_of_false (fun same => by cases same) (absent e)
  ok_iff b := by
    rw [Except.ok.injEq, eq_comm, List.forall_mem_singleton]
    exact (and_iff_right absent).symm

theorem congr {x : Except ε α} {fault' : ε → Prop} (same : ∀ e, fault e ↔ fault' e)
    (yields : Yields x [fault] a) : Yields x [fault'] a := by
  rwa [show fault' = fault from funext fun e => propext (same e).symm]

/-- The fault of a computation occurs, with a single error. -/
theorem error {e : ε} (only : ∀ e', fault e' ↔ e' = e) :
    Yields (.error e : Except ε α) [fault] a where
  error_iff e' := by rw [FirstFault.singleton_iff, only, Except.error.injEq, eq_comm]
  ok_iff b := by
    rw [List.forall_mem_singleton]
    exact iff_of_false (fun same => by cases same) fun absent => absent.1 e ((only e).2 rfl)

/-- A test whose errors are those of a fault. -/
theorem of_error_iff {x : Except ε Unit} (errors : ∀ e, x = .error e ↔ fault e) :
    Yields x [fault] () := by
  cases x with
  | error e =>
    refine error fun e' => ?_
    rw [← errors e', Except.error.injEq, eq_comm]
  | ok _ => exact ok fun e occurs => by cases (errors e).2 occurs

/-- One computation after the other meets the fault of the first one first. -/
theorem bind {x : Except ε α} {f : α → Except ε β} {b : β} (first : Yields x [fault] a)
    (next : Yields (f a) faults b) : Yields (x >>= f) (fault :: faults) b := by
  cases x with
  | error e =>
    have occurs : fault e := FirstFault.singleton_iff.1 ((first.error_iff e).1 rfl)
    constructor
    · intro e'
      have same : e = e' ↔ fault e' := by
        rw [← Except.error.injEq]
        exact (first.error_iff e').trans FirstFault.singleton_iff
      show (Except.error e : Except ε β) = .error e' ↔ _
      rw [Except.error.injEq, same, FirstFault.cons_of_occurs occurs]
    · intro b'
      refine iff_of_false (fun same => by cases same) fun absent => ?_
      exact absent.1 fault List.mem_cons_self e occurs
  | ok a' =>
    obtain ⟨absent, rfl⟩ := (first.ok_iff a').1 rfl
    rw [List.forall_mem_singleton] at absent
    constructor
    · intro e
      rw [FirstFault.cons_of_absent absent]
      exact next.error_iff e
    · intro b'
      rw [List.forall_mem_cons, and_iff_right absent]
      exact next.ok_iff b'

theorem map {x : Except ε α} (f : α → β) (yields : Yields x [fault] a) :
    Yields (f <$> x) [fault] (f a) := by
  have same : f <$> x = x >>= fun a => .ok (f a) := by cases x <;> rfl
  rw [same]
  exact yields.bind (nothing (f a))

end Yields

/-! ## White space inside an entry -/

/-- A text has a blank between two characters that are none. -/
def HasInnerBlank (text : String) : Prop :=
  ∃ before c after, text.toList = before ++ c :: after ∧ Text.isBlank c = true ∧
    (∃ d ∈ before, Text.isBlank d = false) ∧ ∃ d ∈ after, Text.isBlank d = false

/-- An entry is refused exactly if it has a blank inside. -/
theorem Config.isSpacedEntry_iff {entry : String} :
    isSpacedEntry entry = true ↔ HasInnerBlank entry := by
  rw [isSpacedEntry, List.any_eq_true]
  constructor
  · rintro ⟨c, member, blank⟩
    obtain ⟨before, after, whole, around⟩ := (Text.mem_trimChars_iff_of_isBlank blank).1 member
    exact ⟨before, c, after, whole, blank, around⟩
  · rintro ⟨before, c, after, whole, blank, around⟩
    exact ⟨c, (Text.mem_trimChars_iff_of_isBlank blank).2 ⟨before, after, whole, around⟩, blank⟩

/-! ## The layers -/

/-- What a configuration file is found to be. -/
inductive FileReading where
  | absent
  | unreadable
  /-- The text is no configuration, for a reason. -/
  | malformed (reason : ConfigError)
  | settings (config : Config)

namespace FileReading

section

variable (decode : Config.Decoder)

def ofText (path text : String) : FileReading :=
  match Config.parseWith decode path text with
  | .error reason => malformed reason
  | .ok config => settings config

/-- What a file is found to be at a path. -/
def ofFile (path : String) : FileState → FileReading
  | .absent => absent
  | .unreadable => unreadable
  | .bytes content => (String.fromUTF8? content).elim unreadable (ofText decode path)

end

/-- What a file sets; nothing if there is none to be read. -/
def config : FileReading → Config
  | settings config => config
  | _ => .default

/-- A malformed text at a path is a fault. -/
def MalformedAt (reading : FileReading) (path : String) (e : ConfigError) : Prop :=
  reading = malformed e ∧ ∃ message, e = .parseError path message

/-- A file at a path that is there and cannot be read is a fault, and so is a malformed text. -/
def UnusableAt (reading : FileReading) (path : String) (e : ConfigError) : Prop :=
  reading = unreadable ∧ e = .fileNotFound path ∨ reading.MalformedAt path e

end FileReading

/-- The layers of a configuration, each as it is found. -/
structure ConfigLayers where
  userPath : Option String
  user : FileReading
  projectPath : String
  project : FileReading
  /-- The variable that tells whether calls are checked. -/
  check : Option String
  /-- The variable that lists the ignored types. -/
  ignored : Option String
  overrides : ConfigOverrides

namespace Surroundings

variable (s : Surroundings) (root : String) (overrides : Option ConfigOverrides)

def layersWith (decode : Config.Decoder) : ConfigLayers :=
  let userPath := s.home?.map (Config.inDirectory · Config.userFileName)
  let projectPath := Config.inDirectory root Config.projectFileName
  { userPath
    user := userPath.elim .absent fun path => .ofFile decode path (s.file path)
    projectPath
    project := .ofFile decode projectPath (s.file projectPath)
    check := s.text? Config.checkVariable
    ignored := s.text? Config.ignoredVariable
    overrides := overrides.getD ⟨none, none⟩ }

/-- The layers with files that are TOML documents. -/
def layers : ConfigLayers := s.layersWith root overrides Config.decode

end Surroundings

namespace ConfigLayers

variable (l : ConfigLayers)

/-- Whether calls are checked, by the topmost layer that says so. -/
def checkInvokedCallables : Option Bool :=
  [l.overrides.checkInvokedCallables, l.check.map fun text => decide (Text.trim text = "true"),
    l.project.config.checkInvokedCallables, l.user.config.checkInvokedCallables].findSome? id

/-- The ignored types of the topmost layer that has them. Overrides and the variable have them even
if they list none, a file only if it lists some. -/
def ignoredExceptionTypes : List String :=
  match l.overrides.ignoredExceptionTypes, l.ignored with
  | some entries, _ => entries
  | none, some text => ((Text.split ',' text).map Text.trim).filter (· ≠ "")
  | none, none =>
    if l.project.config.ignoredExceptionTypes = [] then l.user.config.ignoredExceptionTypes
    else l.project.config.ignoredExceptionTypes

/-- The user's file is malformed; it is no fault if it cannot be read. -/
def UserFault (e : ConfigError) : Prop := ∃ path ∈ l.userPath, l.user.MalformedAt path e

/-- The variable holds no truth value, blanks around it aside. -/
def VariableFault (check : Option String) (e : ConfigError) : Prop :=
  ∃ text ∈ check, Text.trim text ≠ "true" ∧ Text.trim text ≠ "false" ∧
    e = .invalidValue "THROWSCAN_CHECK_INVOKED_CALLABLES"
      ("expected true or false, got '" ++ text ++ "'")

/-- One of some entries has a blank inside, and none before it. -/
def EntryFault (entries : List String) (e : ConfigError) : Prop :=
  ∃ before entry after, entries = before ++ entry :: after ∧ HasInnerBlank entry ∧
    (∀ other ∈ before, ¬ HasInnerBlank other) ∧
    e = .validationFailed
      ("analysis.ignored_exception_types[" ++ Nat.repr before.length ++ "]")
      ("'" ++ entry ++ "' is not a type name")

/-- What loading may fail for, in the order in which it is found. -/
def faults : List (ConfigError → Prop) :=
  [l.UserFault, l.project.UnusableAt l.projectPath, VariableFault l.check,
    EntryFault l.ignoredExceptionTypes]

end ConfigLayers

/-! ## The steps of loading -/

namespace Config

theorem exists_message_of_parseWith {decode : Decoder} {path text : String} {e : ConfigError}
    (malformed : parseWith decode path text = .error e) :
    ∃ message, e = .parseError path message := by
  rw [parseWith] at malformed
  split at malformed
  · exact ⟨_, (Except.error.inj malformed).symm⟩
  · cases malformed

theorem overlay_default (base : Config) : base.overlay default = base := by
  rw [overlay, default, Option.none_or]
  rfl

section

variable (decode : Decoder) (base : Config) (path : String)

theorem yields_parseWith (text : String) :
    Yields (base.overlay <$> parseWith decode path text)
      [(FileReading.ofText decode path text).MalformedAt path]
      (base.overlay (FileReading.ofText decode path text).config) := by
  rw [FileReading.ofText]
  cases parsed : parseWith decode path text with
  | error e =>
    refine Yields.error fun e' => ⟨?_, ?_⟩
    · rintro ⟨malformed, -⟩
      exact (FileReading.malformed.inj malformed).symm
    · rintro rfl
      exact ⟨rfl, exists_message_of_parseWith parsed⟩
  | ok config => exact Yields.ok fun e fault => by cases fault.1

/-- The user's file is passed over if it cannot be read. -/
theorem yields_mergeUserFile (file : FileState) :
    Yields (base.mergeUserFile decode path file)
      [(FileReading.ofFile decode path file).MalformedAt path]
      (base.overlay (FileReading.ofFile decode path file).config) := by
  have passedOver (reading : FileReading) (nothing : reading = .absent ∨ reading = .unreadable) :
      Yields (.ok base) [reading.MalformedAt path] (base.overlay reading.config) := by
    have same : base.overlay reading.config = base := by
      rcases nothing with rfl | rfl <;> exact overlay_default base
    rw [same]
    refine Yields.ok fun e fault => ?_
    rcases nothing with rfl | rfl <;> cases fault.1
  cases file with
  | absent => exact passedOver _ (.inl rfl)
  | unreadable => exact passedOver _ (.inr rfl)
  | bytes content =>
    rw [mergeUserFile, FileState.text?, FileReading.ofFile]
    cases String.fromUTF8? content with
    | none => exact passedOver _ (.inr rfl)
    | some text => exact yields_parseWith decode base path text

/-- The project's file must be readable if it is there. -/
theorem yields_mergeProjectFile (file : FileState) :
    Yields (base.mergeProjectFile decode path file)
      [(FileReading.ofFile decode path file).UnusableAt path]
      (base.overlay (FileReading.ofFile decode path file).config) := by
  have notRead : Yields (.error (.fileNotFound path)) [FileReading.unreadable.UnusableAt path]
      (base.overlay FileReading.unreadable.config) := by
    refine Yields.error fun e => ⟨?_, fun same => .inl ⟨rfl, same⟩⟩
    rintro (⟨-, same⟩ | malformed)
    · exact same
    · cases malformed.1
  cases file with
  | absent =>
    have same : base.overlay FileReading.absent.config = base := overlay_default base
    show Yields (.ok base) _ (base.overlay FileReading.absent.config)
    rw [same]
    refine Yields.ok fun e fault => ?_
    rcases fault with unreadable | malformed
    · cases unreadable.1
    · cases malformed.1
  | unreadable => exact notRead
  | bytes content =>
    show Yields (base.mergeFile decode path (.bytes content)) _ _
    rw [mergeFile, FileState.text?, FileReading.ofFile]
    cases String.fromUTF8? content with
    | none => exact notRead
    | some text =>
      refine (yields_parseWith decode base path text).congr fun e => (or_iff_right ?_).symm
      rintro ⟨unreadable, -⟩
      rw [Option.elim_some, FileReading.ofText] at unreadable
      split at unreadable <;> cases unreadable

end

theorem yields_variableBoolean (text : String) :
    Yields (variableBoolean text) [ConfigLayers.VariableFault (some text)]
      (decide (Text.trim text = "true")) := by
  have admissible (value : Text.trim text = "true" ∨ Text.trim text = "false") (e : ConfigError) :
      ¬ ConfigLayers.VariableFault (some text) e := by
    rintro ⟨_, ⟨⟩, notTrue, notFalse, -⟩
    exact value.elim notTrue notFalse
  rw [variableBoolean]
  split
  next isTrue =>
    rw [decide_eq_true isTrue]
    exact Yields.ok (admissible (.inl isTrue))
  next isFalse =>
    rw [decide_eq_false (by rw [isFalse]; decide)]
    exact Yields.ok (admissible (.inr isFalse))
  next notTrue notFalse =>
    refine Yields.error fun e => ⟨?_, fun same => ⟨text, rfl, notTrue, notFalse, same⟩⟩
    rintro ⟨_, ⟨⟩, -, -, same⟩
    exact same

theorem yields_mergeVariables (base : Config) (check ignored : Option String) :
    Yields (base.mergeVariables check ignored) [ConfigLayers.VariableFault check]
      ⟨(check.map fun text => decide (Text.trim text = "true")).or base.checkInvokedCallables,
        (ignored.map variableEntries).getD base.ignoredExceptionTypes⟩ := by
  cases check with
  | none =>
    refine Yields.ok fun e fault => ?_
    obtain ⟨text, ⟨⟩, -⟩ := fault
  | some text => exact Yields.bind ((yields_variableBoolean text).map some) (Yields.nothing _)

/-- The entries are refused for the first one that has a blank inside. -/
theorem validateEntries_eq_error_iff {e : ConfigError} (entries : List String) (index : Nat) :
    validateEntries index entries = .error e ↔
      ∃ before entry after, entries = before ++ entry :: after ∧ HasInnerBlank entry ∧
        (∀ other ∈ before, ¬ HasInnerBlank other) ∧
        e = entryError (index + before.length) entry := by
  induction entries generalizing index with
  | nil =>
    refine iff_of_false (fun same => by cases same) ?_
    rintro ⟨before, entry, after, none, -⟩
    simp at none
  | cons head entries ih =>
    rw [validateEntries]
    split
    next spaced =>
      have spaced := isSpacedEntry_iff.1 spaced
      constructor
      · intro same
        exact ⟨[], head, entries, rfl, spaced, by simp, (Except.error.inj same).symm⟩
      · rintro ⟨before, entry, after, split, -, unspaced, rfl⟩
        cases before with
        | nil =>
          obtain ⟨rfl, rfl⟩ := List.cons.inj split
          rfl
        | cons other before =>
          obtain ⟨rfl, rfl⟩ := List.cons.inj split
          exact absurd spaced (unspaced head List.mem_cons_self)
    next unspaced =>
      have unspaced : ¬ HasInnerBlank head := mt isSpacedEntry_iff.2 unspaced
      rw [ih]
      constructor
      · rintro ⟨before, entry, after, rfl, spaced, others, rfl⟩
        refine ⟨head :: before, entry, after, rfl, spaced, ?_, ?_⟩
        · exact List.forall_mem_cons.2 ⟨unspaced, others⟩
        · rw [List.length_cons, Nat.add_right_comm, Nat.add_assoc]
      · rintro ⟨before, entry, after, split, spaced, others, rfl⟩
        cases before with
        | nil =>
          obtain ⟨rfl, rfl⟩ := List.cons.inj split
          exact absurd spaced unspaced
        | cons other before =>
          obtain ⟨rfl, rfl⟩ := List.cons.inj split
          refine ⟨before, entry, after, rfl, spaced, (List.forall_mem_cons.1 others).2, ?_⟩
          rw [List.length_cons, Nat.add_right_comm, Nat.add_assoc]

theorem yields_validate (config : Config) :
    Yields config.validate [ConfigLayers.EntryFault config.ignoredExceptionTypes] () := by
  refine Yields.of_error_iff fun e => ?_
  rw [validate, validateEntries_eq_error_iff]
  simp only [Nat.zero_add]
  rfl

end Config

namespace Surroundings

variable (s : Surroundings) (root : String) (overrides : Option ConfigOverrides)
  (decode : Config.Decoder)

/-- The configuration with the user's file alone. -/
def userConfig : Except ConfigError Config :=
  match s.home? with
  | none => .ok .default
  | some home =>
    Config.default.mergeUserFile decode (Config.inDirectory home Config.userFileName)
      (s.file (Config.inDirectory home Config.userFileName))

theorem yields_userConfig :
    Yields (s.userConfig decode) [(s.layersWith root overrides decode).UserFault]
      (Config.default.overlay (s.layersWith root overrides decode).user.config) := by
  rw [userConfig]
  cases home : s.home? with
  | none =>
    have noPath : (s.layersWith root overrides decode).userPath = none := by
      rw [layersWith, home, Option.map_none]
    have absent : (s.layersWith root overrides decode).user = .absent := by
      rw [layersWith, home, Option.map_none, Option.elim_none]
    rw [absent]
    refine Yields.ok fun e fault => ?_
    obtain ⟨path, member, -⟩ := fault
    rw [noPath] at member
    cases member
  | some home' =>
    have path : (s.layersWith root overrides decode).userPath =
        some (Config.inDirectory home' Config.userFileName) := by
      rw [layersWith, home, Option.map_some]
    have file : (s.layersWith root overrides decode).user =
        .ofFile decode (Config.inDirectory home' Config.userFileName)
          (s.file (Config.inDirectory home' Config.userFileName)) := by
      rw [layersWith, home, Option.map_some, Option.elim_some]
    have same (e : ConfigError) :
        (s.layersWith root overrides decode).user.MalformedAt
          (Config.inDirectory home' Config.userFileName) e ↔
        (s.layersWith root overrides decode).UserFault e := by
      rw [ConfigLayers.UserFault, path]
      constructor
      · exact fun malformed => ⟨_, rfl, malformed⟩
      · rintro ⟨_, ⟨⟩, malformed⟩
        exact malformed
    refine Yields.congr same ?_
    rw [file]
    exact Config.yields_mergeUserFile decode Config.default _ _

end Surroundings

namespace ConfigLayers

variable (l : ConfigLayers)

/-- The files on top of each other. -/
def files : Config := (Config.default.overlay l.user.config).overlay l.project.config

/-- The variables on top of the files. -/
def merged : Config :=
  ⟨(l.check.map fun text => decide (Text.trim text = "true")).or l.files.checkInvokedCallables,
    (l.ignored.map Config.variableEntries).getD l.files.ignoredExceptionTypes⟩

theorem files_checkInvokedCallables :
    l.files.checkInvokedCallables =
      l.project.config.checkInvokedCallables.or l.user.config.checkInvokedCallables := by
  rw [files, Config.overlay, Config.overlay, Config.default, Option.or_none]

theorem files_ignoredExceptionTypes :
    l.files.ignoredExceptionTypes =
      if l.project.config.ignoredExceptionTypes = [] then l.user.config.ignoredExceptionTypes
      else l.project.config.ignoredExceptionTypes := by
  have user : (Config.default.overlay l.user.config).ignoredExceptionTypes =
      l.user.config.ignoredExceptionTypes := by
    rw [Config.overlay, Config.default]
    cases l.user.config.ignoredExceptionTypes <;> rfl
  rw [files, Config.overlay, user]
  simp only [List.isEmpty_iff]

/-- The layers on top of each other have the settings of the topmost ones. -/
theorem merged_override :
    l.merged.override l.overrides = ⟨l.checkInvokedCallables, l.ignoredExceptionTypes⟩ := by
  rw [Config.override, Config.mk.injEq]
  constructor
  · rw [merged, files_checkInvokedCallables, checkInvokedCallables]
    cases l.overrides.checkInvokedCallables with
    | some check => rfl
    | none =>
      cases l.check with
      | some text => rfl
      | none => cases l.project.config.checkInvokedCallables <;>
          cases l.user.config.checkInvokedCallables <;> rfl
  · rw [merged, files_ignoredExceptionTypes, ignoredExceptionTypes]
    cases l.overrides.ignoredExceptionTypes with
    | some entries => rfl
    | none => cases l.ignored <;> rfl

end ConfigLayers

namespace Config

variable (decode : Decoder) (s : Surroundings) (root : String)
  (overrides : Option ConfigOverrides)

/-- The steps of loading, one after the other. -/
theorem loadWith_eq_bind :
    loadWith decode s root overrides =
      s.userConfig decode >>= fun config =>
        config.mergeProjectFile decode (inDirectory root projectFileName)
          (s.file (inDirectory root projectFileName)) >>= fun config =>
        config.mergeVariables (s.text? checkVariable) (s.text? ignoredVariable) >>= fun config =>
        ((overrides.map config.override).getD config).validate >>= fun _ =>
        .ok ((overrides.map config.override).getD config) := by
  rw [loadWith, Surroundings.userConfig]
  cases s.home? <;> rfl

/-- Loading yields the settings of the topmost layers, or the first fault, whatever decoder reads
the files. -/
theorem yields_loadWith :
    let l := s.layersWith root overrides decode
    Yields (loadWith decode s root overrides) l.faults
      ⟨l.checkInvokedCallables, l.ignoredExceptionTypes⟩ := by
  intro l
  have project : Yields (mergeProjectFile decode _ l.projectPath _)
      [l.project.UnusableAt l.projectPath] l.files :=
    yields_mergeProjectFile decode _ l.projectPath (s.file l.projectPath)
  have merged : Yields (l.files.mergeVariables l.check l.ignored)
      [ConfigLayers.VariableFault l.check] l.merged :=
    yields_mergeVariables l.files l.check l.ignored
  have overridden :
      (overrides.map l.merged.override).getD l.merged =
        ⟨l.checkInvokedCallables, l.ignoredExceptionTypes⟩ := by
    rw [← l.merged_override]
    cases overrides <;> rfl
  rw [loadWith_eq_bind]
  refine (s.yields_userConfig root overrides decode).bind (project.bind (merged.bind ?_))
  rw [overridden]
  exact (yields_validate _).bind (Yields.nothing _)

end Config

/-- **What is loaded is told by the topmost layers.** Loading fails exactly if a fault occurs, with
the first one: a malformed file of the user, a file of the project that is malformed or cannot be
read, a variable that holds no truth value, an entry with a blank inside among the ignored types
that are there in the end. A user's file that cannot be read is no fault, and neither is an entry of
a layer that is not in force. Otherwise each setting is that of the topmost layer that has it. -/
theorem topmost_layer_is_loaded (s : Surroundings) (root : String)
    (overrides : Option ConfigOverrides) :
    let l := s.layers root overrides
    (∀ e, Config.load s root overrides = .error e ↔ FirstFault l.faults e) ∧
      ∀ config, Config.load s root overrides = .ok config ↔
        (∀ fault ∈ l.faults, ∀ e, ¬ fault e) ∧
          config = ⟨l.checkInvokedCallables, l.ignoredExceptionTypes⟩ := by
  intro l
  have loads : Yields (Config.load s root overrides) l.faults
      ⟨l.checkInvokedCallables, l.ignoredExceptionTypes⟩ :=
    Config.yields_loadWith Config.decode s root overrides
  exact ⟨loads.error_iff, loads.ok_iff⟩

/-- An entry of the variable is judged only if nothing overrides it. -/
example :
    let bytesOf (name : String) :=
      if name = Config.ignoredVariable then some "A,B C".toUTF8 else none
    Config.load ⟨bytesOf, fun _ => .absent⟩ "" none =
        .error (.validationFailed "analysis.ignored_exception_types[1]"
          "'B C' is not a type name") ∧
      Config.load ⟨bytesOf, fun _ => .absent⟩ "" (some ⟨none, some []⟩) = .ok ⟨none, []⟩ := by
  decide

end Uncaught
