import Mathlib.Algebra.Ring.Nat
import Mathlib.Data.List.Perm.Basic
import Uncaught.Proofs.Counting
import Uncaught.Proofs.History

/-!
Batches are made of their files.

The reports of a batch are those of its files, and its statistics are merged from theirs. Merging is
associative and commutative, entries for reasons included, so the statistics of a batch do not
depend on how it is cut into parts or in which order its files come (`Stats.sum_append`,
`Stats.sum_perm`). What is shared between the files is the session, which keeps the ignored types
once they have been asked for; a file is reported alike before and after (`Session.check_after`).

The files are counted by the walk, each of them once. Handlers have every counter at hand, though,
and what they add to this one is added up like everything else
(`Session.filesChecked_checkAll`); that the number is the number of files is a matter of handlers
that leave the counter alone (`Handlers.CountNoFiles`).
-/
namespace Uncaught

/-! ## Statistics of many parts -/

namespace Stats

variable {xs ys : List Stats}

theorem sum_append (xs ys : List Stats) : sum (xs ++ ys) = (sum xs).merge (sum ys) := by
  induction xs with
  | nil => exact (zero_merge _).symm
  | cons s rest ih =>
    show s.merge (sum (rest ++ ys)) = (s.merge (sum rest)).merge (sum ys)
    rw [ih, merge_assoc]

theorem sum_perm (perm : xs.Perm ys) : sum xs = sum ys := by
  induction perm with
  | nil => rfl
  | cons s _ ih => exact congrArg s.merge ih
  | swap s t rest =>
    show t.merge (s.merge (sum rest)) = s.merge (t.merge (sum rest))
    rw [← merge_assoc, merge_comm t, merge_assoc]
  | trans _ _ ih ih' => exact ih.trans ih'

theorem get_sum (parts : List Stats) (counter : Counter) :
    (sum parts).get counter = (parts.map (·.get counter)).sum := by
  induction parts with
  | nil => cases counter <;> rfl
  | cons s rest ih =>
    show (s.merge (sum rest)).get counter = _
    rw [get_merge, ih, List.map_cons, List.sum_cons]

end Stats

theorem Report.stats_concat (parts : List Report) :
    (concat parts).stats = Stats.sum (parts.map (·.stats)) := by
  induction parts with
  | nil => rfl
  | cons part rest ih =>
    rw [concat_cons, stats_append, ih]
    rfl

namespace BatchResult

theorem stats_ofFiles (files : List FileResult) :
    (ofFiles files).stats = Stats.sum (files.map (·.stats)) := by
  have merged (before : Stats) :
      files.foldl (fun stats file => stats.merge file.stats) before =
        before.merge (Stats.sum (files.map (·.stats))) := by
    induction files generalizing before with
    | nil => exact (Stats.merge_zero before).symm
    | cons file rest ih =>
      rw [List.foldl_cons, ih, Stats.merge_assoc]
      rfl
  exact (merged Stats.zero).trans (Stats.zero_merge _)

theorem violationCount_eq (batch : BatchResult) :
    batch.violationCount = batch.diagnostics.length := by
  have counted (files : List FileResult) (before : Nat) :
      files.foldl (fun count file => count + file.diagnostics.length) before =
        before + (files.flatMap (·.diagnostics)).length := by
    induction files generalizing before with
    | nil => rfl
    | cons file rest ih =>
      rw [List.foldl_cons, ih, List.flatMap_cons, List.length_append, Nat.add_assoc]
  exact (counted batch.files 0).trans (Nat.zero_add _)

end BatchResult

/-! ## Batches and their files -/

/-- Handlers that leave the counting of files to the walk. -/
def Handlers.CountNoFiles (handlers : Handlers) : Prop :=
  ∀ input site handler, handlers.handler? site.kind = some handler →
    (handler input site).log.stats.filesChecked = 0

theorem Handlers.countNoFiles_ofConfig (config : Config) : (ofConfig config).CountNoFiles := by
  intro input site handler found
  rw [eq_check_of_ofConfig found]
  show (site.kind.check input site).log.tally.filesChecked = 0
  rw [tally_check]
  cases site.action <;> rfl

namespace Session

variable {session : Session} {p : Program}

/-- A batch is made of the checks of its files. -/
theorem value_checkAll (session : Session) (p : Program) (files : List SourceFile) :
    (session.checkAll p files).value.1 =
      BatchResult.ofFiles (files.map fun file => (session.check p file).value.1) := by
  rw [checkAll, List.map_map]
  rfl

/-- What was checked before makes no difference to the check of a file. -/
theorem check_after (inquire : session.handlers.Inquire) (before : Report) (file : SourceFile) :
    ((session.after before).check p file).value.1 = (session.check p file).value.1 := by
  apply fileReport_congr
  refine findings_report_congr inquire ?_ ?_ file
  · rw [after]
    split <;> rfl
  · rw [after]
    split <;> rfl

theorem diagnostics_stats_check (counts : session.handlers.CountRecords) (file : SourceFile) :
    (session.check p file).value.1.stats.diagnostics =
      (session.check p file).value.1.diagnostics.length :=
  countsRecords_reportFile counts (session.input p) file

/-- The walk counts every file once, and handlers may count more. -/
theorem filesChecked_check (session : Session) (p : Program) (file : SourceFile) :
    (session.check p file).value.1.stats.filesChecked =
      1 + ((file.invocations session.handlers).map fun i =>
        (i.1 (session.input p) i.2).log.stats.filesChecked).sum := by
  show (reportFile (session.input p) session.handlers file).stats.get .filesChecked = _
  rw [reportFile_eq, Report.stats_append, Stats.get_merge, Report.stats_concat, Stats.get_sum,
    List.map_map, List.map_map]
  rfl

theorem diagnostics_stats_checkAll (counts : session.handlers.CountRecords)
    (files : List SourceFile) :
    (session.checkAll p files).value.1.stats.diagnostics =
      (session.checkAll p files).value.1.diagnostics.length := by
  rw [value_checkAll]
  show (BatchResult.ofFiles _).stats.get .diagnostics = (List.flatMap _ (List.map _ files)).length
  rw [BatchResult.stats_ofFiles, Stats.get_sum, List.length_flatMap, List.map_map, List.map_map,
    List.map_map]
  refine congrArg List.sum (List.map_congr_left fun file _ => ?_)
  exact diagnostics_stats_check counts file

theorem filesChecked_checkAll (files : List SourceFile) :
    (session.checkAll p files).value.1.stats.filesChecked =
      files.length + ((files.flatMap (·.invocations session.handlers)).map fun i =>
        (i.1 (session.input p) i.2).log.stats.filesChecked).sum := by
  rw [value_checkAll]
  show (BatchResult.ofFiles _).stats.get .filesChecked = _
  rw [BatchResult.stats_ofFiles, Stats.get_sum, List.map_map, List.map_map]
  induction files with
  | nil => rfl
  | cons file rest ih =>
    have first := filesChecked_check session p file
    rw [List.map_cons, List.sum_cons, ih, List.flatMap_cons, List.map_append, List.sum_append,
      List.length_cons]
    show (session.check p file).value.1.stats.filesChecked + _ = _
    omega

/-- If no handler counts files, each file is counted once. -/
theorem filesChecked_of_countNoFiles (countNoFiles : session.handlers.CountNoFiles)
    (files : List SourceFile) :
    (session.checkAll p files).value.1.stats.filesChecked = files.length := by
  have none : ∀ n ∈ (files.flatMap (·.invocations session.handlers)).map fun i =>
      (i.1 (session.input p) i.2).log.stats.filesChecked, n = 0 := by
    intro n member
    obtain ⟨i, called, rfl⟩ := List.mem_map.1 member
    obtain ⟨file, -, called⟩ := List.mem_flatMap.1 called
    exact countNoFiles _ _ _ (SourceFile.handler?_of_mem_invocations called)
  rw [filesChecked_checkAll, List.sum_eq_zero_iff_forall_eq_nat.2 none, Nat.add_zero]

end Session

/-- **Batches compose.** Take a session in any state, with handlers that learn of the ignored types
only by asking and that change the counter of diagnostics only by reporting some. Whatever was
checked before, a file and a batch are reported as they would have been without. The reports of a
batch are those of its files alone; for two batches put together they are those of the one and then
of the other, and the statistics are the merged ones; and with the files in another order the
reports are reordered and the statistics are the same. The number of diagnostics is the same in
every way to count them. The walk counts every file once, so their number is right if no handler
counts files on its own. -/
theorem batches_compose (c : Codebase) (session : Session)
    (inquire : session.handlers.Inquire) (counts : session.handlers.CountRecords) :
    let batch (files : List SourceFile) := (session.checkAll c.program files).value.1
    let alone (file : SourceFile) := (session.check c.program file).value.1
    (∀ before,
      let ((_, later), grown) := c.ask (session.checkAll c.program before)
      (∀ file, (later.check grown.program file).value.1 = alone file) ∧
        ∀ files, (later.checkAll grown.program files).value.1 = batch files) ∧
    (∀ xs ys, (batch (xs ++ ys)).files = (batch xs).files ++ (batch ys).files ∧
      (batch (xs ++ ys)).stats = (batch xs).stats.merge (batch ys).stats) ∧
    (∀ xs ys, xs.Perm ys →
      (batch xs).files.Perm (batch ys).files ∧ (batch xs).stats = (batch ys).stats) ∧
    ∀ xs, (batch xs).files = xs.map alone ∧
      (batch xs).violationCount = (batch xs).diagnostics.length ∧
      (batch xs).stats.diagnostics = (batch xs).diagnostics.length ∧
      (batch xs).stats.filesChecked =
        xs.length + ((xs.flatMap (·.invocations session.handlers)).map fun i =>
          (i.1 (session.input c.program) i.2).log.stats.filesChecked).sum ∧
      (session.handlers.CountNoFiles → (batch xs).stats.filesChecked = xs.length) := by
  intro batch alone
  have reports (xs : List SourceFile) : batch xs = BatchResult.ofFiles (xs.map alone) :=
    session.value_checkAll c.program xs
  have stats (xs : List SourceFile) :
      (batch xs).stats = Stats.sum ((xs.map alone).map (·.stats)) := by
    rw [reports, BatchResult.stats_ofFiles]
  have files (xs : List SourceFile) : (batch xs).files = xs.map alone := by
    rw [reports]
    rfl
  refine ⟨fun before => ?_, fun xs ys => ⟨?_, ?_⟩, fun xs ys perm => ⟨?_, ?_⟩, fun xs => ?_⟩
  · have same (file : SourceFile) := Session.check_after (p := c.program) inquire
      (List.foldl (fun whole report => whole ++ report.2) (∅ : Report)
        (before.map fun file => (file, session.report c.program file))) file
    refine ⟨same, fun xs => ?_⟩
    rw [reports, Session.value_checkAll]
    exact congrArg BatchResult.ofFiles (List.map_congr_left fun file _ => same file)
  · rw [files, files, files, List.map_append]
  · rw [stats, stats, stats, List.map_append, List.map_append, Stats.sum_append]
  · rw [files, files]
    exact perm.map alone
  · rw [stats, stats]
    exact Stats.sum_perm ((perm.map alone).map (·.stats))
  · exact ⟨files xs, BatchResult.violationCount_eq _, Session.diagnostics_stats_checkAll counts xs,
      Session.filesChecked_checkAll xs, fun none => Session.filesChecked_of_countNoFiles none xs⟩

namespace SharedSession

def codebase : Codebase :=
  Codebase.ofDeclarations [.classLike "Child" ["Base"], .function "g" (some "Child|Other")]

/-- Calls are checked, and what is below `Base` is ignored. -/
def config : Config := ⟨some true, ["Base"]⟩

def session : Session := Session.ofConfig config

/-- The call throws a type that is ignored and one that is not. -/
def caller : SourceFile :=
  ⟨"a", [.routine ⟨"f", .function, none⟩ [.call ⟨2, 0⟩ (.function (.name "g")) []]]⟩

/-- The call cannot be resolved. -/
def lost : SourceFile :=
  ⟨"b", [.routine ⟨"h", .function, none⟩ [.call ⟨2, 0⟩ (.function (.name "missing")) []]]⟩

def batch (files : List SourceFile) : BatchResult :=
  (session.checkAll codebase.program files).value.1

theorem two_files_compose :
    session.handlers.Inquire ∧ session.handlers.CountRecords ∧ session.handlers.CountNoFiles ∧
    (batch [caller, lost]).stats = (batch [caller]).stats.merge (batch [lost]).stats ∧
    (batch [lost, caller]).stats = (batch [caller, lost]).stats ∧
    (batch [caller, lost]).stats.filesChecked = 2 ∧
    (batch [caller]).stats = ⟨1, 1, 0, 1, 1, 0, AbstentionCounts.zero⟩ ∧
    (batch [lost]).stats = ⟨1, 1, 0, 1, 0, 0, ⟨some 1, none, none, none⟩⟩ := by
  have inquire : session.handlers.Inquire := Handlers.inquire_ofConfig config
  have counts : session.handlers.CountRecords := Handlers.countRecords_ofConfig config
  obtain ⟨-, parts, orders, wholes⟩ := batches_compose codebase session inquire counts
  have noFiles : session.handlers.CountNoFiles := Handlers.countNoFiles_ofConfig config
  refine ⟨inquire, counts, noFiles, (parts [caller] [lost]).2,
    (orders [lost, caller] [caller, lost] (.swap _ _ _)).2, ?_, ?_, ?_⟩
  · exact (wholes [caller, lost]).2.2.2.2 noFiles
  · decide +kernel
  · decide +kernel

/-- Counts files where the walk does already. -/
def countFile : Handler := fun _ _ => Check.count .filesChecked

def recounting : Session := Session.ofHandlers [] (Handlers.empty.register .throw countFile)

def thrower : SourceFile :=
  ⟨"c", [.routine ⟨"f", .function, none⟩ [.throw ⟨2, 0⟩ (.new "Child")]]⟩

theorem one_file_is_counted_twice :
    recounting.handlers.Inquire ∧ recounting.handlers.CountRecords ∧
      (recounting.checkAll codebase.program [thrower]).value.1.stats.filesChecked = 2 ∧
      (recounting.checkAll codebase.program [thrower]).value.1.stats.filesChecked ≠
        [thrower].length := by
  have only {kind : SiteKind} {handler : Handler}
      (found : recounting.handlers.handler? kind = some handler) : handler = countFile := by
    cases kind with
    | throw => exact (Option.some.inj found).symm
    | _ => cases found
  have inquire : recounting.handlers.Inquire := by
    intro kind handler found
    rw [only found]
    exact fun _ _ => Inquires.const (Check.count .filesChecked) rfl
  have counts : recounting.handlers.CountRecords := by
    intro kind handler found
    rw [only found]
    exact fun _ _ => rfl
  exact ⟨inquire, counts, by decide +kernel, by decide +kernel⟩

end SharedSession

end Uncaught
