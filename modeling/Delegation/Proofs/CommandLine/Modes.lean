import Delegation.CommandLine.Generate
import Delegation.Proofs.Compilation.Directory
import Delegation.Proofs.Compilation.Medium
import Delegation.Proofs.Json

/-!
# The modes of the command

The command compiles the snapshot in the same way whatever it does with the result.  So its exit
code and its messages do not depend on the mode, and the exit code tells whether every annotated
class was generated.  Where it succeeds, what is counted, printed or written in one mode is as much
as in any other.  Nothing is assumed of the reader of TOML, and of the writer of JSON no more than
that its texts spell what they are written for.

The log is another matter: that a file was written is only logged where files are written.  But this
is information, which no log gets unless it is verbose.

## Main Definitions

* `Settings.inMode` — settings with the flag of a mode.
* `Succeeded` — a compilation has ended well and without errors.
* `successText`, `eventsIn` — what there is to say about a success in each mode, and what is logged.

## Main Statements

* `exitCode_reportOf_eq_zero_iff`, `reportOf_agrees` — what a report depends on.
* `filter_isShown_eventsIn` — a log that is not verbose is the same in each mode.
* `generate_inMode` — what the command does in each mode.
* `modes_agree` — the modes agree.
-/

namespace Delegation

open Java

/-- A map has as many values as a list of its keys has names. -/
theorem length_values {α : Type} {map : ClassMap α} {names : List ClassName} (nodup : names.Nodup)
    (mem_iff : ∀ name, name ∈ map ↔ name ∈ names) : map.values.length = names.length := by
  have keys : map.keys.Perm names :=
    (List.perm_ext_iff_of_nodup Std.TreeMap.nodup_keys nodup).mpr fun name =>
      Std.TreeMap.mem_keys.trans (mem_iff name)
  have values : map.values = map.toList.map Prod.snd := by
    show map.inner.inner.values = (Std.DTreeMap.Internal.Impl.Const.toList _).map Prod.snd
    rw [Std.DTreeMap.Internal.Impl.values_eq_map_snd,
      Std.DTreeMap.Internal.Impl.Const.toList_eq_toListModel_map, List.map_map]
    rfl
  rw [← keys.length_eq, ← Std.TreeMap.map_fst_toList_eq_keys, values, List.length_map,
    List.length_map]

/-- Files that are written leave no trace in a log that is not verbose. -/
theorem DirectoryStore.filter_isShown_withWrites (store : DirectoryStore) (log : List Event) :
    (store.withWrites log).filter (Event.isShown false) = log.filter (Event.isShown false) := by
  have unseen : ∀ name, (store.writesOf name).filter (Event.isShown false) = [] := fun name => by
    unfold writesOf
    split
    · split <;> rfl
    · rfl
  induction log with
  | nil => rfl
  | cons event rest ih =>
      rw [withWrites, List.flatMap_cons, List.filter_append, ← withWrites, ih, List.filter_cons]
      cases event with
      | generated type base => rw [List.filter_append, unseen]; rfl
      | _ => rfl

namespace CommandLine

variable {σ τ : Type} {libraries : Libraries} {settings : Settings} {snapshot : Snapshot}
variable {tree : FileTree}

/-! ## Settings -/

namespace Settings

/-- The same settings with the flag of a mode. -/
def inMode (settings : Settings) : Mode → Settings
  | .check => { settings with check := true }
  | .model => { settings with model := true }
  | .print => { settings with dryRun := true }
  | .write => settings

@[simp]
theorem snapshot_inMode (settings : Settings) (mode : Mode) :
    (settings.inMode mode).snapshot = settings.snapshot := by
  cases mode <;> rfl

@[simp]
theorem verbose_inMode (settings : Settings) (mode : Mode) :
    (settings.inMode mode).verbose = settings.verbose := by
  cases mode <;> rfl

/-- Without the flag of a mode, files are written. -/
theorem mode_eq_write_iff : settings.mode = .write ↔
    settings.check = false ∧ settings.model = false ∧ settings.dryRun = false := by
  unfold mode
  cases settings.check <;> cases settings.model <;> cases settings.dryRun <;> decide

/-- The flag of a mode asks for it, if there is no other one. -/
theorem mode_inMode (plain : settings.mode = .write) (mode : Mode) :
    (settings.inMode mode).mode = mode := by
  obtain ⟨check, model, dryRun⟩ := mode_eq_write_iff.mp plain
  cases mode <;> simp [inMode, Settings.mode, check, model, dryRun]

end Settings

/-! ## Reports -/

section Reports

variable {result : CompilationResult σ} {other : CompilationResult τ}

/-- A compilation has succeeded when it has ended well and without errors. -/
def Succeeded (result : CompilationResult σ) : Prop :=
  (∃ summary, result.outcome = .ok summary) ∧ Diagnostic.hasErrors result.diagnostics = false

theorem errorCount_eq_zero_iff {diagnostics : List Diagnostic} :
    Diagnostic.errorCount diagnostics = 0 ↔ Diagnostic.hasErrors diagnostics = false := by
  simp [Diagnostic.errorCount, Diagnostic.hasErrors, List.countP_eq_zero]

/-- A success is reported with what there is to say about the summary. -/
theorem reportOf_of_succeeded {summary : Summary} (finished : result.outcome = .ok summary)
    (clean : Diagnostic.hasErrors result.diagnostics = false) (text : Summary → String) :
    reportOf libraries settings result (fun summary => .ok (text summary)) =
      .success (text summary)
        (diagnosticText libraries settings.snapshot result.diagnostics) := by
  simp only [reportOf, finished, errorCount_eq_zero_iff.mpr clean, if_true]

/-- A failure is reported with a message, and there is nothing else to say. -/
theorem exists_reportOf_eq_failure (libraries : Libraries) (settings : Settings)
    (failed : ¬ Succeeded result) :
    ∃ message, ∀ text, reportOf libraries settings result text =
      .failure (diagnosticText libraries settings.snapshot result.diagnostics) message := by
  cases finished : result.outcome with
  | error fault => exact ⟨fault.trace, fun text => by simp only [reportOf, finished]⟩
  | ok summary =>
      have unclean : Diagnostic.errorCount result.diagnostics ≠ 0 := fun clean =>
        failed ⟨⟨summary, finished⟩, errorCount_eq_zero_iff.mp clean⟩
      refine ⟨failedMessage (Diagnostic.errorCount result.diagnostics), fun text => ?_⟩
      simp only [reportOf, finished, if_neg unclean]

/-- The exit code of a report tells whether the compilation has succeeded. -/
theorem exitCode_reportOf_eq_zero_iff {text : Summary → String} :
    (reportOf libraries settings result (fun summary => .ok (text summary))).exitCode = 0 ↔
      Succeeded result := by
  by_cases succeeded : Succeeded result
  · obtain ⟨⟨summary, finished⟩, clean⟩ := succeeded
    rw [reportOf_of_succeeded finished clean]
    exact iff_of_true rfl ⟨⟨summary, finished⟩, clean⟩
  · obtain ⟨message, reported⟩ := exists_reportOf_eq_failure libraries settings succeeded
    rw [reported]
    exact iff_of_false Nat.one_ne_zero succeeded

/-- The exit code and the messages of a report do not depend on what there is to say. -/
theorem reportOf_agrees (text text' : Summary → String) :
    (reportOf libraries settings result fun summary => .ok (text summary)).exitCode =
        (reportOf libraries settings result fun summary => .ok (text' summary)).exitCode ∧
      (reportOf libraries settings result fun summary => .ok (text summary)).stderr =
        (reportOf libraries settings result fun summary => .ok (text' summary)).stderr := by
  by_cases succeeded : Succeeded result
  · obtain ⟨⟨summary, finished⟩, clean⟩ := succeeded
    rw [reportOf_of_succeeded finished clean, reportOf_of_succeeded finished clean]
    exact ⟨rfl, rfl⟩
  · obtain ⟨message, reported⟩ := exists_reportOf_eq_failure libraries settings succeeded
    rw [reported, reported]
    exact ⟨rfl, rfl⟩

/-- What is printed to the standard error is the log that is shown and the messages. -/
theorem standardError_logging_congr {report report' : Report} {events events' : List Event}
    (messages : report.stderr = report'.stderr)
    (shown : events.filter (Event.isShown settings.verbose) =
      events'.filter (Event.isShown settings.verbose)) (line : Nat → Event → String) :
    (report.logging settings events).standardError line =
      (report'.logging settings events').standardError line := by
  simp only [Report.standardError, Report.logging, messages, shown]

/-- A report depends on the outcome and the diagnostics alone. -/
theorem reportOf_congr (outcome : other.outcome = result.outcome)
    (diagnostics : other.diagnostics = result.diagnostics) (text : Summary → Except String String) :
    reportOf libraries settings other text = reportOf libraries settings result text := by
  rw [reportOf, reportOf, outcome, diagnostics]

end Reports

/-! ## Modes -/

/-- The compilation that the command runs under some settings. -/
def compilationOf (settings : Settings) (snapshot : Snapshot) : Compilation :=
  (Compilation.ofSnapshot snapshot).withOptions (settings.apply snapshot.options)

/-- What there is to say about a success in each mode, given the text of the classes in JSON. -/
def successText (libraries : Libraries) (settings : Settings) (json : String) (memory : MemoryStore)
    (directory : DirectoryStore) (summary : Summary) : Mode → String
  | .check => checkText libraries settings.snapshot summary
  | .model => json ++ "\n"
  | .print => String.join (memory.files.values.map (sourceText libraries settings.out))
  | .write => directoryText libraries directory summary

/-- What is logged in each mode. -/
def eventsIn (memory : CompilationResult MemoryStore) (directory : CompilationResult DirectoryStore) :
    Mode → List Event
  | .write => directory.store.withWrites directory.log
  | .check | .model | .print => memory.log

/-- A log that is not verbose shows the same in each mode, if the compilations have logged the same. -/
theorem filter_isShown_eventsIn {memory : CompilationResult MemoryStore}
    {directory : CompilationResult DirectoryStore} (same : directory.log = memory.log) (mode : Mode) :
    (eventsIn memory directory mode).filter (Event.isShown false) =
      memory.log.filter (Event.isShown false) := by
  cases mode with
  | write => exact same ▸ directory.store.filter_isShown_withWrites directory.log
  | _ => rfl

theorem eventsIn_of_ne_write (memory : CompilationResult MemoryStore)
    (directory : CompilationResult DirectoryStore) {mode : Mode} (inMemory : mode ≠ .write) :
    eventsIn memory directory mode = memory.log := by
  cases mode with
  | write => exact absurd rfl inMemory
  | _ => rfl

/-- In memory, what there is to say is what the mode asks for. -/
theorem memoryText_inMode (plain : settings.mode = .write) {mode : Mode} (inMemory : mode ≠ .write)
    {memory : MemoryStore} {json : String}
    (printed : libraries.writeJson (.array (memory.classes.values.map BaseClass.toJson)) = .ok json)
    (directory : DirectoryStore) :
    memoryText libraries (settings.inMode mode) memory =
      fun summary => .ok (successText libraries settings json memory directory summary mode) := by
  funext summary
  rw [memoryText, Settings.mode_inMode plain]
  cases mode with
  | write => exact absurd rfl inMemory
  | model => simp only [printed, successText]
  | _ => rfl

/-- The command with a snapshot that it can read. -/
theorem execute_of_read {text : String} (found : tree.find? settings.snapshot = some (.file text))
    (read : Snapshot.ofText libraries.readToml? text = .ok snapshot) :
    execute libraries settings tree = generate libraries settings snapshot tree := by
  simp only [execute, readSnapshot, found, read]

/-- What the command does in each mode, if the file system does not fail. -/
theorem generate_inMode (plain : settings.mode = .write) {json : String}
    (printed : libraries.writeJson (.array
      (((compilationOf settings snapshot).run MemoryStore.output .empty).store.classes.values.map
        BaseClass.toJson)) = .ok json)
    (writable : ∀ path cause,
      ((compilationOf settings snapshot).run (DirectoryStore.output settings.out)
        (.ofTree tree)).outcome ≠ .error (.unwritable path cause)) (mode : Mode) :
    let memory := (compilationOf settings snapshot).run MemoryStore.output .empty
    let directory := (compilationOf settings snapshot).run (DirectoryStore.output settings.out)
      (.ofTree tree)
    generate libraries (settings.inMode mode) snapshot tree =
      ((reportOf libraries settings memory fun summary =>
        .ok (successText libraries settings json memory.store directory.store summary mode)).logging
          settings (eventsIn memory directory mode),
      if mode = .write then directory.store.tree else tree) := by
  intro memory directory
  obtain ⟨outcome, diagnostics, -⟩ := Compilation.mirrors_run _ settings.out tree writable
  by_cases written : mode = .write
  · obtain rfl := written
    rw [generate, Settings.mode_inMode plain, ← reportOf_congr outcome diagnostics]
    rfl
  · rw [← memoryText_inMode plain written printed, if_neg written,
      eventsIn_of_ne_write memory directory written]
    have asked := Settings.mode_inMode plain mode
    cases mode with
    | write => exact absurd rfl written
    | _ =>
        simp only [generate, asked]
        rfl

/-- A compilation has succeeded when it has ended well and has generated every annotated class. -/
theorem succeeded_run_iff {compilation : Compilation} (reached : compilation.snapshot.Reached)
    {output : Output σ} {store : σ} :
    Succeeded (compilation.run output store) ↔
      (∃ summary, (compilation.run output store).outcome = .ok summary) ∧
        ∀ type ∈ compilation.snapshot.annotated,
          type ∈ (compilation.lastRun output store).2.progress.emitted := by
  refine and_congr_right fun ⟨summary, finished⟩ => ?_
  cases ran : compilation.lastRun output store with
  | mk outcome final =>
      rw [Compilation.run_eq ran] at finished ⊢
      obtain rfl : outcome = .ok summary := finished
      exact Compilation.clean_iff_mem_emitted reached ran

/-- A snapshot that is read from a text is reached. -/
theorem reached_of_ofText {read? : String → Option Toml.Value} {text : String}
    (read : Snapshot.ofText read? text = .ok snapshot) : snapshot.Reached := by
  unfold Snapshot.ofText at read
  split at read
  · exact .read read
  · cases read

/-- **The modes agree**, if the file system does not fail and JSON is written right.  In all of them
the command has one exit code and prints the same to the standard error, except for the files that
are written, which a verbose log mentions; it succeeds exactly when the compilation ends well and
every annotated class was generated; it leaves the files alone unless it is to write them; and where
it succeeds, it counts, prints or writes as many classes as the summary lists. -/
theorem modes_agree {text : String} (found : tree.find? settings.snapshot = some (.file text))
    (read : Snapshot.ofText libraries.readToml? text = .ok snapshot)
    (plain : settings.mode = .write)
    (spelled : ∀ value, ∃ json, libraries.writeJson value = .ok json ∧ Json.Spells json value)
    (writable : ∀ path cause,
      ((compilationOf settings snapshot).run (DirectoryStore.output settings.out)
        (.ofTree tree)).outcome ≠ .error (.unwritable path cause)) :
    let compilation := compilationOf settings snapshot
    let memory := compilation.run MemoryStore.output .empty
    let directory := compilation.run (DirectoryStore.output settings.out) (.ofTree tree)
    let sources := memory.store.files.values
    let models := memory.store.classes.values.map BaseClass.toJson
    let written := directory.store.written.values
    let report := fun mode => (execute libraries (settings.inMode mode) tree).1
    (∀ mode other, (report mode).exitCode = (report other).exitCode) ∧
    (∀ mode other, settings.verbose = false ∨ mode ≠ .write ∧ other ≠ .write →
      ∀ line, (report mode).standardError line = (report other).standardError line) ∧
    (∀ mode, (report mode).exitCode = 0 ↔ (∃ summary, memory.outcome = .ok summary) ∧
      ∀ type ∈ snapshot.annotated,
        type ∈ (compilation.lastRun MemoryStore.output .empty).2.progress.emitted) ∧
    (∀ mode, mode ≠ .write → (execute libraries (settings.inMode mode) tree).2 = tree) ∧
    ((report .write).exitCode = 0 → ∃ summary json, memory.outcome = .ok summary ∧
      (report .check).stdout =
        libraries.paint .green "✓" ++ " " ++ settings.snapshot ++ " validated successfully, " ++
          toString summary.generated.length ++ " class(es) would be generated\n" ∧
      (report .print).stdout = String.join (sources.map fun file =>
        libraries.paint .dimmed "──" ++ "  " ++ Source.Path.join settings.out file.path ++ "\n" ++
          file.source) ∧
      sources.length = summary.generated.length ∧
      (report .model).stdout = json ++ "\n" ∧ Json.Spells json (.array models) ∧
      models.length = summary.generated.length ∧
      (report .write).stdout = String.join (written.map fun file =>
          if file.changed then
            "  " ++ libraries.paint .cyan "→" ++ " " ++ file.path ++ " written\n"
          else "  " ++ libraries.paint .dimmed "·" ++ " " ++ file.path ++ " unchanged\n") ++
        (libraries.paint .green "✓" ++ " " ++ toString summary.generated.length ++
          " class(es) generated in " ++ toString summary.rounds ++ " round(s)\n") ∧
      written.length = summary.generated.length) := by
  intro compilation memory directory sources models written report
  have reached : compilation.snapshot.Reached := reached_of_ofText read
  obtain ⟨json, printed, spells⟩ := spelled (.array models)
  obtain ⟨-, -, log, mirrors⟩ := Compilation.mirrors_run compilation settings.out tree writable
  have ran : ∀ mode, execute libraries (settings.inMode mode) tree =
      ((reportOf libraries settings memory fun summary =>
        .ok (successText libraries settings json memory.store directory.store summary mode)).logging
          settings (eventsIn memory directory mode),
      if mode = .write then directory.store.tree else tree) := fun mode => by
    rw [← Settings.snapshot_inMode settings mode] at found
    exact (execute_of_read found read).trans (generate_inMode plain printed writable mode)
  have reported := fun mode => congrArg Prod.fst (ran mode)
  refine ⟨fun mode other => ?_, fun mode other same line => ?_, fun mode => ?_,
    fun mode inMemory => ?_, fun succeeded => ?_⟩
  · simp only [report, reported]
    exact (reportOf_agrees _ _).1
  · simp only [report, reported]
    refine standardError_logging_congr (reportOf_agrees _ _).2 ?_ line
    rcases same with terse | ⟨inMemory, inMemory'⟩
    · rw [terse, filter_isShown_eventsIn log, filter_isShown_eventsIn log]
    · rw [eventsIn_of_ne_write _ _ inMemory, eventsIn_of_ne_write _ _ inMemory']
  · simp only [report, reported]
    exact exitCode_reportOf_eq_zero_iff.trans (succeeded_run_iff reached)
  · exact (congrArg Prod.snd (ran mode)).trans (if_neg inMemory)
  · simp only [report, reported] at succeeded
    obtain ⟨⟨summary, finished⟩, clean⟩ := exitCode_reportOf_eq_zero_iff.mp succeeded
    have said : ∀ mode, (report mode).stdout =
        successText libraries settings json memory.store directory.store summary mode :=
      fun mode => by
        simp only [report, reported]
        rw [reportOf_of_succeeded finished clean]
        rfl
    obtain ⟨nodup, files, classes⟩ := Compilation.generated_run reached finished
    refine ⟨summary, json, finished, said .check, said .print, length_values nodup files,
      said .model, spells, ?_, said .write,
      length_values nodup fun name => (mirrors.names name).trans (files name)⟩
    rw [List.length_map]
    exact length_values nodup classes

/-- A class with two delegates that have a method in common, as a snapshot file. -/
def sharingText : String :=
  "types = [\n" ++
    "\x7bname=\"foo.I\",kind=\"interface\",methods=[\x7bname=\"m\"\x7d]\x7d,\n" ++
    "\x7bname=\"foo.J\",kind=\"interface\",methods=[\x7bname=\"m\"\x7d]\x7d,\n" ++
    "\x7bname=\"foo.C\",kind=\"class\",extends=\"foo.AutoDelegate_C\",auto_delegate.delegates=" ++
      "[\x7binterface=\"foo.I\"\x7d,\x7binterface=\"foo.J\"\x7d]\x7d]\n"

/-- The types of this file. -/
def sharing : List TypeDefinition :=
  [{ name := "foo.I", kind := .interface, methods := [{ name := "m" }] },
   { name := "foo.J", kind := .interface, methods := [{ name := "m" }] },
   { name := "foo.C", kind := .class_, extends? := some "foo.AutoDelegate_C"
     request? := some ⟨[⟨"foo.I", none⟩, ⟨"foo.J", none⟩], none⟩ }]

/-- A project with this snapshot file. -/
def sharingProject : FileTree := FileTree.empty.plant "app.toml" (.file sharingText)

/-- One class is counted, printed and written.  In each mode the warning about the method is logged and
shown, and only writing touches the project. -/
theorem modes_agree_sharing :
    let settings : Settings := { snapshot? := some "app.toml", out? := some "out" }
    let report := fun mode => (execute .plain (settings.inMode mode) sharingProject).1
    (∀ mode, (report mode).exitCode = 0) ∧
    (∀ mode line, (report mode).standardError line =
      line 0 (.shared ⟨"foo", "C", []⟩ ⟨"m", []⟩) ++
        ("! [foo.C] [AutoDelegateAmbiguousMethod] m() is declared by foo.I and foo.J; " ++
          "forwarding to foo.I\n  in: app.toml\n")) ∧
    (∀ mode, mode ≠ .write →
      (execute .plain (settings.inMode mode) sharingProject).2 = sharingProject) ∧
    (report .check).stdout =
      "✓ app.toml validated successfully, 1 class(es) would be generated\n" ∧
    (∃ file : SourceFile, (report .print).stdout =
      "──  " ++ Source.Path.join "out" file.path ++ "\n" ++ file.source) ∧
    (∃ json model, (report .model).stdout = json ++ "\n" ∧ Json.Spells json (.array [model])) ∧
    (report .write).stdout = "  → out/foo/AutoDelegate_C.java written\n" ++
      "✓ 1 class(es) generated in 2 round(s)\n" := by
  intro settings report
  have found : sharingProject.find? "app.toml" = some (.file sharingText) := by decide +kernel
  have schema : (Toml.parse? sharingText).bind SnapshotDefinition.ofValue? =
      some ⟨.standard, sharing⟩ := by decide +kernel
  have read : Snapshot.ofText Libraries.plain.readToml? sharingText = .ok (.sample sharing) := by
    rw [Snapshot.ofText, show Libraries.plain.readToml? = Toml.parse? from rfl, schema]
    exact Snapshot.ofTypes_sample (by decide +kernel)
  have done : ((compilationOf settings (.sample sharing)).run MemoryStore.output .empty).outcome =
      .ok ⟨[⟨"foo", "AutoDelegate_C", []⟩], 2⟩ := by decide +kernel
  have writable : ((compilationOf settings (.sample sharing)).run (DirectoryStore.output settings.out)
      (.ofTree sharingProject)).outcome = .ok ⟨[⟨"foo", "AutoDelegate_C", []⟩], 2⟩ := by
    decide +kernel
  have written : ((compilationOf settings (.sample sharing)).run (DirectoryStore.output settings.out)
      (.ofTree sharingProject)).store.written.values =
        [⟨"out/foo/AutoDelegate_C.java", true⟩] := by decide +kernel
  have executed : report .check =
      (generate .plain (settings.inMode .check) (.sample sharing) sharingProject).1 :=
    congrArg Prod.fst (execute_of_read found read)
  obtain ⟨succeeded, logged, told⟩ : (report .check).exitCode = 0 ∧
      (report .check).log = [.shared ⟨"foo", "C", []⟩ ⟨"m", []⟩] ∧ (report .check).stderr =
        "! [foo.C] [AutoDelegateAmbiguousMethod] m() is declared by foo.I and foo.J; " ++
          "forwarding to foo.I\n  in: app.toml\n" := by
    rw [executed]
    decide +kernel
  have spelled : ∀ value, ∃ json, Libraries.plain.writeJson value = .ok json ∧
      Json.Spells json value := fun value => ⟨_, rfl, Json.spells_pretty value⟩
  obtain ⟨same, printed, -, untouched, counts⟩ := modes_agree found read rfl spelled
    fun path cause failed => by cases writable.symm.trans failed
  have all : ∀ mode, (report mode).exitCode = 0 := fun mode => (same mode .check).trans succeeded
  obtain ⟨summary, json, finished, checked, sources, one, models, spells, single, files, -⟩ :=
    counts (all .write)
  obtain rfl := Except.ok.inj (finished.symm.trans done)
  obtain ⟨file, only⟩ := List.length_eq_one_iff.mp one
  obtain ⟨model, alone⟩ := List.length_eq_one_iff.mp single
  rw [only] at sources
  rw [alone] at spells
  rw [written] at files
  refine ⟨all, fun mode line => ?_, untouched, checked, ⟨file, sources⟩,
    ⟨json, model, models, spells⟩, files⟩
  rw [printed mode .check (.inl rfl) line, Report.standardError, logged, told]
  rfl

/-- A verbose log also tells of the file that is written, and so differs from those of other modes. -/
example :
    let settings : Settings := { out? := some "out", verbose := true }
    let logOf := fun settings => (generate .plain settings (.sample sharing) .empty).1.log
    logOf settings =
      [.shared ⟨"foo", "C", []⟩ ⟨"m", []⟩, .wrote "out/foo/AutoDelegate_C.java",
        .generated ⟨"foo", "C", []⟩ ⟨"foo", "AutoDelegate_C", []⟩, .finished 2 1] ∧
    logOf (settings.inMode .check) =
      [.shared ⟨"foo", "C", []⟩ ⟨"m", []⟩,
        .generated ⟨"foo", "C", []⟩ ⟨"foo", "AutoDelegate_C", []⟩, .finished 2 1] := by
  decide +kernel

end CommandLine

end Delegation
