import PrivacyAudit.Disk.Build
import PrivacyAudit.Proofs.Assembling
import PrivacyAudit.Proofs.BuiltIn
import PrivacyAudit.Proofs.Refusing
import PrivacyAudit.Proofs.Telling
import PrivacyAudit.Proofs.Writing

/-!
# What a run does to the disk

A run makes its report before it writes anything. There is none if the project is no directory, if
the settings or a catalog are not in order, or if a pattern is refused (`Refused`); and there is no
file for it if its path leads to none that can be made (`Blocked`). Then the disk is as it was.

A run that succeeds changes one file at most, the one that the report is written to, and the report
is about the disk as it was before. There is one more way to fail: the report breaks off in front of
the path of the project if this is not UTF-8, and then what has been written stays. These are all
the ways (`run_spares_disk`).
-/

namespace PrivacyAudit

/-! ## 1. What keeps a report from being made -/

/-- With settings that are acceptable there is an auditor exactly if the catalogs are in order. -/
theorem Auditor.new_of_check {d : Disk} {s : Settings} (h : s.check = .ok s) :
    Auditor.new d s = (builtInDetectors d s.rulesDirectory?).map
      (⟨s, ·, .empty (s.lifetime * nanosPerMilli) s.capacity⟩) := by
  unfold Auditor.new
  rw [h]
  simp only [Except.mapError, bind, Except.bind]
  cases builtInDetectors d s.rulesDirectory? with
  | error failure => rfl
  | ok ds => rfl

/-- The patterns that are used unless others are asked for are in order. -/
theorem ScanOptions.ofText?_defaults {text : String} (h : text ∈ defaultIncludes ++ defaultExcludes)
    (refusal : Glob.Refusal) : Glob.ofText? text ≠ .error refusal := by
  have hok : ∀ text ∈ defaultIncludes ++ defaultExcludes, (Glob.ofText? text).isOk = true := by
    decide +kernel
  intro herror
  have htext := hok text h
  rw [herror] at htext
  cases htext

namespace CommandLine

/-- Why there is no report: the project is no directory, a settings file or a catalog is not in
order, or a pattern is refused. -/
inductive Refused (w : Surroundings) (a : Arguments) : Prop
  | noDirectory (h : w.disk.isDirectory a.input = false)
  | settings {config : Path} {failure : Failure} (hconfig : a.config? = some config)
      (h : Settings.load w.disk config = .error failure)
  | catalog {s : Settings} {failure : Failure}
      (hs : settingsOf w.disk w.processors a.config? a.concurrency? a.sequential = .ok s)
      (h : Auditor.builtInDetectors w.disk s.rulesDirectory? = .error failure)
  | pattern {text : String} {refusal : Glob.Refusal} (hasked : text ∈ a.includes ++ a.excludes)
      (h : Glob.ofText? text = .error refusal)

/-- The report is about the disk as it is: the files have the contents that stand where their paths
lead to. -/
def Reported (w : Surroundings) (a : Arguments) (files : List SourceFile) (r : Report) : Prop :=
  ∃ s ds, settingsOf w.disk w.processors a.config? a.concurrency? a.sequential = .ok s ∧
    Auditor.builtInDetectors w.disk s.rulesDirectory? = .ok ds ∧
    requestedFiles w.disk a.input a.options = .ok files ∧
    (∀ f ∈ files, ∃ place, w.disk.locate false f.path = .ok place ∧
      w.disk.root.below? place = some (.file f.data)) ∧
    r = .ofOutcomes (scanId a.input a.options) a.input w.timing files
      (outcomes s ds w.schedule files)

section Report

variable {w : Surroundings} {a : Arguments}

/-- Patterns that take the place of others which are in order are the ones that may be refused. -/
theorem exists_refused_getD_iff {defaults texts : List String}
    (h : ∀ text ∈ defaults, ∀ refusal, Glob.ofText? text ≠ .error refusal) :
    (∃ text ∈ (if texts.isEmpty then none else some texts).getD defaults, ∃ refusal,
      Glob.ofText? text = .error refusal) ↔
    ∃ text ∈ texts, ∃ refusal, Glob.ofText? text = .error refusal := by
  cases texts with
  | nil =>
    refine iff_of_false (fun hrefused => ?_) (fun hrefused => ?_)
    · obtain ⟨text, hmem, refusal, hrefused⟩ := hrefused
      exact h text hmem refusal hrefused
    · obtain ⟨_, hnone, -⟩ := hrefused
      exact List.not_mem_nil hnone
  | cons text texts => exact Iff.rfl

/-- A request of the command line is refused for one of the patterns on it. -/
theorem requestedFiles_refused_iff :
    (∃ failure, requestedFiles w.disk a.input a.options = .error failure) ↔
    ∃ text ∈ a.includes ++ a.excludes, ∃ refusal, Glob.ofText? text = .error refusal := by
  have hincludes := @exists_refused_getD_iff ScanOptions.defaultIncludes a.includes
    fun text hmem => ScanOptions.ofText?_defaults (List.mem_append_left _ hmem)
  have hexcludes := @exists_refused_getD_iff ScanOptions.defaultExcludes a.excludes
    fun text hmem => ScanOptions.ofText?_defaults (List.mem_append_right _ hmem)
  have hfailure : (∃ failure, requestedFiles w.disk a.input a.options = .error failure) ↔
      ∃ refusal, Glob.FirstRefused (a.options.normalized.includes ++
        a.options.normalized.excludes) refusal := by
    simp only [requestedFiles_eq_error_iff]
    constructor
    · intro h
      obtain ⟨_, refusal, hfirst, -⟩ := h
      exact ⟨refusal, hfirst⟩
    · intro h
      obtain ⟨refusal, hfirst⟩ := h
      exact ⟨_, refusal, hfirst, rfl⟩
  rw [hfailure, Glob.exists_firstRefused_iff]
  simp only [List.mem_append, or_and_right, exists_or]
  exact or_congr hincludes hexcludes

/-! ## 2. The report of a run -/

theorem auditorOf_of_noDirectory (h : w.disk.isDirectory a.input = false) :
    auditorOf w a = .error (.noDirectory a.input) := by
  unfold auditorOf
  rw [h]
  rfl

theorem auditorOf_of_settings {fault : RunFault} (hdirectory : w.disk.isDirectory a.input = true)
    (h : settingsOf w.disk w.processors a.config? a.concurrency? a.sequential = .error fault) :
    auditorOf w a = .error fault := by
  unfold auditorOf
  rw [hdirectory, h]
  rfl

/-- Behind its settings a run has an auditor if the catalogs are in order. -/
theorem auditorOf_of_check {s : Settings} (hdirectory : w.disk.isDirectory a.input = true)
    (hs : settingsOf w.disk w.processors a.config? a.concurrency? a.sequential = .ok s) :
    auditorOf w a = ((Auditor.builtInDetectors w.disk s.rulesDirectory?).map
      (⟨s, ·, .empty (s.lifetime * nanosPerMilli) s.capacity⟩)).mapError .auditor := by
  unfold auditorOf
  rw [hdirectory, hs, ← Auditor.new_of_check (check_of_settingsOf hs)]
  rfl

/-- Without an auditor there is no report. -/
theorem report_of_fault {fault : RunFault} (h : auditorOf w a = .error fault) :
    report w a = .error fault := by
  unfold report reportReading
  rw [h]
  rfl

/-- Behind its settings and its catalogs a run makes a fresh report. -/
theorem report_of_detectors {s : Settings} {ds : List Detector}
    (hdirectory : w.disk.isDirectory a.input = true)
    (hs : settingsOf w.disk w.processors a.config? a.concurrency? a.sequential = .ok s)
    (h : Auditor.builtInDetectors w.disk s.rulesDirectory? = .ok ds) :
    report w a =
      (freshReport s ds w.disk w.schedule w.timing a.input a.options).mapError .scan := by
  have hanswer := Auditor.answerInStore?_of_empty
    (a := ⟨s, ds, .empty (s.lifetime * nanosPerMilli) s.capacity⟩) rfl w.timing.lookedUp
      a.input a.options
  have hauditor := auditorOf_of_check hdirectory hs
  rw [h] at hauditor
  unfold report reportReading
  rw [hauditor]
  show Except.mapError RunFault.scan
    (Auditor.scanProjectReading _ SourceFile.asFound _ _ _ _ _).1 = _
  rw [Auditor.scanProjectReading_asFound, Auditor.scanProject_of_none hanswer]

section Made

variable {s : Settings} {ds : List Detector} {files : List SourceFile}
  (hs : settingsOf w.disk w.processors a.config? a.concurrency? a.sequential = .ok s)
  (hds : Auditor.builtInDetectors w.disk s.rulesDirectory? = .ok ds)
  (hfiles : requestedFiles w.disk a.input a.options = .ok files)

include hs hds hfiles

/-- A run is not refused if it has come to its files. -/
theorem not_refused (hdirectory : w.disk.isDirectory a.input = true) : ¬ Refused w a := by
  intro hrefused
  cases hrefused with
  | noDirectory h =>
    rw [hdirectory] at h
    cases h
  | settings hconfig h =>
    rw [settingsOf_eq_error_iff.mpr ⟨_, _, hconfig, h, rfl⟩] at hs
    cases hs
  | catalog hs' h =>
    rw [hs] at hs'
    rw [← Except.ok.inj hs', hds] at h
    cases h
  | pattern hasked h =>
    obtain ⟨failure, herror⟩ := requestedFiles_refused_iff (w := w).mpr ⟨_, hasked, _, h⟩
    rw [hfiles] at herror
    cases herror

/-- What a run that has come to its files makes of them is about the disk as it is. -/
theorem reported : Reported w a files
    (.ofOutcomes (scanId a.input a.options) a.input w.timing files
      (outcomes s ds w.schedule files)) := by
  refine ⟨s, ds, hs, hds, hfiles, fun f hf => ?_, rfl⟩
  obtain ⟨walk, -, rfl⟩ := requestedFiles_eq_ok_iff.mp hfiles
  exact Disk.contents_eq_ok_iff.mp (contents_of_mem_collect hf)

end Made

variable (w a) in
/-- **A run makes a report about the disk as it is, unless it is refused.** -/
theorem report_cases : (Refused w a ∧ ∃ fault, report w a = .error fault) ∨
    ¬ Refused w a ∧ ∃ files r, report w a = .ok r ∧ Reported w a files r := by
  cases hdirectory : w.disk.isDirectory a.input with
  | false => exact .inl ⟨.noDirectory hdirectory, _,
      report_of_fault (auditorOf_of_noDirectory hdirectory)⟩
  | true =>
    cases hs : settingsOf w.disk w.processors a.config? a.concurrency? a.sequential with
    | error fault =>
      obtain ⟨config, failure, hconfig, hload, -⟩ := settingsOf_eq_error_iff.mp hs
      exact .inl ⟨.settings hconfig hload, _, report_of_fault (auditorOf_of_settings hdirectory hs)⟩
    | ok s =>
      cases hds : Auditor.builtInDetectors w.disk s.rulesDirectory? with
      | error failure =>
        have hauditor := auditorOf_of_check hdirectory hs
        rw [hds] at hauditor
        exact .inl ⟨.catalog hs hds, _, report_of_fault hauditor⟩
      | ok ds =>
        have hreport := report_of_detectors hdirectory hs hds
        cases hfiles : requestedFiles w.disk a.input a.options with
        | error failure =>
          obtain ⟨text, hasked, refusal, hrefused⟩ :=
            requestedFiles_refused_iff.mp ⟨failure, hfiles⟩
          rw [freshReport_eq_error_iff.mpr hfiles] at hreport
          exact .inl ⟨.pattern hasked hrefused, _, hreport⟩
        | ok files =>
          rw [freshReport_eq_ok_iff.mpr ⟨files, hfiles, rfl⟩] at hreport
          exact .inr ⟨not_refused hs hds hfiles hdirectory, files, _, hreport,
            reported hs hds hfiles⟩

end Report

/-! ## 3. The disk after a run -/

/-- A text is where it is to be: on the standard output, or in a file that has been written on the
disk. -/
def Delivered (d : Disk) (output? : Option Path) (text : String) (result : Result) : Prop :=
  match output? with
  | none => result.standardOutput = text ∧ result.disk = d
  | some output => result.standardOutput = "" ∧ d.RewrittenBy output (Text.encode text) result.disk

/-- The file for the report cannot be made, whatever is to be in it. -/
def Blocked (w : Surroundings) (a : Arguments) : Prop :=
  ∃ output fault, a.output? = some output ∧ ∀ data, w.disk.writeFile output data = .error fault

/-- What a run leaves of the disk. -/
structure Spares (w : Surroundings) (a : Arguments) (result : Result) : Prop where
  /-- A run succeeds if there is a report and a file for it, and the path of the project can be
  written. -/
  succeeds_iff : result.exitCode = 0 ↔
    ¬ Refused w a ∧ ¬ Blocked w a ∧ (Text.decode? a.input.bytes).isSome = true
  /-- Otherwise it fails. -/
  fails : result.exitCode ≠ 0 → result.exitCode = 1
  /-- Where there is no report or no file for it, nothing is written. -/
  untouched : Refused w a ∨ Blocked w a → result.standardOutput = "" ∧ result.disk = w.disk
  /-- Where only the path of the project cannot be written, a report is begun. -/
  begun : ¬ Refused w a → ¬ Blocked w a → Text.decode? a.input.bytes = none →
    ∃ files r rest, Reported w a files r ∧ Delivered w.disk a.output? r.beginning result ∧
      reportText r = r.beginning ++ Json.quote a.input.text ++ rest ∧
      Json.Value.read r.beginning.toList = .error .unfinished
  /-- The report that is written is about the disk before the run. A file of the project that it is
  written to is in it with what it held before. -/
  succeeded : result.exitCode = 0 → ∃ files r, Reported w a files r ∧ Tells (reportText r) r ∧
    Delivered w.disk a.output? (reportText r) result ∧
    ∀ output ∈ a.output?, ∀ place, w.disk.locate true output = .ok place → ∀ f ∈ files,
      w.disk.locate false f.path = .ok place → w.disk.root.below? place = some (.file f.data)

section Spares

variable {w : Surroundings} {a : Arguments} {files : List SourceFile} {r : Report}

theorem Reported.below? (h : Reported w a files r) {f : SourceFile} (hf : f ∈ files)
    {place : List Name} (hplace : w.disk.locate false f.path = .ok place) :
    w.disk.root.below? place = some (.file f.data) := by
  obtain ⟨s, ds, -, -, -, hfiles, -⟩ := h
  obtain ⟨place', hplace', hbelow⟩ := hfiles f hf
  rw [hplace] at hplace'
  rwa [Except.ok.inj hplace']

theorem Reported.projectPath (h : Reported w a files r) : r.projectPath = a.input := by
  obtain ⟨s, ds, -, -, -, -, rfl⟩ := h
  rfl

theorem Reported.isWhole (h : Reported w a files r)
    (hpath : (Text.decode? a.input.bytes).isSome = true) : r.IsWhole := by
  refine ⟨h.projectPath ▸ hpath, ?_⟩
  obtain ⟨s, ds, -, -, -, -, rfl⟩ := h
  rfl

variable (w a) in
/-- A text is delivered unless there is no file for it. -/
theorem deliver_cases (text : String) :
    (Blocked w a ∧ ∃ fault, deliver w.disk a.output? text = .error fault) ∨
    ¬ Blocked w a ∧ ∃ shown written, deliver w.disk a.output? text = .ok (shown, written) ∧
      ∀ exitCode complaint,
      Delivered w.disk a.output? text ⟨exitCode, shown, complaint, written⟩ := by
  unfold Blocked deliver Delivered
  cases a.output? with
  | none =>
    refine .inr ⟨fun h => ?_, text, w.disk, rfl, fun _ _ => ⟨rfl, rfl⟩⟩
    obtain ⟨_, _, hnone, -⟩ := h
    cases hnone
  | some output =>
    cases hwrite : w.disk.writeFile output (Text.encode text) with
    | error fault =>
      refine .inl ⟨⟨output, fault, rfl, fun _ => Disk.writeFile_eq_error_of hwrite⟩,
        .output fault, ?_⟩
      simp only [hwrite, Except.mapError, Except.map]
    | ok written =>
      refine .inr ⟨fun h => ?_, "", written, ?_, fun _ _ => ⟨rfl, Disk.writeFile_rewritten hwrite⟩⟩
      · obtain ⟨_, fault, houtput, herror⟩ := h
        have hunwritten := herror (Text.encode text)
        rw [← Option.some.inj houtput, hwrite] at hunwritten
        cases hunwritten
      · simp only [hwrite, Except.mapError, Except.map]

/-- A run for which there is no report, or no file for it. -/
theorem spares_of_fault {fault : RunFault} (h : Refused w a ∨ Blocked w a) :
    Spares w a (.ofFault w.disk fault) where
  succeeds_iff := iff_of_false (fun hzero => nomatch hzero) fun hmade => h.elim hmade.1 hmade.2.1
  fails _ := rfl
  untouched _ := ⟨rfl, rfl⟩
  begun hmade hfile _ := absurd h (not_or.mpr ⟨hmade, hfile⟩)
  succeeded hzero := nomatch hzero

/-- A run that writes its report. -/
theorem spares_of_written (hmade : ¬ Refused w a) (hfile : ¬ Blocked w a)
    (hpath : (Text.decode? a.input.bytes).isSome = true) (hreported : Reported w a files r)
    {shown : String} {written : Disk}
    (hdelivered : Delivered w.disk a.output? (reportText r) ⟨0, shown, "", written⟩) :
    Spares w a ⟨0, shown, "", written⟩ where
  succeeds_iff := iff_of_true rfl ⟨hmade, hfile, hpath⟩
  fails hnonzero := absurd rfl hnonzero
  untouched h := absurd h (not_or.mpr ⟨hmade, hfile⟩)
  begun _ _ hnone := by
    rw [hnone] at hpath
    cases hpath
  succeeded _ := ⟨files, r, hreported, Report.tells (hreported.isWhole hpath), hdelivered,
    fun _ _ _ _ _ hf hplace => hreported.below? hf hplace⟩

/-- A run that breaks off in front of the path of the project. -/
theorem spares_of_begun (hmade : ¬ Refused w a) (hfile : ¬ Blocked w a)
    (hpath : Text.decode? a.input.bytes = none) (hreported : Reported w a files r)
    {shown complaint : String} {written : Disk}
    (hdelivered : Delivered w.disk a.output? r.beginning ⟨1, shown, complaint, written⟩) :
    Spares w a ⟨1, shown, complaint, written⟩ where
  succeeds_iff := by
    refine iff_of_false (fun hzero => nomatch hzero) fun h => ?_
    rw [hpath] at h
    cases h.2.2
  fails _ := rfl
  untouched h := absurd h (not_or.mpr ⟨hmade, hfile⟩)
  begun _ _ _ := by
    obtain ⟨rest, hrest⟩ := exists_reportText_eq r
    rw [hreported.projectPath] at hrest
    exact ⟨files, r, rest, hreported, hdelivered, hrest, r.read_beginning⟩
  succeeded hzero := nomatch hzero

/-- **A run for which there is no report, or no file for it, leaves the disk as it was, and one that
succeeds changes the file of its report at most**, which tells of the disk as it was before. What is
left is a run whose project has a path that cannot be written. -/
theorem run_spares_disk (w : Surroundings) (a : Arguments) :
    Spares w a (scan w a) ∧ ∀ words, Arguments.read words = .ok a → run w words = scan w a := by
  constructor
  · unfold scan
    obtain ⟨hrefused, fault, hreport⟩ | ⟨hmade, files, r, hreport, hreported⟩ := report_cases w a
    · rw [hreport]
      exact spares_of_fault (.inl hrefused)
    · have hproject := hreported.projectPath
      rw [hreport]
      cases hpath : Text.decode? a.input.bytes with
      | none =>
        have hwriting : writing r = (r.beginning, some .path) := by rw [writing, hproject, hpath]
        obtain ⟨hblocked, fault, hdeliver⟩ | ⟨hfile, shown, written, hdeliver, hdelivered⟩ :=
          deliver_cases w a r.beginning
        · simp only [Result.ofReport, hwriting, hdeliver]
          exact spares_of_fault (.inr hblocked)
        · simp only [Result.ofReport, hwriting, hdeliver]
          exact spares_of_begun hmade hfile hpath hreported (hdelivered _ _)
      | some text =>
        have hwriting : writing r = (reportText r, none) := by rw [writing, hproject, hpath]
        obtain ⟨hblocked, fault, hdeliver⟩ | ⟨hfile, shown, written, hdeliver, hdelivered⟩ :=
          deliver_cases w a (reportText r)
        · simp only [Result.ofReport, hwriting, hdeliver]
          exact spares_of_fault (.inr hblocked)
        · simp only [Result.ofReport, hwriting, hdeliver]
          exact spares_of_written hmade hfile (Option.isSome_iff_exists.mpr ⟨text, hpath⟩) hreported
            (hdelivered _ _)
  · intro words h
    unfold run
    rw [h]

end Spares

/-- A project that holds an earlier report. -/
def reportedBefore : Disk :=
  [("app", "camera"), ("report", "earlier")].foldl
    (fun d (name, text) => d.addFile (.ofText ("work/" ++ name ++ ".json")) (Text.encode text))
    (.fresh [Text.encode "home"])

/-- The world around a run on this project. -/
def aroundReported : Surroundings := ⟨reportedBefore, ⟨4, by decide⟩, .inOrder, ⟨0, 0, 1, 2⟩⟩

/-- A run that writes its report over the earlier one. -/
def reportingAgain : Arguments where
  input := .ofText "work"
  output? := some (.ofText "work/report.json")
  force := false
  includes := ["*.json"]
  excludes := []
  maxFiles? := none
  concurrency? := none
  sequential := true
  config? := none

/-- The words for this run. -/
def againWords : List String :=
  ["scan", "--sequential", "--input=work", "--include", "*.json", "--output", "work/report.json"]

theorem reportingAgain_not_refused : ¬ Refused aroundReported reportingAgain := by
  intro h
  cases h with
  | noDirectory h =>
    have hdirectory : reportedBefore.isDirectory (.ofText "work") = true := by decide +kernel
    exact Bool.false_ne_true (h.symm.trans hdirectory)
  | settings hconfig h => cases hconfig
  | catalog hs h =>
    obtain rfl := Except.ok.inj hs
    obtain ⟨android, ios, web, hdetectors, -⟩ := builtInDetectors_eq_ok reportedBefore
    exact nomatch hdetectors.symm.trans h
  | pattern hasked h =>
    have hok : (Glob.ofText? "*.json").isOk = true := by decide +kernel
    rw [List.mem_singleton.mp hasked] at h
    rw [h] at hok
    cases hok

theorem run_spares_disk_again : Arguments.read againWords = .ok reportingAgain ∧
    (run aroundReported againWords).exitCode = 0 ∧ ∃ files r,
    Reported aroundReported reportingAgain files r ∧
      files.map (fun f => (f.relativePath, f.data)) =
        [("app.json", Text.encode "camera"), ("report.json", Text.encode "earlier")] ∧
      Tells (reportText r) r ∧
      (run aroundReported againWords).disk.contents (.ofText "work/report.json") =
        .ok (Text.encode (reportText r)) := by
  have hwords : Arguments.read againWords = .ok reportingAgain := by decide +kernel
  obtain ⟨hspares, hrun⟩ := run_spares_disk aroundReported reportingAgain
  have hplace : reportedBefore.locate true (.ofText "work/report.json") =
      .ok [Text.encode "home", Text.encode "work", Text.encode "report.json"] := by decide +kernel
  have hfile : (reportedBefore.root.below? [Text.encode "home", Text.encode "work",
      Text.encode "report.json"]).map
      Entry.kind = some (.file (Text.encode "earlier")) := by decide +kernel
  have hnone : ∀ entries, reportedBefore.root.below? [Text.encode "home", Text.encode "work",
      Text.encode "report.json"] ≠ some (.directory entries) := by
    intro entries hdirectory
    rw [hdirectory] at hfile
    cases hfile
  have hopen : ¬ Blocked aroundReported reportingAgain := by
    intro h
    obtain ⟨output, fault, houtput, herror⟩ := h
    obtain rfl := Option.some.inj houtput
    have hwritten : reportedBefore.writeFile (.ofText "work/report.json") [] = .ok _ :=
      Disk.writeFile_eq_ok_iff.mpr ⟨_, hplace, hnone, rfl⟩
    exact nomatch hwritten.symm.trans (herror [])
  have hpath : (Text.decode? reportingAgain.input.bytes).isSome = true := by decide +kernel
  have hzero : (scan aroundReported reportingAgain).exitCode = 0 :=
    hspares.succeeds_iff.mpr ⟨reportingAgain_not_refused, hopen, hpath⟩
  have hcollected :
      (requestedFiles reportedBefore reportingAgain.input reportingAgain.options).toOption.map
      (·.map fun f => (f.relativePath, f.data)) =
      some [("app.json", Text.encode "camera"), ("report.json", Text.encode "earlier")] := by
      decide +kernel
  obtain ⟨files, r, hreported, htells, hdelivered, -⟩ := hspares.succeeded hzero
  rw [hrun againWords hwords]
  refine ⟨hwords, hzero, files, r, hreported, ?_, htells, hdelivered.2.read⟩
  obtain ⟨s, ds, -, -, hfiles, -⟩ := hreported
  have hsame : requestedFiles reportedBefore reportingAgain.input reportingAgain.options =
      .ok files := hfiles
  rw [hsame] at hcollected
  exact Option.some.inj hcollected

end CommandLine

end PrivacyAudit
