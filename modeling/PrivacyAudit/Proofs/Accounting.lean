import PrivacyAudit.Proofs.Parallel
import PrivacyAudit.Proofs.Refusing
import PrivacyAudit.Proofs.Uniting

/-!
# The books of a report

What came of the files of a project can be entered in books with three columns: a file is left out
for a reason, or something was found in it, or nothing was. The outcomes come in the order in which
they came about; entering them one by one keeps

* `Ledger.Records`: every file with an outcome is in one column, the one that its outcome says, the
  warnings are those about the files that are left out, one for each, and the findings are no fewer
  than the files in which something was found and no more than these files times the detectors.

So a fresh report balances with its books (`freshReport_accounts`), also if files change while they
are read, and that nothing is counted means that nothing was found at all.
-/

namespace PrivacyAudit

/-! ## 1. Entering outcomes -/

/-- The files of a project by what came of them. -/
structure Ledger where
  /-- The files that were left out, and why. -/
  leftOut : List (SourceFile × FileFault)
  /-- The files in which something was found. -/
  counted : List SourceFile
  /-- The files in which nothing was found. -/
  silent : List SourceFile
  deriving DecidableEq, Repr

theorem warningsAbout_cons_error {files : List SourceFile} {number : Nat} {f : SourceFile}
    (results : List (Nat × Outcome)) (fault : FileFault) (hf : files[number]? = some f) :
    warningsAbout files ((number, .error fault) :: results) =
      warning f fault :: warningsAbout files results := by
  simp [warningsAbout, hf]

theorem warningsAbout_cons_ok (files : List SourceFile) (number : Nat) (found : List Finding)
    (results : List (Nat × Outcome)) :
    warningsAbout files ((number, .ok found) :: results) = warningsAbout files results := by
  simp [warningsAbout]

theorem length_findings_cons (number : Nat) (outcome : Outcome) (results : List (Nat × Outcome)) :
    (((number, outcome) :: results).flatMap (·.2.findings)).length =
      outcome.findings.length + (results.flatMap (·.2.findings)).length := by
  rw [List.flatMap_cons, List.length_append]

namespace Ledger

/-- Nothing entered yet. -/
def blank : Ledger := ⟨[], [], []⟩

/-- One file more. -/
def enter (l : Ledger) (f : SourceFile) : Outcome → Ledger
  | .error fault => { l with leftOut := (f, fault) :: l.leftOut }
  | .ok [] => { l with silent := f :: l.silent }
  | .ok (_ :: _) => { l with counted := f :: l.counted }

/-- The books of outcomes, each with the number of its file. -/
def ofOutcomes (files : List SourceFile) : List (Nat × Outcome) → Ledger
  | [] => blank
  | (number, outcome) :: results =>
    match files[number]? with
    | some f => (ofOutcomes files results).enter f outcome
    | none => ofOutcomes files results

/-- All files that are entered. -/
def entries (l : Ledger) : List SourceFile := l.leftOut.map (·.1) ++ l.counted ++ l.silent

/-- One file more in a column is one more among all. -/
theorem entries_enter (l : Ledger) (f : SourceFile) (outcome : Outcome) :
    (l.enter f outcome).entries.Perm (f :: l.entries) := by
  unfold entries
  match outcome with
  | .error fault => exact .refl _
  | .ok [] => exact List.perm_middle
  | .ok (_ :: _) =>
    show (l.leftOut.map (·.1) ++ (f :: l.counted) ++ l.silent).Perm _
    rw [List.append_assoc, List.append_assoc]
    exact List.perm_middle

/-- The books record outcomes of some work on files: every file with an outcome is in the column
that its outcome says, and the sums are right. No piece of work finds more than `most` times
something. -/
structure Records (l : Ledger) (work : SourceFile → Outcome) (most : Nat) (files : List SourceFile)
    (results : List (Nat × Outcome)) : Prop where
  everyFile : l.entries.Perm (results.filterMap fun result => files[result.1]?)
  leftOut : ∀ f fault, (f, fault) ∈ l.leftOut → work f = .error fault
  counted : ∀ f ∈ l.counted, ∃ found, work f = .ok found ∧ found ≠ []
  silent : ∀ f ∈ l.silent, work f = .ok []
  warnings : warningsAbout files results = l.leftOut.map fun entry => warning entry.1 entry.2
  number : (results.countP fun result => !result.2.findings.isEmpty) = l.counted.length
  atLeast : l.counted.length ≤ (results.flatMap (·.2.findings)).length
  atMost : (results.flatMap (·.2.findings)).length ≤ l.counted.length * most

section Records

variable {l : Ledger} {work : SourceFile → Outcome} {most : Nat} {files : List SourceFile}
  {results : List (Nat × Outcome)} {number : Nat} {f : SourceFile}

theorem records_blank : blank.Records work most files [] where
  everyFile := .refl _
  leftOut _ _ h := absurd h List.not_mem_nil
  counted _ h := absurd h List.not_mem_nil
  silent _ h := absurd h List.not_mem_nil
  warnings := rfl
  number := rfl
  atLeast := Nat.le_refl 0
  atMost := Nat.zero_le _

/-- The files with an outcome, one more of them being `f`. -/
theorem Records.everyFile_enter (h : l.Records work most files results)
    (hf : files[number]? = some f) (outcome : Outcome) : (l.enter f outcome).entries.Perm
      (((number, outcome) :: results).filterMap fun result => files[result.1]?) := by
  have hfiles : ((number, outcome) :: results).filterMap (fun result => files[result.1]?) =
      f :: results.filterMap fun result => files[result.1]? := by
    rw [List.filterMap_cons, hf]
  rw [hfiles]
  exact (l.entries_enter f outcome).trans (h.everyFile.cons f)

/-- A file that is left out has a warning, and no finding. -/
theorem Records.enter_error (h : l.Records work most files results) (hf : files[number]? = some f)
    {fault : FileFault} (hwork : work f = .error fault) :
    (l.enter f (.error fault)).Records work most files ((number, .error fault) :: results) where
  everyFile := h.everyFile_enter hf _
  leftOut g fault' hg := by
    rcases List.mem_cons.mp hg with heq | hg
    · obtain ⟨rfl, rfl⟩ := Prod.mk.inj heq
      exact hwork
    · exact h.leftOut g fault' hg
  counted := h.counted
  silent := h.silent
  warnings := by
    rw [warningsAbout_cons_error results fault hf, h.warnings]
    rfl
  number := h.number
  atLeast := h.atLeast
  atMost := h.atMost

/-- A file in which nothing was found changes no sum. -/
theorem Records.enter_nil (h : l.Records work most files results) (hf : files[number]? = some f)
    (hwork : work f = .ok []) :
    (l.enter f (.ok [])).Records work most files ((number, .ok []) :: results) where
  everyFile := h.everyFile_enter hf _
  leftOut := h.leftOut
  counted := h.counted
  silent g hg := by
    rcases List.mem_cons.mp hg with rfl | hg
    · exact hwork
    · exact h.silent g hg
  warnings := by
    rw [warningsAbout_cons_ok, h.warnings]
    rfl
  number := h.number
  atLeast := h.atLeast
  atMost := h.atMost

/-- A file in which something was found is counted once, however much was found. -/
theorem Records.enter_cons (h : l.Records work most files results) (hf : files[number]? = some f)
    {first : Finding} {others : List Finding} (hwork : work f = .ok (first :: others))
    (hmost : (first :: others).length ≤ most) :
    (l.enter f (.ok (first :: others))).Records work most files ((number, .ok (first :: others)) ::
      results) := by
  have hlength := length_findings_cons number (.ok (first :: others)) results
  have hleast := h.atLeast
  have hatMost := h.atMost
  refine ⟨h.everyFile_enter hf _, h.leftOut, fun g hg => ?_, h.silent, ?_, ?_, ?_, ?_⟩
  · rcases List.mem_cons.mp hg with rfl | hg
    · exact ⟨_, hwork, List.cons_ne_nil first others⟩
    · exact h.counted g hg
  · rw [warningsAbout_cons_ok, h.warnings]
    rfl
  · rw [List.countP_cons, h.number]
    rfl
  · rw [hlength]
    show l.counted.length + 1 ≤ (first :: others).length + _
    rw [List.length_cons]
    omega
  · rw [hlength]
    show (first :: others).length + _ ≤ (l.counted.length + 1) * most
    rw [Nat.succ_mul]
    omega

/-- **Entering one outcome more keeps the books right.** -/
theorem Records.enter (h : l.Records work most files results) (hf : files[number]? = some f)
    (hmost : ∀ found, work f = .ok found → found.length ≤ most) :
    (l.enter f (work f)).Records work most files ((number, work f) :: results) := by
  match hwork : work f with
  | .error fault => exact h.enter_error hf hwork
  | .ok [] => exact h.enter_nil hf hwork
  | .ok (first :: others) => exact h.enter_cons hf hwork (hmost _ hwork)

/-- The books of outcomes record them, if each is the outcome of the file of its number. -/
theorem records_ofOutcomes
    (hown : ∀ number outcome, (number, outcome) ∈ results → ∃ f, files[number]? = some f ∧
      outcome = work f)
    (hmost : ∀ f found, work f = .ok found → found.length ≤ most) :
    (ofOutcomes files results).Records work most files results := by
  induction results with
  | nil => exact records_blank
  | cons result results ih =>
    obtain ⟨number, outcome⟩ := result
    obtain ⟨f, hf, rfl⟩ := hown number outcome List.mem_cons_self
    have hlater := ih fun number outcome hmem => hown number outcome (List.mem_cons_of_mem _ hmem)
    rw [ofOutcomes, hf]
    exact hlater.enter hf (hmost f)

end Records

end Ledger

/-! ## 2. What is entered -/

/-- No detector finds something twice in a text. -/
theorem length_scanContent_le (ds : List Detector) (content : String) (path : Path) :
    (scanContent ds content path).length ≤ ds.length := by
  have hcontributions : (scanContent ds content path).length ≤
      (supporting ds path.fileNameText).length :=
    List.length_filterMap_le _ _
  exact hcontributions.trans (List.length_filter_le _ _)

theorem hasSignal_of_mem_scanContent {ds : List Detector} {content : String} {path : Path}
    {found : Finding} (h : found ∈ scanContent ds content path) : found.hasSignal = true := by
  obtain ⟨_, _, _, _, hsignal⟩ := mem_scanContent_iff.mp h
  exact hsignal

/-- What is found in a file that is read is what the detectors find in a text at its path. -/
theorem inspectReading_ok {ds : List Detector} {sizeLimit? : Option Nat} {reading : Reading}
    {f : SourceFile} {found : List Finding}
    (h : inspectReading ds sizeLimit? reading f = .ok found) :
    ∃ content, found = scanContent ds content f.path := by
  unfold inspectReading at h
  split at h
  · cases h
  · cases h
  · obtain ⟨content, -, hfound⟩ := inspect_eq_ok_iff.mp h
    exact ⟨content, hfound⟩

/-- The files of a request have different paths, and there are no more than it allows. -/
theorem requestedFiles_bounded {d : Disk} {project : Path} {o : ScanOptions}
    {files : List SourceFile} (h : requestedFiles d project o = .ok files) :
    files.length ≤ o.normalized.maxFiles ∧ (files.map (·.path)).Nodup := by
  obtain ⟨walk, hwalk, rfl⟩ := requestedFiles_eq_ok_iff.mp h
  obtain ⟨-, -, hmax⟩ := WalkOptions.ofTexts?_eq_ok_iff.mp hwalk
  rw [hmax]
  cases hlookup : d.lookup (project.absolute d.workingDirectory) with
  | error fault => simp [WalkOptions.collect_of_error hlookup]
  | ok e =>
    rw [WalkOptions.collect_of_ok hlookup]
    refine ⟨?_, WalkOptions.paths_nodup (Disk.isSound_of_lookup hlookup) _ _⟩
    rw [List.length_map]
    exact List.length_take_le _ _

/-- In order, every file has one outcome. -/
theorem filterMap_runInOrder (work : SourceFile → Outcome) (files : List SourceFile) :
    (runInOrder work files).filterMap (fun result => files[result.1]?) = files := by
  have hnumbers : ((runInOrder work files).map (·.1)).filterMap (files[·]?) = files := by
    rw [numbers_runInOrder, Schedule.filterMap_range_getElem?]
  rwa [List.filterMap_map] at hnumbers

/-! ## 3. Fresh reports -/

/-- A report and the books agree: every file stands in one column only, the one that what came of it
says, and the report has a warning for each file that was left out, and the number of those in which
something was found. -/
structure Report.Balances (r : Report) (ledger : Ledger) (work : SourceFile → Outcome)
    (files : List SourceFile) : Prop where
  distinct : (files.map (·.path)).Nodup
  everyFile : (ledger.leftOut.map (·.1) ++ ledger.counted ++ ledger.silent).Perm files
  leftOut : ∀ f fault, (f, fault) ∈ ledger.leftOut → work f = .error fault
  counted : ∀ f ∈ ledger.counted, ∃ found, work f = .ok found ∧ found ≠ []
  silent : ∀ f ∈ ledger.silent, work f = .ok []
  warnings : r.warnings =
    ledger.leftOut.map fun entry => entry.1.relativePath ++ ": " ++ entry.2.message
  filesScanned : r.filesScanned = ledger.counted.length
  totalFiles : r.totalFiles = files.length

/-- The numbers of a report fit together, where so many detectors look at up to so many files. -/
structure Report.Sums (r : Report) (detectors maxFiles : Nat) : Prop where
  files : r.filesScanned + r.warnings.length ≤ r.totalFiles
  limit : r.totalFiles ≤ maxFiles
  atLeast : r.filesScanned ≤ r.merged.detectors.length
  atMost : r.merged.detectors.length ≤ r.filesScanned * detectors
  detectors_iff : r.filesScanned = 0 ↔ r.merged.detectors = []
  nothing_iff : r.filesScanned = 0 ↔ r.merged.HoldsNothing
  no_risk : r.filesScanned = 0 → r.summary.score = 0 ∧ r.summary.level = .low

section Fresh

variable {read : SourceFile → Reading} {s : Settings} {ds : List Detector} {d : Disk}
  {schedule : Schedule} {t : Timing} {project : Path} {o : ScanOptions} {r : Report}

/-- Findings that all have a signal make a merge of nothing only if there are none. -/
theorem holdsNothing_iff_of_hasSignal {fs : List Finding} (h : ∀ f ∈ fs, f.hasSignal = true) :
    (Merged.ofFindings fs).HoldsNothing ↔ fs = [] := by
  rw [Merged.holdsNothing_ofFindings_iff, List.eq_nil_iff_forall_not_mem]
  constructor
  · intro hnone f hf
    exact Bool.false_ne_true ((hnone f hf).symm.trans (h f hf))
  · intro hempty f hf
    exact absurd hf (hempty f)

/-- The numbers of a report fit together if its findings are as many as the files and the detectors
allow. -/
theorem Report.Sums.of_findings {fs : List Finding} {detectors maxFiles : Nat}
    (hmerged : r.merged = .ofFindings fs) (hsummary : r.summary = r.merged.summary)
    (hfiles : r.filesScanned + r.warnings.length ≤ r.totalFiles) (hlimit : r.totalFiles ≤ maxFiles)
    (hleast : r.filesScanned ≤ fs.length) (hmost : fs.length ≤ r.filesScanned * detectors)
    (hsignal : ∀ f ∈ fs, f.hasSignal = true) : r.Sums detectors maxFiles := by
  have hnames : r.merged.detectors = fs.map (·.detector) := by
    rw [hmerged, Merged.detectors_ofFindings]
  have hlength : r.merged.detectors.length = fs.length := by
    rw [hnames, List.length_map]
  have hzero : r.filesScanned = 0 ↔ fs = [] := by
    rw [← List.length_eq_zero_iff]
    constructor
    · intro hnone
      rw [hnone, Nat.zero_mul] at hmost
      exact Nat.le_zero.mp hmost
    · intro hnone
      rw [hnone] at hleast
      exact Nat.le_zero.mp hleast
  have hnothing : r.filesScanned = 0 ↔ r.merged.HoldsNothing := by
    rw [hzero, hmerged, holdsNothing_iff_of_hasSignal hsignal]
  refine ⟨hfiles, hlimit, hlength ▸ hleast, hlength ▸ hmost, ?_, hnothing, fun hnone => ?_⟩
  · rw [hzero, hnames, List.map_eq_nil_iff]
  · have hholds : r.merged.HoldsNothing := hnothing.mp hnone
    rw [hsummary]
    exact ⟨hholds.riskScore_eq_zero, hholds.level_eq_low⟩

/-- Work that runs detectors on texts: whatever is found in a file is what they find in some text at
its path. -/
def RunsDetectors (ds : List Detector) (work : SourceFile → Outcome) : Prop :=
  ∀ f found, work f = .ok found → ∃ content, found = scanContent ds content f.path

section Outcomes

variable {work : SourceFile → Outcome} {files : List SourceFile} {results : List (Nat × Outcome)}

/-- The books of outcomes that are those of a run in order, up to their order, record every file. -/
theorem Ledger.records_of_perm (hwork : RunsDetectors ds work)
    (hperm : results.Perm (runInOrder work files)) :
    (ofOutcomes files results).Records work ds.length files results ∧
      (ofOutcomes files results).entries.Perm files := by
  have hrecords : (ofOutcomes files results).Records work ds.length files results := by
    refine records_ofOutcomes (fun number outcome hmem => ?_) fun f found hok => ?_
    · exact (mem_runInOrder_iff work files).mp (hperm.mem_iff.mp hmem)
    · obtain ⟨content, rfl⟩ := hwork f found hok
      exact length_scanContent_le ds content f.path
  have hdone := hperm.filterMap fun result => files[result.1]?
  rw [filterMap_runInOrder] at hdone
  exact ⟨hrecords, hrecords.everyFile.trans hdone⟩

/-- All findings of such outcomes have a signal. -/
theorem hasSignal_of_mem_findings (hwork : RunsDetectors ds work)
    (hperm : results.Perm (runInOrder work files)) {found : Finding}
    (h : found ∈ results.flatMap (·.2.findings)) : found.hasSignal = true := by
  obtain ⟨⟨number, outcome⟩, hresult, hfound⟩ := List.mem_flatMap.mp h
  obtain ⟨f, -, rfl⟩ := (mem_runInOrder_iff work files).mp (hperm.mem_iff.mp hresult)
  cases hok : work f with
  | error fault =>
    simp only [hok] at hfound
    exact absurd hfound List.not_mem_nil
  | ok found' =>
    obtain ⟨content, rfl⟩ := hwork f found' hok
    simp only [hok] at hfound
    exact hasSignal_of_mem_scanContent hfound

theorem Report.ofOutcomes_balances (hdistinct : (files.map (·.path)).Nodup)
    (hwork : RunsDetectors ds work) (hperm : results.Perm (runInOrder work files))
    (scanId : String) :
    (ofOutcomes scanId project t files results).Balances
      (.ofOutcomes files results) work files := by
  obtain ⟨hrecords, hentries⟩ := Ledger.records_of_perm hwork hperm
  exact ⟨hdistinct, hentries, hrecords.leftOut, hrecords.counted, hrecords.silent,
    hrecords.warnings, hrecords.number, rfl⟩

theorem Report.ofOutcomes_sums {maxFiles : Nat} (hlimit : files.length ≤ maxFiles)
    (hwork : RunsDetectors ds work) (hperm : results.Perm (runInOrder work files))
    (scanId : String) : (ofOutcomes scanId project t files results).Sums ds.length maxFiles := by
  obtain ⟨hrecords, hentries⟩ := Ledger.records_of_perm hwork hperm
  have hscanned : (ofOutcomes scanId project t files results).filesScanned =
      (Ledger.ofOutcomes files results).counted.length := hrecords.number
  have hwarned : (ofOutcomes scanId project t files results).warnings.length =
      (Ledger.ofOutcomes files results).leftOut.length := by
    show (warningsAbout files results).length = _
    rw [hrecords.warnings, List.length_map]
  have htotal : (Ledger.ofOutcomes files results).counted.length +
      (Ledger.ofOutcomes files results).leftOut.length ≤ files.length := by
    rw [← hentries.length_eq, Ledger.entries, List.length_append, List.length_append,
      List.length_map]
    omega
  refine .of_findings rfl rfl ?_ hlimit ?_ ?_ fun _ => hasSignal_of_mem_findings hwork hperm
  · rw [hscanned, hwarned]
    exact htotal
  · rw [hscanned]
    exact hrecords.atLeast
  · rw [hscanned]
    exact hrecords.atMost

end Outcomes

/-- **The books of a fresh report balance**, whatever is answered when the files are read: every
file that is collected is in one of three columns, and the numbers of the report fit together. That
no file is counted means that nothing was found, and then there is no risk. -/
theorem freshReport_accounts (hs : 0 < s.batchSize)
    (h : freshReportReading read s ds d schedule t project o = .ok r) :
    ∃ files ledger, requestedFiles d project o = .ok files ∧
      r.Balances ledger (fun f => inspectReading ds s.sizeLimit? (read f) f) files ∧
      r.Sums ds.length o.normalized.maxFiles := by
  obtain ⟨files, hfiles, rfl⟩ := freshReportReading_eq_ok_iff.mp h
  obtain ⟨hlimit, hdistinct⟩ := requestedFiles_bounded hfiles
  have hwork : RunsDetectors ds fun f => inspectReading ds s.sizeLimit? (read f) f :=
    fun f found => inspectReading_ok
  have hperm : (outcomesReading read s ds schedule files).Perm
      (runInOrder (fun f => inspectReading ds s.sizeLimit? (read f) f) files) :=
      outcomesReading_perm hs ds files
  exact ⟨files, _, hfiles, Report.ofOutcomes_balances hdistinct hwork hperm _,
    Report.ofOutcomes_sums hlimit hwork hperm _⟩

end Fresh

/-- Settings under which files are taken in twos. -/
def inTwos : Settings := { serialAuditor.settings with parallel := true, batchSize := 2 }

/-- Of five scripts that are taken in twos, the later first, three are left out, one is counted, and
in one nothing is found, for the detector fails on it. -/
theorem freshReport_accounts_inTwos :
    0 < inTwos.batchSize ∧ ∃ r files ledger,
      freshReport inTwos serialAuditor.detectors mixedScripts .backwards ⟨0, 0, 0, 0⟩
        (.ofText "work") scriptsOnly = .ok r ∧
      requestedFiles mixedScripts (.ofText "work") scriptsOnly = .ok files ∧
      r.Balances ledger (inspect serialAuditor.detectors (some 8)) files ∧ r.Sums 1 1000 ∧
      r.warnings = ["b.js: /home/work/b.js is not UTF-8 text",
        "d.js: /home/work/d.js is not UTF-8 text",
        "c.js: /home/work/c.js is 13 bytes, over the 8 byte limit"] ∧
      ledger.leftOut.length = 3 ∧ ledger.counted.length = 1 ∧ ledger.silent.length = 1 := by
  have hbatch : 0 < inTwos.batchSize := by decide
  have hnumbers :
      (freshReport inTwos serialAuditor.detectors mixedScripts .backwards ⟨0, 0, 0, 0⟩
        (.ofText "work")
      scriptsOnly).toOption.map (fun r => (r.totalFiles, r.filesScanned, r.warnings)) =
        some (5, 1, ["b.js: /home/work/b.js is not UTF-8 text",
          "d.js: /home/work/d.js is not UTF-8 text",
          "c.js: /home/work/c.js is 13 bytes, over the 8 byte limit"]) := by
    decide +kernel
  cases hfresh :
    freshReport inTwos serialAuditor.detectors mixedScripts .backwards ⟨0, 0, 0, 0⟩ (.ofText "work")
      scriptsOnly with
  | error failure =>
    rw [hfresh] at hnumbers
    cases hnumbers
  | ok r =>
    rw [hfresh] at hnumbers
    obtain ⟨htotal, hscanned, hwarnings⟩ : r.totalFiles = 5 ∧ r.filesScanned = 1 ∧
      r.warnings = _ := by
      simpa [Except.toOption] using hnumbers
    have hreading :=
      (freshReportReading_asFound inTwos serialAuditor.detectors mixedScripts .backwards
        ⟨0, 0, 0, 0⟩ (.ofText "work") scriptsOnly).trans hfresh
    obtain ⟨files, ledger, hfiles, hbalances, hsums⟩ := freshReport_accounts hbatch hreading
    simp only [inspectReading_asFound] at hbalances
    have hleftOut : ledger.leftOut.length = 3 := by
      have hlength := congrArg List.length hbalances.warnings
      rw [hwarnings, List.length_map] at hlength
      exact hlength.symm
    have hcounted : ledger.counted.length = 1 := hbalances.filesScanned.symm.trans hscanned
    have hall := hbalances.everyFile.length_eq
    rw [← hbalances.totalFiles, htotal, List.length_append, List.length_append,
      List.length_map] at hall
    exact ⟨hbatch, r, files, ledger, rfl, hfiles, hbalances, hsums, hwarnings, hleftOut,
      hcounted, by omega⟩

end PrivacyAudit
