import PrivacyAudit.Proofs.Batches
import PrivacyAudit.Proofs.Merging
import PrivacyAudit.Reading

/-!
# What a fresh report depends on

A report that is made anew depends on the request, the settings, the detectors and the disk. It
depends on the clock in its two times only, and on the schedule in the order of three lists only:
the detectors' names, the dependencies and the warnings, and there only within a batch.

* `Report.ReordersWithin size r r₀`: `r` says the same as `r₀`, except for the clock and for the
  order of the three lists within batches of `size` files;
* `freshReport_reorders`: a fresh report reorders the one that is made file by file, within batches
  of `Settings.width` files, so nothing at all is reordered where files are not looked at side by
  side;
* `freshReportReading_asFound`: where every file is read as the walk found it, it is the report on
  the disk.
-/

namespace PrivacyAudit

/-! ## 1. What each file adds to the lists of a report -/

/-- What one file adds to the lists of a report. -/
structure Share where
  detectors : List String
  dependencies : List Dependency
  warnings : List String
  deriving DecidableEq, Repr

/-- What the outcome of a file adds, where `files` are those that the numbers count. -/
def Share.ofResult (files : List SourceFile) (result : Nat × Outcome) : Share where
  detectors := result.2.findings.map (·.detector)
  dependencies := result.2.findings.flatMap (·.dependencies)
  warnings := warningsAbout files [result]

/-- The lists of the report are these shares, one after the other. -/
structure Report.Lists (r : Report) (shares : List Share) : Prop where
  detectors : r.merged.detectors = shares.flatMap (·.detectors)
  dependencies : r.merged.dependencies = shares.flatMap (·.dependencies)
  warnings : r.warnings = shares.flatMap (·.warnings)

theorem warningsAbout_cons (files : List SourceFile) (result : Nat × Outcome)
    (results : List (Nat × Outcome)) :
    warningsAbout files (result :: results) =
      warningsAbout files [result] ++ warningsAbout files results := by
  unfold warningsAbout
  rw [← List.filterMap_append, List.singleton_append]

theorem warningsAbout_eq_flatMap (files : List SourceFile) (results : List (Nat × Outcome)) :
    warningsAbout files results = results.flatMap fun result => warningsAbout files [result] := by
  induction results with
  | nil => rfl
  | cons result results ih => rw [warningsAbout_cons, ih, List.flatMap_cons]

section Report

variable (scanId : String) (project : Path) (t t' : Timing) (files : List SourceFile)

theorem Report.ofOutcomes_lists (results : List (Nat × Outcome)) :
    (Report.ofOutcomes scanId project t files results).Lists
      (results.map (Share.ofResult files)) where
  detectors := by
    show (Merged.ofFindings _).detectors = _
    rw [Merged.detectors_ofFindings, List.map_flatMap, List.flatMap_map]
    rfl
  dependencies := by
    show (Merged.ofFindings _).dependencies = _
    rw [Merged.dependencies_ofFindings, List.flatMap_assoc, List.flatMap_map]
    rfl
  warnings := by
    show warningsAbout files results = _
    rw [warningsAbout_eq_flatMap, List.flatMap_map]
    rfl

/-! ## 2. Reports that differ in order only -/

/-- A report says the same as another, except for the clock and for the order in which files come in
its lists; and that order is free within batches of `size` files only. -/
structure Report.ReordersWithin (size : Nat) (r r₀ : Report) : Prop where
  scanId : r.scanId = r₀.scanId
  projectPath : r.projectPath = r₀.projectPath
  totalFiles : r.totalFiles = r₀.totalFiles
  filesScanned : r.filesScanned = r₀.filesScanned
  sets : r.merged.SameSets r₀.merged
  summary : r.summary = r₀.summary
  lists : ∃ shares done, shares.length = r₀.totalFiles ∧ r₀.Lists shares ∧ r.Lists done ∧
    ShuffledWithin (batches size shares) done

/-- Two reports say the same, except for the clock and for the order within batches of `size` files:
both reorder the same report. -/
def Report.AgreesWithin (size : Nat) (r r' : Report) : Prop :=
  ∃ r₀, r.ReordersWithin size r₀ ∧ r'.ReordersWithin size r₀

theorem Report.AgreesWithin.projectPath {size : Nat} {r r' : Report} (h : r.AgreesWithin size r') :
    r.projectPath = r'.projectPath := by
  obtain ⟨r₀, hr, hr'⟩ := h
  exact hr.projectPath.trans hr'.projectPath.symm

theorem Report.AgreesWithin.permissions {size : Nat} {r r' : Report} (h : r.AgreesWithin size r') :
    r.merged.permissions = r'.merged.permissions := by
  obtain ⟨r₀, hr, hr'⟩ := h
  exact hr.sets.permissions.trans hr'.sets.permissions.symm

/-- **Outcomes that are shuffled within batches make a report that is reordered within batches.** -/
theorem Report.ofOutcomes_reorders {size : Nat} (hs : 0 < size) {work : SourceFile → Outcome}
    {done : List (Nat × Outcome)} (h : ShuffledWithin (batches size (runInOrder work files)) done) :
    (Report.ofOutcomes scanId project t files done).ReordersWithin size
      (Report.ofOutcomes scanId project t' files (runInOrder work files)) := by
  have hperm : done.Perm (runInOrder work files) := by
    have hp := h.perm
    rwa [flatten_batches hs] at hp
  have hsets := Merged.SameSets.ofFindings_perm
    (hperm.flatMap_right fun result => result.2.findings)
  refine ⟨rfl, rfl, rfl, hperm.countP_eq _, hsets, hsets.summary, _, _, ?_,
    ofOutcomes_lists _ _ _ _ _, ofOutcomes_lists _ _ _ _ _, ?_⟩
  · show ((runInOrder work files).map _).length = files.length
    rw [List.length_map, runInOrder, List.length_map, List.length_zipIdx]
  · rw [batches_map hs]
    exact h.map _

end Report

/-! ## 3. Fresh reports -/

/-- The number of files whose order a report leaves open: a batch, or a single file where files are
not looked at side by side. -/
def Settings.width (s : Settings) : Nat := if s.parallel then s.batchSize else 1

theorem Settings.width_pos {s : Settings} (hs : 0 < s.batchSize) : 0 < s.width := by
  unfold width
  split
  · exact hs
  · exact Nat.one_pos

section Fresh

variable {s : Settings} (hs : 0 < s.batchSize) (ds : List Detector) (d : Disk) (schedule : Schedule)
  (t : Timing) (project : Path) (o : ScanOptions)

theorem outcomes_inOrder (h : s.parallel = false) (files : List SourceFile) :
    outcomes s ds schedule files = runInOrder (inspect ds s.sizeLimit?) files := by
  unfold outcomes
  rw [h, Bool.false_and]
  rfl

include hs in
/-- What is done as the settings say is done one after the other, up to the order within batches. -/
theorem Settings.run_shuffled {α β : Type} (work : α → β) (pieces : List α) :
    ShuffledWithin (batches s.width (runInOrder work pieces))
      (if s.parallel && pieces.length > 1 then schedule.run s.batchSize work pieces
        else runInOrder work pieces) := by
  have hwidth := Settings.width_pos hs
  by_cases h : s.parallel && decide (pieces.length > 1)
  · have hparallel : s.parallel = true := (Bool.and_eq_true_iff.mp h).1
    have hw : s.width = s.batchSize := by rw [Settings.width, if_pos hparallel]
    rw [if_pos h, hw]
    exact schedule.run_shuffled hs _ _
  · rw [if_neg h]
    have hr := ShuffledWithin.refl (batches s.width (runInOrder work pieces))
    rwa [flatten_batches hwidth] at hr

include hs in
theorem outcomes_shuffled (files : List SourceFile) :
    ShuffledWithin (batches s.width (runInOrder (inspect ds s.sizeLimit?) files))
      (outcomes s ds schedule files) :=
  Settings.run_shuffled hs schedule _ files

variable {ds d schedule t project o}

/-- Where the patterns are in order, the files are those of the walk with them. -/
theorem requestedFiles_of_walk {walk : WalkOptions}
    (h : WalkOptions.ofTexts? o.normalized.includes o.normalized.excludes o.normalized.maxFiles =
      .ok walk) :
    requestedFiles d project o = .ok (walk.collect d project) := by
  simp only [requestedFiles, h]
  rfl

/-- The files of a request are those of the walk with its patterns. -/
theorem requestedFiles_eq_ok_iff {files : List SourceFile} :
    requestedFiles d project o = .ok files ↔ ∃ walk,
      WalkOptions.ofTexts? o.normalized.includes o.normalized.excludes o.normalized.maxFiles =
        .ok walk ∧ files = walk.collect d project := by
  constructor
  · intro h
    cases hwalk :
      WalkOptions.ofTexts? o.normalized.includes o.normalized.excludes o.normalized.maxFiles with
    | error refusal =>
      simp only [requestedFiles, hwalk] at h
      cases h
    | ok walk =>
      rw [requestedFiles_of_walk hwalk] at h
      exact ⟨walk, rfl, (Except.ok.inj h).symm⟩
  · intro h
    obtain ⟨walk, hwalk, rfl⟩ := h
    exact requestedFiles_of_walk hwalk

theorem freshReport_eq_error_iff {failure : Failure} :
    freshReport s ds d schedule t project o = .error failure ↔
      requestedFiles d project o = .error failure := by
  unfold freshReport
  cases requestedFiles d project o with
  | error f =>
    constructor
    · intro h
      exact congrArg Except.error (Except.error.inj h)
    · intro h
      exact congrArg Except.error (Except.error.inj h)
  | ok files =>
    constructor
    · intro h
      cases h
    · intro h
      cases h

theorem freshReport_eq_ok_iff {r : Report} :
    freshReport s ds d schedule t project o = .ok r ↔ ∃ files,
    requestedFiles d project o = .ok files ∧
      r = .ofOutcomes (scanId project o) project t files (outcomes s ds schedule files) := by
  unfold freshReport
  cases requestedFiles d project o with
  | error f =>
    constructor
    · intro h
      cases h
    · rintro ⟨_, h, _⟩
      cases h
  | ok files =>
    constructor
    · intro h
      exact ⟨files, rfl, (Except.ok.inj h).symm⟩
    · rintro ⟨files', hf, rfl⟩
      obtain rfl := Except.ok.inj hf
      rfl

include hs in
/-- **A fresh report reorders the one that is made file by file**, whatever the schedules and the
clocks. -/
theorem freshReport_reorders (schedule' : Schedule) (t' : Timing) {r : Report}
    (h : freshReport s ds d schedule t project o = .ok r) :
    ∃ r₀, freshReport { s with parallel := false } ds d schedule' t' project o = .ok r₀ ∧
      r.ReordersWithin s.width r₀ := by
  obtain ⟨files, hfiles, rfl⟩ := freshReport_eq_ok_iff.mp h
  refine ⟨_, freshReport_eq_ok_iff.mpr ⟨files, hfiles, rfl⟩, ?_⟩
  rw [outcomes_inOrder ds schedule' rfl]
  exact Report.ofOutcomes_reorders _ _ _ _ _ (Settings.width_pos hs)
    (outcomes_shuffled hs ds schedule files)

include hs in
/-- **Two fresh reports on one request agree**, whatever the schedules and the clocks. -/
theorem freshReport_agrees {schedule' : Schedule} {t' : Timing} {r r' : Report}
    (h : freshReport s ds d schedule t project o = .ok r)
    (h' : freshReport s ds d schedule' t' project o = .ok r') : r.AgreesWithin s.width r' := by
  obtain ⟨r₀, h₀, hr⟩ := freshReport_reorders hs schedule t h
  obtain ⟨r₁, h₁, hr'⟩ := freshReport_reorders hs schedule t h'
  obtain rfl : r₀ = r₁ := Except.ok.inj (h₀.symm.trans h₁)
  exact ⟨r₀, hr, hr'⟩

theorem freshReport_projectPath {r : Report} (h : freshReport s ds d schedule t project o = .ok r) :
    r.projectPath = project := by
  obtain ⟨files, _, rfl⟩ := freshReport_eq_ok_iff.mp h
  rfl

theorem freshReport_scanId {r : Report} (h : freshReport s ds d schedule t project o = .ok r) :
    r.scanId = scanId project o := by
  obtain ⟨files, _, rfl⟩ := freshReport_eq_ok_iff.mp h
  rfl

/-- A fresh report looks at the normalized options only. -/
theorem freshReport_congr {o' : ScanOptions} (h : o.normalized = o'.normalized) :
    freshReport s ds d schedule t project o = freshReport s ds d schedule t project o' := by
  unfold freshReport requestedFiles scanId fingerprintText
  rw [h]

/-! ## 4. Files that are read at their turn -/

variable {read : SourceFile → Reading}

/-- A file that is as the walk found it is looked at as such. -/
theorem inspectReading_asFound (ds : List Detector) (sizeLimit? : Option Nat) (f : SourceFile) :
    inspectReading ds sizeLimit? f.asFound f = inspect ds sizeLimit? f := by
  unfold inspectReading Reading.sizeFault? SourceFile.asFound
  cases sizeLimit? with
  | none => rfl
  | some limit =>
    by_cases hlarge : limit < f.data.length
    · simp [inspect, Option.filter, hlarge]
    · simp [inspect, Option.filter, hlarge]

theorem freshReportReading_asFound (s : Settings) (ds : List Detector) (d : Disk)
    (schedule : Schedule) (t : Timing) (project : Path) (o : ScanOptions) :
    freshReportReading SourceFile.asFound s ds d schedule t project o =
      freshReport s ds d schedule t project o := by
  unfold freshReportReading freshReport outcomesReading outcomes
  simp only [inspectReading_asFound]

theorem outcomesReading_inOrder (h : s.parallel = false) (files : List SourceFile) :
    outcomesReading read s ds schedule files =
      runInOrder (fun f => inspectReading ds s.sizeLimit? (read f) f) files := by
  unfold outcomesReading
  rw [h, Bool.false_and]
  rfl

/-- Reading has no part in whether a report is refused. -/
theorem freshReportReading_eq_error_iff {failure : Failure} :
    freshReportReading read s ds d schedule t project o = .error failure ↔
      requestedFiles d project o = .error failure := by
  unfold freshReportReading
  cases requestedFiles d project o with
  | error f => simp [bind, Except.bind]
  | ok files => simp [bind, Except.bind, pure, Except.pure]

theorem freshReportReading_eq_ok_iff {r : Report} :
    freshReportReading read s ds d schedule t project o = .ok r ↔ ∃ files,
    requestedFiles d project o = .ok files ∧
      r = .ofOutcomes (scanId project o) project t files
        (outcomesReading read s ds schedule files) := by
  unfold freshReportReading
  cases requestedFiles d project o with
  | error f => simp [bind, Except.bind]
  | ok files => simp [bind, Except.bind, pure, Except.pure, eq_comm]

end Fresh

end PrivacyAudit
