import PrivacyAudit.Proofs.Refusing

/-!
# Detectors that fail

A detector that fails on a text has no answer. An auditor that holds such detectors is compared with
one that holds, in their places, detectors which find nothing where these fail
(`Detector.recovering`): one lemma for each thing that is done with detectors says that no
difference is to be seen,

* `scanContent_recovering`, `freshReportReading_recovering`: in a text, in a report;
* `Auditor.operate_recovering`: in what one operation is answered, and the auditors behind it still
  differ by this only. So whatever follows is answered alike (`Auditor.replies_recovering`).

`failures_isolated` puts this together.
-/

namespace PrivacyAudit

/-! ## 1. Texts -/

/-- The detector that finds nothing where this one fails. -/
def Detector.recovering (d : Detector) : Detector where
  name := d.name
  supports := d.supports
  scan content path := some ((d.scan content path).getD (.empty d.name path))

/-- A finding of nothing is dropped, so it adds as much as a failure. -/
theorem Detector.contribution_recovering (d : Detector) (content : String) (path : Path) :
    d.recovering.contribution content path = d.contribution content path := by
  have hscan : d.recovering.scan content path =
      some ((d.scan content path).getD (.empty d.name path)) := rfl
  unfold contribution
  rw [hscan]
  cases d.scan content path with
  | none => rfl
  | some found => rfl

theorem supporting_recovering (ds : List Detector) (fileName : String) :
    supporting (ds.map Detector.recovering) fileName =
      (supporting ds fileName).map Detector.recovering := by
  unfold supporting
  rw [List.filter_map]
  rfl

/-- **Failures add nothing to the findings in a text.** -/
theorem scanContent_recovering (ds : List Detector) (content : String) (path : Path) :
    scanContent (ds.map Detector.recovering) content path = scanContent ds content path := by
  unfold scanContent
  rw [supporting_recovering, List.filterMap_map]
  refine List.filterMap_congr fun d _ => ?_
  exact d.contribution_recovering content path

/-- What is found in a text are the findings with a signal of the detectors that are meant for it
and do not fail, in the order of the detectors. -/
theorem scanContent_eq_filter (ds : List Detector) (content : String) (path : Path) :
    scanContent ds content path =
      ((supporting ds path.fileNameText).filterMap (·.scan content path)).filter
        Finding.hasSignal := by
  rw [List.filter_filterMap]
  rfl

/-- Where a detector fails, the others find what they find without it. -/
theorem scanContent_without {before after : List Detector} {detector : Detector} {content : String}
    {path : Path} (h : detector.scan content path = none) :
    scanContent (before ++ detector :: after) content path =
      scanContent (before ++ after) content path := by
  have hnone : detector.contribution content path = none := by
    rw [Detector.contribution, h]
    rfl
  unfold scanContent supporting
  rw [List.filter_append, List.filter_append, List.filter_cons]
  by_cases hsupports : detector.supports path.fileNameText = true
  · rw [if_pos hsupports, List.filterMap_append, List.filterMap_cons, hnone, List.filterMap_append]
  · rw [if_neg hsupports]

/-! ## 2. Reports -/

/-- A report by another clock. -/
def Report.timed (r : Report) (t : Timing) : Report :=
  { r with startedAt := t.startedAt, durationMs := t.durationMs }

section Reports

variable (ds : List Detector) (read : SourceFile → Reading)

theorem inspect_recovering (sizeLimit? : Option Nat) :
    inspect (ds.map Detector.recovering) sizeLimit? = inspect ds sizeLimit? := by
  funext f
  unfold inspect
  simp only [scanContent_recovering]

/-- What comes of looking at a file is the same. -/
theorem inspectReading_recovering (sizeLimit? : Option Nat) (reading : Reading) (f : SourceFile) :
    inspectReading (ds.map Detector.recovering) sizeLimit? reading f =
      inspectReading ds sizeLimit? reading f := by
  unfold inspectReading
  simp only [inspect_recovering]

/-- **Failures do not show in a report**, up to the clock. -/
theorem freshReportReading_recovering (s : Settings) (d : Disk) (schedule : Schedule)
    (t t' : Timing) (project : Path) (o : ScanOptions) :
    freshReportReading read s (ds.map Detector.recovering) d schedule t' project o =
      (freshReportReading read s ds d schedule t project o).map (·.timed t') := by
  unfold freshReportReading outcomesReading
  simp only [inspectReading_recovering]
  cases requestedFiles d project o with
  | error failure => rfl
  | ok files => rfl

theorem freshReport_recovering (s : Settings) (d : Disk) (schedule : Schedule) (t : Timing)
    (project : Path) (o : ScanOptions) :
    freshReport s (ds.map Detector.recovering) d schedule t project o =
      freshReport s ds d schedule t project o := by
  unfold freshReport outcomes
  simp only [inspect_recovering]

end Reports

/-! ## 3. Events -/

/-- The auditor whose detectors find nothing where those of this one fail. -/
def Auditor.recovering (a : Auditor) : Auditor :=
  { a with detectors := a.detectors.map Detector.recovering }

/-- The event that adds such a detector, if the event adds a detector. -/
def Event.recovering (e : Event) : Event :=
  match e.operation with
  | .addDetector detector => { e with operation := .addDetector detector.recovering }
  | _ => e

/-- The reply that names such detectors, if the reply names detectors. -/
def Reply.recovering : Reply → Reply
  | .detectors found => .detectors (found.map Detector.recovering)
  | reply => reply

namespace Auditor

/-- A scan is answered alike, and what it stores is the same. -/
theorem scanProject_recovering (a : Auditor) (d : Disk) (schedule : Schedule) (t : Timing)
    (project : Path) (o : ScanOptions) : a.recovering.scanProject d schedule t project o =
      ((a.scanProject d schedule t project o).1,
        (a.scanProject d schedule t project o).2.recovering) := by
  have hanswer : a.recovering.answerInStore? t.lookedUp project o =
      a.answerInStore? t.lookedUp project o := rfl
  have hfresh : freshReport a.recovering.settings a.recovering.detectors d schedule t project o =
      freshReport a.settings a.detectors d schedule t project o :=
      freshReport_recovering a.detectors _ _ _ _ _ _
  unfold scanProject
  rw [hanswer, hfresh]
  cases a.answerInStore? t.lookedUp project o with
  | some r => rfl
  | none => cases freshReport a.settings a.detectors d schedule t project o <;> rfl

theorem perform_recovering (a : Auditor) (d : Disk) (request : Request) :
    a.recovering.perform d request =
      ((a.perform d request).1, (a.perform d request).2.recovering) := by
  cases request with
  | scan schedule t project o =>
    simp only [perform]
    rw [scanProject_recovering]
  | storedReport now scanId => rfl
  | statistics =>
    have hnames : a.recovering.statistics = a.statistics := by
      unfold statistics recovering
      rw [List.map_map]
      rfl
    simp only [perform, hnames]
  | clear => rfl

/-- **One operation is answered alike, and the auditors behind it still differ by their failures
only.** -/
theorem operate_recovering (a : Auditor) (e : Event) :
    a.recovering.operate e.recovering =
      ((a.operate e).1.recovering, (a.operate e).2.recovering) := by
  obtain ⟨d, operation⟩ := e
  cases operation with
  | request request =>
    simp only [operate, Event.recovering]
    rw [perform_recovering]
    rfl
  | addDetector detector =>
    simp only [operate, Event.recovering, addDetector, recovering, List.map_append]
    rfl
  | supporting fileName =>
    have hfound := supporting_recovering a.detectors fileName
    simp only [operate, Event.recovering, Reply.recovering, recovering, hfound]
  | scanContent content path =>
    have hfound := scanContent_recovering a.detectors content path
    simp only [operate, Event.recovering, Reply.recovering, Auditor.scanContent, recovering, hfound]
  | fingerprint project o => rfl

/-- Events leave auditors behind that differ by their failures only. -/
theorem afterEvents_recovering (a : Auditor) (events : List Event) :
    a.recovering.afterEvents (events.map Event.recovering) = (a.afterEvents events).recovering := by
  induction events generalizing a with
  | nil => rfl
  | cons e events ih => rw [List.map_cons, afterEvents, afterEvents, operate_recovering, ih]

/-- **Events are answered alike.** -/
theorem replies_recovering (a : Auditor) (events : List Event) :
    a.recovering.replies (events.map Event.recovering) =
      (a.replies events).map Reply.recovering := by
  induction events generalizing a with
  | nil => rfl
  | cons e events ih => rw [List.map_cons, replies, replies, List.map_cons, operate_recovering, ih]

end Auditor

/-! ## 4. All of it -/

/-- What failures of detectors do to an auditor: nothing. -/
structure IsolatesFailures (a : Auditor) : Prop where
  /-- What is found in a text are the findings with a signal of those that are meant for it and do
  not fail. -/
  findings : ∀ content path, a.scanContent content path =
    ((supporting a.detectors path.fileNameText).filterMap (·.scan content path)).filter
      Finding.hasSignal
  /-- What the others find is what they find without a detector that fails. -/
  others : ∀ before detector after content path, a.detectors = before ++ detector :: after →
    detector.scan content path = none →
    a.scanContent content path = scanContent (before ++ after) content path
  /-- What comes of each file is what would come of it if nothing were found instead. -/
  outcomes : ∀ sizeLimit? reading f, inspectReading a.detectors sizeLimit? reading f =
    inspectReading (a.detectors.map Detector.recovering) sizeLimit? reading f
  /-- And so is each report, up to the clock. -/
  reports : ∀ read d schedule t t' project o,
    freshReportReading read a.settings (a.detectors.map Detector.recovering)
        d schedule t' project o =
      (freshReportReading read a.settings a.detectors d schedule t project o).map (·.timed t')
  /-- Whatever is done then, also with further detectors that fail, is answered as if nothing were
  found instead. -/
  replies : ∀ events,
    a.recovering.replies (events.map Event.recovering) = (a.replies events).map Reply.recovering
  /-- And the auditor behind it is the same up to its detectors, so the same may be said of it
  again. -/
  remains : ∀ events, a.recovering.afterEvents (events.map Event.recovering) =
    (a.afterEvents events).recovering

/-- **Failures of detectors are isolated**, whatever the detectors and wherever they fail. -/
theorem failures_isolated (a : Auditor) : IsolatesFailures a where
  findings := scanContent_eq_filter a.detectors
  others before detector after content path hdetectors hfails := by
    rw [Auditor.scanContent, hdetectors]
    exact scanContent_without hfails
  outcomes sizeLimit? reading f := (inspectReading_recovering a.detectors sizeLimit? reading f).symm
  reports read d schedule t t' project o :=
    freshReportReading_recovering a.detectors read a.settings d schedule t t' project o
  replies := a.replies_recovering
  remains := a.afterEvents_recovering

/-- A detector that fails on traps. -/
def trapped : Detector := .ofNeedle "trapped" ["js"] "trap" .apis "FETCH" (some "trap")

/-- A detector that finds traps. -/
def trapper (name : String) : Detector := .ofNeedle name ["js"] "trap" .permissions "CAMERA" none

/-- An auditor with a detector that fails on traps, between two that find them. -/
def trapAuditor : Auditor :=
  { serialAuditor with detectors := [trapper "first", trapped, trapper "last"] }

theorem failures_isolated_trap :
    trapped.scan "trap" (.ofText "a.js") = none ∧
      (trapAuditor.scanContent "trap" (.ofText "a.js")).map (·.detector) = ["first", "last"] := by
  have hfails : trapped.scan "trap" (.ofText "a.js") = none := by decide +kernel
  have hothers :=
    (failures_isolated trapAuditor).others [trapper "first"] trapped [trapper "last"] "trap"
    (.ofText "a.js") rfl hfails
  rw [hothers]
  exact ⟨hfails, by decide +kernel⟩

end PrivacyAudit
