import PrivacyAudit.Proofs.FreshReport
import PrivacyAudit.Proofs.Stored

/-!
# Sessions

A session is a sequence of requests to one auditor while the disk stays as it is. `Auditor.perform`
is one step of it, `Auditor.after` the auditor that a sequence leaves behind.

The subjects of a session are what its reports were made on since the store was last cleared
(`Auditor.subjects`). Its invariant is `Provenance`: whatever the store holds under a fingerprint is
a fresh report on the latest subject with this very fingerprint (`Provenance.after`). What it cannot
say is that this was the request that is answered: that is for the fingerprint to tell.
-/

namespace PrivacyAudit

/-- What an auditor may be asked. -/
inductive Request
  | scan (schedule : Schedule) (t : Timing) (project : Path) (o : ScanOptions)
  | storedReport (now : Moment) (scanId : String)
  | statistics
  | clear

/-- What an auditor answers. -/
inductive Answer
  | report (result : Except Failure Report)
  | stored (report? : Option Report)
  | statistics (facts : Statistics)
  | cleared

/-- What is asked of a scan: the project and the options. -/
abbrev Wanted := Path × ScanOptions

/-- The fingerprint of what is asked. -/
def Wanted.scanId (w : Wanted) : String := PrivacyAudit.scanId w.1 w.2

/-- The latest of some subjects that has the fingerprint. -/
def subjectUnder (subjects : List Wanted) (scanId : String) : Option Wanted :=
  subjects.find? (·.scanId == scanId)

theorem subjectUnder_cons_self (w : Wanted) (subjects : List Wanted) :
    subjectUnder (w :: subjects) w.scanId = some w :=
  List.find?_cons_of_pos (beq_self_eq_true _)

theorem subjectUnder_cons_of_ne {w : Wanted} {subjects : List Wanted} {id : String}
    (h : w.scanId ≠ id) : subjectUnder (w :: subjects) id = subjectUnder subjects id :=
  List.find?_cons_of_neg (by simpa using h)

/-- What is found under a fingerprint is one of the subjects and has it. -/
theorem of_subjectUnder {subjects : List Wanted} {id : String} {w : Wanted}
    (h : subjectUnder subjects id = some w) : w ∈ subjects ∧ w.scanId = id :=
  ⟨List.mem_of_find?_eq_some h,
    beq_iff_eq.mp (List.find?_some (p := fun w : Wanted => w.scanId == id) h)⟩

namespace Auditor

/-- One request: the answer, and the auditor behind it. -/
def perform (a : Auditor) (d : Disk) : Request → Answer × Auditor
  | .scan schedule t project o =>
    let (result, a) := a.scanProject d schedule t project o
    (.report result, a)
  | .storedReport now scanId => (.stored (a.storedReport now scanId), a)
  | .statistics => (.statistics a.statistics, a)
  | .clear => (.cleared, a.clear)

/-- The auditor that a sequence of requests leaves behind. -/
def after (a : Auditor) (d : Disk) : List Request → Auditor
  | [] => a
  | request :: requests => (a.perform d request).2.after d requests

/-- The report that a scan makes anew, if it is not answered from the store, with the moment at
which it is stored. -/
def newReport? (a : Auditor) (d : Disk) (schedule : Schedule) (t : Timing) (project : Path)
    (o : ScanOptions) : Option (Stored Report) :=
  match a.answerInStore? t.lookedUp project o with
  | some _ => none
  | none => (freshReport a.settings a.detectors d schedule t project o).toOption.map (⟨·, t.stored⟩)

/-- The subjects behind a request; a report that is made anew adds its own in front. -/
def noteSubject (a : Auditor) (d : Disk) (subjects : List Wanted) : Request → List Wanted
  | .scan schedule t project o =>
    if (a.newReport? d schedule t project o).isSome then (project, o) :: subjects else subjects
  | .clear => []
  | .storedReport .. | .statistics => subjects

/-- **The subjects of a session**: what the reports were made on that were made since the store was
last cleared, the latest first. -/
def subjects (a : Auditor) (d : Disk) (earlier : List Wanted) : List Request → List Wanted
  | [] => earlier
  | request :: requests =>
    (a.perform d request).2.subjects d (a.noteSubject d earlier request) requests

theorem noteSubject_scan (a : Auditor) (d : Disk) (subjects : List Wanted) (schedule : Schedule)
    (t : Timing) (project : Path) (o : ScanOptions) :
    a.noteSubject d subjects (.scan schedule t project o) =
      if (a.newReport? d schedule t project o).isSome then (project, o) :: subjects
      else subjects := rfl

theorem after_scan (a : Auditor) (d : Disk) (schedule : Schedule) (t : Timing) (project : Path)
    (o : ScanOptions) (requests : List Request) :
    a.after d (.scan schedule t project o :: requests) =
      (a.scanProject d schedule t project o).2.after d requests := rfl

/-- What a report is made on was asked for. -/
theorem scan_mem_of_mem_subjects {a : Auditor} {d : Disk} {earlier : List Wanted}
    {requests : List Request} {w : Wanted} (h : w ∈ a.subjects d earlier requests) :
    w ∈ earlier ∨ ∃ schedule t, .scan schedule t w.1 w.2 ∈ requests := by
  induction requests generalizing a earlier with
  | nil => exact .inl h
  | cons request requests ih =>
    obtain hnoted | ⟨schedule, t, hlater⟩ := ih h
    · cases request with
      | scan schedule t project o =>
        rw [noteSubject_scan] at hnoted
        split at hnoted
        · obtain rfl | hearlier := List.mem_cons.mp hnoted
          · exact .inr ⟨schedule, t, List.mem_cons_self⟩
          · exact .inl hearlier
        · exact .inl hnoted
      | storedReport now scanId => exact .inl hnoted
      | statistics => exact .inl hnoted
      | clear => exact absurd hnoted List.not_mem_nil
    · exact .inr ⟨schedule, t, List.mem_cons_of_mem _ hlater⟩

/-- A request is not answered from the store if it insists on a new report, or if nothing is
found. -/
theorem answerInStore?_eq_none_iff {a : Auditor} {now : Moment} {project : Path} {o : ScanOptions} :
    a.answerInStore? now project o = none ↔
      o.force = true ∨ a.storedReport now (scanId project o) = none := by
  unfold answerInStore?
  cases o.force <;> simp

/-- **What a scan can do**: it is answered from the store, or its patterns are refused, or it makes
a report and stores it. Only the last changes the auditor. -/
theorem scanProject_cases (a : Auditor) (d : Disk) (schedule : Schedule) (t : Timing)
    (project : Path) (o : ScanOptions) : (∃ r, a.answerInStore? t.lookedUp project o = some r ∧
      a.scanProject d schedule t project o = (.ok r, a) ∧
        a.newReport? d schedule t project o = none) ∨
    (a.answerInStore? t.lookedUp project o = none ∧
      ∃ failure, freshReport a.settings a.detectors d schedule t project o = .error failure ∧
        a.scanProject d schedule t project o = (.error failure, a) ∧
        a.newReport? d schedule t project o = none) ∨
    (a.answerInStore? t.lookedUp project o = none ∧
      ∃ r, freshReport a.settings a.detectors d schedule t project o = .ok r ∧
        a.scanProject d schedule t project o = (.ok r,
          { a with store := a.store.insert t.stored r.scanId r }) ∧
        a.newReport? d schedule t project o = some ⟨r, t.stored⟩) := by
  unfold scanProject newReport?
  cases hanswer : a.answerInStore? t.lookedUp project o with
  | some r => exact .inl ⟨r, rfl, rfl, rfl⟩
  | none =>
    cases hfresh : freshReport a.settings a.detectors d schedule t project o with
    | error failure => exact .inr (.inl ⟨rfl, failure, rfl, rfl, rfl⟩)
    | ok r => exact .inr (.inr ⟨rfl, r, rfl, rfl, rfl⟩)

/-- **Where every file is as the walk found it, the scan is that of a disk that stays as it is.** -/
theorem scanProjectReading_asFound (a : Auditor) (d : Disk) (schedule : Schedule) (t : Timing)
    (project : Path) (o : ScanOptions) :
    a.scanProjectReading SourceFile.asFound d schedule t project o =
      a.scanProject d schedule t project o := by
  obtain ⟨r, hanswer, hscan, -⟩ | ⟨hnone, failure, hfresh, hscan, -⟩ |
    ⟨hnone, r, hfresh, hscan, -⟩ :=
    a.scanProject_cases d schedule t project o
  · rw [hscan, scanProjectReading, hanswer]
  · rw [hscan, scanProjectReading, hnone, freshReportReading_asFound, hfresh]
  · rw [hscan, scanProjectReading, hnone, freshReportReading_asFound, hfresh]

/-- A scan that no stored report answers makes a fresh one. -/
theorem scanProjectReading_of_unanswered {a : Auditor} {t : Timing} {project : Path}
    {o : ScanOptions} (h : a.answerInStore? t.lookedUp project o = none)
    (read : SourceFile → Reading) (d : Disk) (schedule : Schedule) :
    (a.scanProjectReading read d schedule t project o).1 =
      freshReportReading read a.settings a.detectors d schedule t project o := by
  unfold scanProjectReading
  rw [h]
  cases freshReportReading read a.settings a.detectors d schedule t project o <;> rfl

/-- The report on what is asked that the auditor would make for these detectors and settings, under
some schedule and by some clock. -/
def Reports (a : Auditor) (d : Disk) (w : Wanted) (r : Report) : Prop :=
  ∃ schedule t, freshReport a.settings a.detectors d schedule t w.1 w.2 = .ok r

end Auditor

/-- **The invariant of a session** that `a₀` began: settings and detectors stay, and a report that
is stored under a fingerprint is a fresh one on the latest subject that has it. -/
structure Provenance (a₀ : Auditor) (d : Disk) (subjects : List Wanted) (a : Auditor) : Prop where
  settings : a.settings = a₀.settings
  detectors : a.detectors = a₀.detectors
  stored : ∀ id e, a.store.entries[id]? = some e →
    ∃ w, subjectUnder subjects id = some w ∧ a₀.Reports d w e.value

namespace Provenance

variable {a₀ a : Auditor} {d : Disk} {subjects : List Wanted}

/-- A stored report is a fresh one on the latest subject that has its fingerprint. -/
theorem of_storedReport (h : Provenance a₀ d subjects a) {now : Moment} {id : String} {r : Report}
    (hr : a.storedReport now id = some r) :
    ∃ w, subjectUnder subjects id = some w ∧ a₀.Reports d w r := by
  obtain ⟨e, he, rfl⟩ := Store.mem_of_get? hr
  exact h.stored id e he

/-- A scan keeps the invariant. -/
theorem scan (h : Provenance a₀ d subjects a) (schedule : Schedule) (t : Timing) (project : Path)
    (o : ScanOptions) : Provenance a₀ d (a.noteSubject d subjects (.scan schedule t project o))
      (a.scanProject d schedule t project o).2 := by
  rw [Auditor.noteSubject_scan]
  obtain ⟨r, -, hscan, hnew⟩ | ⟨-, failure, -, hscan, hnew⟩ | ⟨-, r, hfresh, hscan, hnew⟩ :=
    a.scanProject_cases d schedule t project o
  · rw [hscan, hnew]
    exact h
  · rw [hscan, hnew]
    exact h
  · rw [hscan, hnew]
    refine ⟨h.settings, h.detectors, fun id e he => ?_⟩
    show ∃ w, subjectUnder ((project, o) :: subjects) id = some w ∧ a₀.Reports d w e.value
    have hid : r.scanId = Wanted.scanId (project, o) := freshReport_scanId hfresh
    rw [h.settings, h.detectors] at hfresh
    by_cases hsame : Wanted.scanId (project, o) = id
    · subst hsame
      obtain rfl := Store.eq_of_insert (hid ▸ he)
      exact ⟨_, subjectUnder_cons_self _ _, schedule, t, hfresh⟩
    · obtain ⟨rfl, -⟩ | hold := Store.mem_of_insert he
      · exact absurd hid.symm hsame
      · rw [subjectUnder_cons_of_ne hsame]
        exact h.stored id e hold

theorem clear (h : Provenance a₀ d subjects a) : Provenance a₀ d [] a.clear where
  settings := h.settings
  detectors := h.detectors
  stored id e he := by
    rw [Auditor.clear, Store.getElem?_clear] at he
    cases he

/-- **A session keeps the invariant.** -/
theorem after (h : Provenance a₀ d subjects a) (requests : List Request) :
    Provenance a₀ d (a.subjects d subjects requests) (a.after d requests) := by
  induction requests generalizing a subjects with
  | nil => exact h
  | cons request requests ih =>
    cases request with
    | scan schedule t project o => exact ih (h.scan schedule t project o)
    | storedReport now scanId => exact ih h
    | statistics => exact ih h
    | clear => exact ih h.clear

end Provenance

/-- An auditor that has stored nothing yet begins a session. -/
theorem Auditor.provenance_of_empty {a : Auditor} (d : Disk) {lifetime capacity : Nat}
    (h : a.store = .empty lifetime capacity) : Provenance a d [] a where
  settings := rfl
  detectors := rfl
  stored id e he := by
    rw [Store.getElem?_of_empty h] at he
    cases he

end PrivacyAudit
