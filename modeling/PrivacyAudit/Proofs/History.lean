import Mathlib.Data.Finset.Card
import PrivacyAudit.Proofs.Capacity
import PrivacyAudit.Proofs.Transparency

/-!
# Where reports come from

Everything that can be done with an auditor may follow everything else, and the disk may be another
one each time: an `Event` is an operation with the disk as it is then. `Auditor.afterEvents` is the
auditor that events leave behind, `Auditor.replies` what they are answered.

The history of an auditor lists the reports that were made anew since its store was last cleared
(`Auditor.history`). The store holds some of them, and the invariant of events, `Remembers`, says
which it may be: under each fingerprint the latest one or none, and as many as there is room for.

* `Remembers.operate`, `Remembers.afterEvents`: one event keeps the invariant, and so do all;
* `scans_traceable`: so each report is the latest of the history, unchanged, or one on the disk as
  it is.
-/

namespace PrivacyAudit

/-! ## 1. Events -/

/-- What can be done with an auditor. -/
inductive Operation
  | request (request : Request)
  | addDetector (detector : Detector)
  | supporting (fileName : String)
  | scanContent (content : String) (path : Path)
  | fingerprint (project : Path) (o : ScanOptions)

/-- What comes of it. -/
inductive Reply
  | answer (answer : Answer)
  | added
  | detectors (found : List Detector)
  | findings (found : List Finding)
  | fingerprint (scanId : String)

/-- An operation, and the disk as it is then. -/
structure Event where
  disk : Disk
  operation : Operation

/-- A scan of a project as it is on a disk. -/
def Event.scan (d : Disk) (schedule : Schedule) (t : Timing) (project : Path)
    (o : ScanOptions) : Event :=
  ⟨d, .request (.scan schedule t project o)⟩

/-- The detector that an event adds. -/
def Event.detector? (e : Event) : Option Detector :=
  match e.operation with
  | .addDetector detector => some detector
  | _ => none

/-- The detectors that events add. -/
def addedIn (events : List Event) : List Detector := events.filterMap Event.detector?

/-- The reports that were made anew, the latest first, each with the moment at which it was
stored. -/
abbrev History := List (Stored Report)

/-- The latest report under a fingerprint. -/
def History.latest? (history : History) (scanId : String) : Option (Stored Report) :=
  history.find? (·.value.scanId == scanId)

/-- The fingerprints under which there are reports. -/
def History.scanIds (history : History) : Finset String := (history.map (·.value.scanId)).toFinset

namespace Auditor

/-- One event: the reply, and the auditor behind it. -/
def operate (a : Auditor) (e : Event) : Reply × Auditor :=
  match e.operation with
  | .request request =>
    let (answer, a) := a.perform e.disk request
    (.answer answer, a)
  | .addDetector detector => (.added, a.addDetector detector)
  | .supporting fileName => (.detectors (PrivacyAudit.supporting a.detectors fileName), a)
  | .scanContent content path => (.findings (a.scanContent content path), a)
  | .fingerprint project o => (.fingerprint (scanId project o), a)

/-- The auditor that events leave behind. -/
def afterEvents (a : Auditor) : List Event → Auditor
  | [] => a
  | e :: events => (a.operate e).2.afterEvents events

/-- What events are answered. -/
def replies (a : Auditor) : List Event → List Reply
  | [] => []
  | e :: events => (a.operate e).1 :: (a.operate e).2.replies events

/-- The history behind an event. -/
def record (a : Auditor) (history : History) (e : Event) : History :=
  match e.operation with
  | .request (.scan schedule t project o) =>
    (a.newReport? e.disk schedule t project o).toList ++ history
  | .request .clear => []
  | _ => history

/-- The history behind events. -/
def history (a : Auditor) (before : History) : List Event → History
  | [] => before
  | e :: events => (a.operate e).2.history (a.record before e) events

theorem afterEvents_scan (a : Auditor) (d : Disk) (schedule : Schedule) (t : Timing)
    (project : Path) (o : ScanOptions) :
    a.afterEvents [.scan d schedule t project o] = (a.scanProject d schedule t project o).2 := rfl

theorem history_scan (a : Auditor) (before : History) (d : Disk) (schedule : Schedule) (t : Timing)
    (project : Path) (o : ScanOptions) :
    a.history before [.scan d schedule t project o] =
      (a.newReport? d schedule t project o).toList ++ before := rfl

end Auditor

/-! ## 2. Histories -/

namespace History

variable {history : History} {id : String} {e : Stored Report}

theorem latest?_cons_self : latest? (e :: history) e.value.scanId = some e :=
  List.find?_cons_of_pos (beq_self_eq_true _)

theorem latest?_cons_of_ne (h : e.value.scanId ≠ id) :
    latest? (e :: history) id = latest? history id :=
  List.find?_cons_of_neg (by simpa using h)

/-- What is found under a fingerprint has it. -/
theorem scanId_of_latest? (h : history.latest? id = some e) : e.value.scanId = id := by
  have hfound := List.find?_some (p := fun e : Stored Report => e.value.scanId == id) h
  exact beq_iff_eq.mp hfound

theorem mem_scanIds_of_latest? (h : history.latest? id = some e) : id ∈ history.scanIds := by
  rw [← scanId_of_latest? h]
  exact List.mem_toFinset.mpr (List.mem_map_of_mem (List.mem_of_find?_eq_some h))

theorem scanIds_cons : scanIds (e :: history) = insert e.value.scanId history.scanIds :=
  List.toFinset_cons

end History

/-! ## 3. The invariant -/

/-- **The invariant of events** for settings `s` and detectors `ds`: what the store holds under a
fingerprint is the latest report in the history, and it holds as many as there are fingerprints in
the history, but no more than it may. -/
structure Remembers (s : Settings) (ds : List Detector) (history : History)
    (a : Auditor) : Prop where
  settings : a.settings = s
  detectors : a.detectors = ds
  lifetime : a.store.lifetime = s.lifetime * nanosPerMilli
  capacity : a.store.capacity = s.capacity
  room : 0 < s.capacity
  sound : a.store.Sound
  latest : ∀ id e, a.store.entries[id]? = some e → history.latest? id = some e
  size : a.store.size = min s.capacity history.scanIds.card

namespace Remembers

variable {s : Settings} {ds : List Detector} {history : History} {a : Auditor}

/-- A new auditor remembers nothing. -/
theorem of_new {d : Disk} (h : Auditor.new d s = .ok a) : Remembers s a.detectors [] a := by
  obtain ⟨hsettings, -, hcapacity, hstore⟩ := Auditor.new_eq_ok h
  refine ⟨hsettings,
    rfl, by rw [hstore]; rfl, by rw [hstore]; rfl, hcapacity, ?_, fun id e he => ?_, ?_⟩
  · rw [hstore]
    exact Store.sound_empty _ _
  · rw [Store.getElem?_of_empty hstore] at he
    cases he
  · rw [hstore]
    exact Std.HashMap.size_empty.trans (Nat.min_zero _).symm

theorem capacity_pos (h : Remembers s ds history a) : 0 < a.store.capacity := h.capacity ▸ h.room

/-- The queue of the store lists fingerprints of the history. -/
theorem queue_subset (h : Remembers s ds history a) : a.store.queue.toFinset ⊆ history.scanIds := by
  intro id hid
  have hmem : id ∈ a.store.entries := (h.sound.mem_queue_iff id).mp (List.mem_toFinset.mp hid)
  obtain ⟨e, he⟩ := Option.isSome_iff_exists.mp (Std.HashMap.mem_iff_isSome_getElem?.mp hmem)
  exact History.mem_scanIds_of_latest? (h.latest id e he)

/-- As long as the store is not full, there is an entry under each fingerprint of the history. -/
theorem mem_of_room (h : Remembers s ds history a) (hroom : a.store.size < s.capacity) {id : String}
    (hid : id ∈ history.scanIds) : id ∈ a.store.entries := by
  have hcard : a.store.queue.toFinset.card = a.store.size := by
    rw [List.toFinset_card_of_nodup h.sound.nodup, h.sound.length_queue]
  have hsize := h.size
  have hall : a.store.queue.toFinset = history.scanIds :=
    Finset.eq_of_subset_of_card_le h.queue_subset (by omega)
  rw [← hall, List.mem_toFinset] at hid
  exact (h.sound.mem_queue_iff id).mp hid

/-- Behind an insertion there are as many entries as there are fingerprints then, or the store is
full. -/
theorem size_insert (h : Remembers s ds history a) (now : Moment) (r : Report) :
    (a.store.insert now r.scanId r).size =
      min s.capacity (History.scanIds (⟨r, now⟩ :: history)).card := by
  have hsize := h.size
  rw [h.sound.size_insert h.capacity_pos, h.capacity, History.scanIds_cons]
  by_cases hheld : r.scanId ∈ a.store.entries
  · have hknown : r.scanId ∈ history.scanIds :=
      h.queue_subset (List.mem_toFinset.mpr ((h.sound.mem_queue_iff _).mpr hheld))
    rw [if_pos hheld, Finset.insert_eq_of_mem hknown, hsize]
  · rw [if_neg hheld]
    by_cases hknown : r.scanId ∈ history.scanIds
    · -- The entry was evicted before, so the store is full and stays full.
      have hfull : ¬ a.store.size < s.capacity := fun hroom => hheld (h.mem_of_room hroom hknown)
      rw [Finset.insert_eq_of_mem hknown]
      omega
    · rw [Finset.card_insert_of_notMem hknown]
      omega

/-- A scan keeps the invariant. -/
theorem scan (h : Remembers s ds history a) (d : Disk) (schedule : Schedule) (t : Timing)
    (project : Path) (o : ScanOptions) :
    Remembers s ds ((a.newReport? d schedule t project o).toList ++ history)
      (a.scanProject d schedule t project o).2 := by
  obtain ⟨r, -, hscan, hnew⟩ | ⟨-, failure, -, hscan, hnew⟩ | ⟨-, r, -, hscan, hnew⟩ :=
    a.scanProject_cases d schedule t project o
  · rw [hscan, hnew]
    exact h
  · rw [hscan, hnew]
    exact h
  · rw [hscan, hnew]
    refine ⟨h.settings, h.detectors, h.lifetime, h.capacity, h.room,
      h.sound.insert h.capacity_pos _ _ _, fun id e he => ?_, h.size_insert _ _⟩
    show History.latest? (⟨r, t.stored⟩ :: history) id = some e
    by_cases hid : r.scanId = id
    · subst hid
      rw [h.sound.getElem?_insert_self h.capacity_pos] at he
      obtain rfl := Option.some.inj he
      exact History.latest?_cons_self
    · rw [History.latest?_cons_of_ne hid]
      rcases Store.mem_of_insert he with ⟨hkey, -⟩ | hold
      · exact absurd hkey.symm hid
      · exact h.latest id e hold

theorem clear (h : Remembers s ds history a) : Remembers s ds [] a.clear where
  settings := h.settings
  detectors := h.detectors
  lifetime := h.lifetime
  capacity := h.capacity
  room := h.room
  sound := Store.sound_clear _
  latest id e he := by
    rw [Auditor.clear, Store.getElem?_clear] at he
    cases he
  size := (Store.size_clear _).trans (Nat.min_zero _).symm

/-- One event keeps the invariant. -/
theorem operate (h : Remembers s ds history a) (e : Event) :
    Remembers s (ds ++ e.detector?.toList) (a.record history e) (a.operate e).2 := by
  obtain ⟨d, operation⟩ := e
  cases operation with
  | request request =>
    rw [Event.detector?, Option.toList_none, List.append_nil]
    cases request with
    | scan schedule t project o => exact h.scan d schedule t project o
    | storedReport now scanId => exact h
    | statistics => exact h
    | clear => exact h.clear
  | addDetector detector => exact { h with detectors := congrArg (· ++ [detector]) h.detectors }
  | supporting fileName => exact (List.append_nil ds).symm ▸ h
  | scanContent content path => exact (List.append_nil ds).symm ▸ h
  | fingerprint project o => exact (List.append_nil ds).symm ▸ h

/-- **Events keep the invariant.** -/
theorem afterEvents (h : Remembers s ds history a) (events : List Event) :
    Remembers s (ds ++ addedIn events) (a.history history events) (a.afterEvents events) := by
  induction events generalizing a ds history with
  | nil => exact (List.append_nil ds).symm ▸ h
  | cons e events ih =>
    have hadded : ds ++ addedIn (e :: events) = (ds ++ e.detector?.toList) ++ addedIn events := by
      unfold addedIn
      rw [List.append_assoc, List.filterMap_cons]
      cases e.detector? <;> rfl
    rw [hadded]
    exact ih (h.operate e)

end Remembers

/-! ## 4. Where the report of a scan comes from -/

/-- An entry answers for a fingerprint at a moment: it has the latest report of the history under
this fingerprint, the store still holds it, and it is young enough. -/
structure Auditor.Serves (s : Settings) (history : History) (a : Auditor) (now : Moment)
    (id : String) (e : Stored Report) : Prop where
  latest : history.latest? id = some e
  held : a.store.entries[id]? = some e
  young : now - e.since < s.lifetime * nanosPerMilli

/-- What is answered is made anew from the project as it is on the disk, and a report is held behind
the scan. -/
structure MadeAnew (s : Settings) (ds : List Detector) (d : Disk) (schedule : Schedule) (t : Timing)
    (project : Path) (o : ScanOptions) (result : Except Failure Report × Auditor) : Prop where
  fresh : result.1 = freshReport s ds d schedule t project o
  held : ∀ r, result.1 = .ok r → result.2.store.entries[scanId project o]? = some ⟨r, t.stored⟩

/-- **Where the report of a scan comes from**, if the auditor has settings `s`, detectors `ds` and a
history. -/
structure Traceable (s : Settings) (ds : List Detector) (history : History) (a : Auditor) (d : Disk)
    (schedule : Schedule) (t : Timing) (project : Path) (o : ScanOptions) : Prop where
  /-- The report of a forced scan is made anew. -/
  forced : o.force = true →
    MadeAnew s ds d schedule t project o (a.scanProject d schedule t project o)
  /-- A scan that is not forced is answered with the entry that answers for its fingerprint, and
  changes nothing. -/
  served : o.force = false → ∀ e, a.Serves s history t.lookedUp (scanId project o) e →
    a.scanProject d schedule t project o = (.ok e.value, a)
  /-- If there is no such entry, its report is made anew. -/
  unserved : o.force = false → (∀ e, ¬ a.Serves s history t.lookedUp (scanId project o) e) →
    MadeAnew s ds d schedule t project o (a.scanProject d schedule t project o)
  /-- Any report is the latest of the history behind the scan, and it is found there until it is too
  old. -/
  found : ∀ r, (a.scanProject d schedule t project o).1 = .ok r → ∃ since,
    (a.record history (.scan d schedule t project o)).latest? r.scanId = some ⟨r, since⟩ ∧
    ∀ now, (a.scanProject d schedule t project o).2.storedReport now r.scanId =
      if now - since < s.lifetime * nanosPerMilli then some r else none

namespace Auditor

variable {a : Auditor} {id : String} {e : Stored Report}

theorem storedReport_of_held (h : a.store.entries[id]? = some e) (now : Moment) :
    a.storedReport now id = if now - e.since < a.store.lifetime then some e.value else none := by
  unfold storedReport Store.get?
  rw [h]

/-- A scan that is not answered from the store makes its report anew. -/
theorem madeAnew_of_none (hsound : a.store.Sound) (hcapacity : 0 < a.store.capacity) {d : Disk}
    {schedule : Schedule} {t : Timing} {project : Path} {o : ScanOptions}
    (hnone : a.answerInStore? t.lookedUp project o = none) :
    MadeAnew a.settings a.detectors d schedule t project o
      (a.scanProject d schedule t project o) := by
  have hfresh : (a.scanProject d schedule t project o).1 =
      freshReport a.settings a.detectors d schedule t project o := scanProject_of_none hnone
  refine ⟨hfresh, fun r hr => ?_⟩
  rw [hfresh] at hr
  rw [store_scanProject_of_none hnone hr]
  exact hsound.getElem?_insert_self hcapacity _ _ _

end Auditor

namespace Remembers

variable {s : Settings} {ds : List Detector} {history : History} {a : Auditor}

/-- The store answers with the entries that serve. -/
theorem storedReport_eq_some_iff (h : Remembers s ds history a) {now : Moment} {id : String}
    {r : Report} :
    a.storedReport now id = some r ↔ ∃ e, a.Serves s history now id e ∧ e.value = r := by
  constructor
  · intro hr
    obtain ⟨e, he, hvalue⟩ := Store.mem_of_get? hr
    rw [Auditor.storedReport_of_held he, h.lifetime] at hr
    split at hr
    · rename_i hyoung
      exact ⟨e, ⟨h.latest id e he, he, hyoung⟩, hvalue⟩
    · cases hr
  · intro hserved
    obtain ⟨e, hserves, rfl⟩ := hserved
    rw [Auditor.storedReport_of_held hserves.held, h.lifetime, if_pos hserves.young]

/-- What a scan answers is held behind it, under its own fingerprint. -/
theorem held_of_ok (h : Remembers s ds history a) {d : Disk} {schedule : Schedule} {t : Timing}
    {project : Path} {o : ScanOptions} {r : Report}
    (hr : (a.scanProject d schedule t project o).1 = .ok r) :
    ∃ since, (a.scanProject d schedule t project o).2.store.entries[r.scanId]? =
      some ⟨r, since⟩ := by
  obtain ⟨r', hanswer, hscan, -⟩ | ⟨-, failure, -, hscan, -⟩ | ⟨-, r', -, hscan, -⟩ :=
    a.scanProject_cases d schedule t project o
  · rw [hscan] at hr ⊢
    obtain rfl := Except.ok.inj hr
    unfold Auditor.answerInStore? at hanswer
    split at hanswer
    · cases hanswer
    · obtain ⟨e, he, hvalue⟩ := Store.mem_of_get? hanswer
      have hid := History.scanId_of_latest? (h.latest _ e he)
      rw [← hvalue, hid]
      exact ⟨e.since, he⟩
  · rw [hscan] at hr
    cases hr
  · rw [hscan] at hr ⊢
    obtain rfl := Except.ok.inj hr
    exact ⟨t.stored, h.sound.getElem?_insert_self h.capacity_pos _ _ _⟩

/-- Where the invariant holds, the report of every scan can be traced. -/
theorem traceable (h : Remembers s ds history a) (d : Disk) (schedule : Schedule) (t : Timing)
    (project : Path) (o : ScanOptions) : Traceable s ds history a d schedule t project o := by
  have hmade : a.answerInStore? t.lookedUp project o = none →
      MadeAnew s ds d schedule t project o (a.scanProject d schedule t project o) := by
    intro hnone
    have hanew : MadeAnew a.settings a.detectors d schedule t project o
        (a.scanProject d schedule t project o) :=
      Auditor.madeAnew_of_none h.sound h.capacity_pos hnone
    rwa [h.settings, h.detectors] at hanew
  have hanswer : o.force = false →
      a.answerInStore? t.lookedUp project o = a.storedReport t.lookedUp (scanId project o) := by
    intro hforce
    rw [Auditor.answerInStore?, hforce]
    rfl
  refine ⟨fun hforce => hmade ?_, fun hforce e hserves => ?_, fun hforce hnone => hmade ?_,
    fun r hr => ?_⟩
  · rw [Auditor.answerInStore?, if_pos hforce]
  · have hfound := (hanswer hforce).trans (h.storedReport_eq_some_iff.mpr ⟨e, hserves, rfl⟩)
    unfold Auditor.scanProject
    rw [hfound]
  · rw [hanswer hforce]
    refine Option.eq_none_iff_forall_ne_some.mpr fun r' hr' => ?_
    obtain ⟨e, hserves, -⟩ := h.storedReport_eq_some_iff.mp hr'
    exact hnone e hserves
  · obtain ⟨since, hheld⟩ := h.held_of_ok hr
    have hbehind := h.scan d schedule t project o
    refine ⟨since, hbehind.latest _ _ hheld, fun now => ?_⟩
    rw [Auditor.storedReport_of_held hheld, hbehind.lifetime]

end Remembers

/-- **Where reports come from**, whatever is done with an auditor and whatever becomes of the disk
meanwhile. A forced scan makes its report anew. A scan that is not forced is answered with the
latest report under its fingerprint since the store was last cleared, unchanged, if this is still
held and young enough; otherwise it makes its report anew. Either way the report is found under its
fingerprint right behind the scan. The store counts all that it holds, old or not: one report for
each fingerprint of the history, until it is full. -/
theorem scans_traceable {d₀ : Disk} {s : Settings} {a₀ : Auditor} (ha : Auditor.new d₀ s = .ok a₀)
    (events : List Event) :
    (∀ d schedule t project o, Traceable s (a₀.detectors ++ addedIn events) (a₀.history [] events)
      (a₀.afterEvents events) d schedule t project o) ∧
    (a₀.afterEvents events).statistics.storedReports =
      min s.capacity (History.scanIds (a₀.history [] events)).card := by
  have h := (Remembers.of_new ha).afterEvents events
  exact ⟨h.traceable, h.size⟩

/-- A scan of a project with the defaults can fail only by its patterns, and those are in order. -/
theorem exists_freshReport (s : Settings) (ds : List Detector) (d : Disk) (schedule : Schedule)
    (t : Timing) (project : Path) : ∃ r, freshReport s ds d schedule t project .default =
      .ok r := by
  have hsome : (WalkOptions.ofTexts? ScanOptions.defaultIncludes ScanOptions.defaultExcludes
      ScanOptions.defaultMaxFiles).toOption.isSome = true := by decide +kernel
  obtain ⟨walk, hwalk⟩ := exists_ok_of_isSome hsome
  exact ⟨_, freshReport_eq_ok_iff.mpr ⟨_, requestedFiles_of_walk hwalk, rfl⟩⟩

/-- A project is scanned and then deleted. The next scan is answered with the report on it, for this
is the only one that is stored, and the one right behind the first scan. -/
theorem scans_traceable_deleted :
    ∃ a₀ r, Auditor.new threeProjects bareSettings = .ok a₀ ∧
      let scan := Event.scan threeProjects .inOrder ⟨0, 0, 0, 0⟩ (.ofText "Aa") .default
      a₀.history [] [scan] = [⟨r, 0⟩] ∧
      (a₀.afterEvents [scan]).scanProject (.fresh []) .inOrder ⟨0, 0, 0, 0⟩
        (.ofText "Aa") .default = (.ok r, a₀.afterEvents [scan]) ∧
      (a₀.afterEvents [scan]).statistics.storedReports = 1 := by
  obtain ⟨a₀, ha⟩ := exists_bare
  obtain ⟨-, -, -, hstore⟩ := Auditor.new_eq_ok ha
  have hnone := Auditor.answerInStore?_of_empty hstore 0 (.ofText "Aa") .default
  obtain ⟨r, hr⟩ :=
    exists_freshReport a₀.settings a₀.detectors threeProjects .inOrder ⟨0, 0, 0, 0⟩ (.ofText "Aa")
  have hscan := (Auditor.scanProject_of_none hnone).trans hr
  have hid : r.scanId = scanId (.ofText "Aa") .default := freshReport_scanId hr
  have hhistory :
      a₀.history [] [.scan threeProjects .inOrder ⟨0, 0, 0, 0⟩ (.ofText "Aa") .default] =
      [⟨r, 0⟩] := by
    rw [Auditor.history_scan, Auditor.newReport?, hnone, hr]
    rfl
  obtain ⟨since, -, hfound⟩ :=
    ((scans_traceable ha []).1 threeProjects .inOrder ⟨0, 0, 0, 0⟩ (.ofText "Aa")
    .default).found r hscan
  have hnow := hfound 0
  have hyoung : 0 - since < bareSettings.lifetime * nanosPerMilli := by
    rw [Nat.zero_sub]
    decide +kernel
  rw [if_pos hyoung, hid, Auditor.afterEvents, ← Auditor.afterEvents_scan] at hnow
  have h := (Remembers.of_new ha).afterEvents [.scan threeProjects .inOrder ⟨0, 0, 0, 0⟩
    (.ofText "Aa") .default]
  obtain ⟨e, hserves, rfl⟩ := h.storedReport_eq_some_iff.mp hnow
  have htrace :=
    scans_traceable ha [.scan threeProjects .inOrder ⟨0, 0, 0, 0⟩ (.ofText "Aa") .default]
  have hserved :=
    (htrace.1 (.fresh []) .inOrder ⟨0, 0, 0, 0⟩ (.ofText "Aa") .default).served rfl e hserves
  refine ⟨a₀, e.value, ha, hhistory, hserved, ?_⟩
  rw [htrace.2, hhistory]
  rfl

end PrivacyAudit
