import PrivacyAudit.Proofs.Transparency

/-!
# Detectors that are added between scans

Scans of one project with one choice of files, clearings of the store and new detectors follow each
other. A new detector takes part in every report that is made behind its registration, but the store
is left as it is: an unforced scan may be answered by a report that was made with fewer detectors.

`madeWith` says with which detectors the stored report may have been made, from the calls alone. The
invariant is `MadeWith`: the report that is stored for the project is a fresh one with some of
these. So a report is sure to be up to date exactly if nothing older can be stored: behind the last
registration the store was cleared or a scan forced, or no scan came before it
(`report_of_registered`).
-/

namespace PrivacyAudit

/-! ## 1. Calls -/

/-- What an auditor is asked about one project with one choice of files. -/
inductive Call
  | scan (force : Bool) (schedule : Schedule) (t : Timing)
  | clear
  | add (detector : Detector)

namespace Call

/-- The detector that is added. -/
def detector? : Call → Option Detector
  | .add detector => some detector
  | _ => none

/-- Whether nothing that was stored before can be the answer to a later scan. -/
def renews : Call → Bool
  | .scan force _ _ => force
  | .clear => true
  | .add _ => false

/-- With which detectors the stored report may have been made behind a call, if it was one of `held`
before it and the detectors are `current`. -/
def madeWith (current : List Detector) (held : List (List Detector)) : Call → List (List Detector)
  | .scan force _ _ => if force then [current] else held ++ [current]
  | .clear => []
  | .add _ => held

end Call

/-- The detectors that calls add. -/
def addedBy (calls : List Call) : List Detector := calls.filterMap Call.detector?

/-- With which detectors the stored report may have been made behind calls. -/
def madeWith (current : List Detector) (held : List (List Detector)) :
    List Call → List (List Detector)
  | [] => held
  | call :: calls => madeWith (current ++ call.detector?.toList) (call.madeWith current held) calls

theorem addedBy_cons (call : Call) (calls : List Call) :
    addedBy (call :: calls) = call.detector?.toList ++ addedBy calls := by
  cases call <;> rfl

theorem addedBy_append (earlier later : List Call) :
    addedBy (earlier ++ later) = addedBy earlier ++ addedBy later :=
  List.filterMap_append

theorem madeWith_append (current : List Detector) (held : List (List Detector))
    (earlier later : List Call) :
    madeWith current held (earlier ++ later) =
      madeWith (current ++ addedBy earlier) (madeWith current held earlier) later := by
  induction earlier generalizing current held with
  | nil => rw [List.nil_append, addedBy, List.filterMap_nil, List.append_nil]; rfl
  | cons call earlier ih =>
    rw [List.cons_append, madeWith, ih, addedBy_cons, List.append_assoc]
    rfl

/-- Where no detector is added, what is made is made with the detectors that are there. -/
theorem eq_of_mem_madeWith {current : List Detector} {held : List (List Detector)}
    {calls : List Call} (hheld : ∀ ds ∈ held, ds = current) (hadded : addedBy calls = []) :
    ∀ ds ∈ madeWith current held calls, ds = current := by
  induction calls generalizing held with
  | nil => exact hheld
  | cons call calls ih =>
    rw [addedBy_cons] at hadded
    obtain ⟨hcall, hcalls⟩ := List.append_eq_nil_iff.mp hadded
    rw [madeWith, hcall, List.append_nil]
    refine ih (fun ds hds => ?_) hcalls
    cases call with
    | scan force schedule t =>
      rw [Call.madeWith] at hds
      split at hds
      · exact List.mem_singleton.mp hds
      · exact (List.mem_append.mp hds).elim (hheld ds) List.mem_singleton.mp
    | clear => cases hds
    | add detector => cases hcall

/-- Behind a call that renews the store nothing of what was stored before matters. -/
theorem eq_of_mem_madeWith_of_renews {current : List Detector} {held : List (List Detector)}
    {call : Call} {calls : List Call} (hrenews : call.renews = true)
    (hadded : addedBy (call :: calls) = []) :
    ∀ ds ∈ madeWith current held (call :: calls), ds = current := by
  have hforget : call.madeWith current held = call.madeWith current [] := by
    cases call with
    | scan force schedule t =>
      obtain rfl : force = true := hrenews
      rfl
    | clear => rfl
    | add detector => cases hrenews
  have hnothing : madeWith current held (call :: calls) = madeWith current [] (call :: calls) := by
    rw [madeWith, hforget]
    rfl
  rw [hnothing]
  exact eq_of_mem_madeWith (fun ds hds => absurd hds List.not_mem_nil) hadded

/-- If no detector is added from some moment on at which nothing is stored, or the store is renewed,
what is made is made with all detectors. -/
theorem eq_of_mem_madeWith_append {current : List Detector} {earlier later : List Call}
    (hadded : addedBy later = [])
    (hrenewed : madeWith current [] earlier = [] ∨ later.head?.any Call.renews = true) :
    ∀ ds ∈ madeWith current [] (earlier ++ later), ds = current ++ addedBy (earlier ++ later) := by
  rw [madeWith_append, addedBy_append, hadded, List.append_nil]
  rcases hrenewed with hnothing | hrenews
  · rw [hnothing]
    exact eq_of_mem_madeWith (fun ds hds => absurd hds List.not_mem_nil) hadded
  · cases later with
    | nil => cases hrenews
    | cons call later => exact eq_of_mem_madeWith_of_renews hrenews hadded

/-! ## 2. What is stored -/

namespace Auditor

/-- The auditor behind a call. -/
def afterCall (a : Auditor) (d : Disk) (project : Path) (o : ScanOptions) : Call → Auditor
  | .scan force schedule t => (a.scanProject d schedule t project { o with force }).2
  | .clear => a.clear
  | .add detector => a.addDetector detector

/-- The auditor behind calls. -/
def afterCalls (a : Auditor) (d : Disk) (project : Path) (o : ScanOptions)
    (calls : List Call) : Auditor :=
  calls.foldl (fun a call => a.afterCall d project o call) a

/-- A scan leaves settings and detectors alone. -/
theorem scanProject_keeps (a : Auditor) (d : Disk) (schedule : Schedule) (t : Timing)
    (project : Path) (o : ScanOptions) :
    (a.scanProject d schedule t project o).2.settings = a.settings ∧
      (a.scanProject d schedule t project o).2.detectors = a.detectors := by
  unfold scanProject
  split
  · exact ⟨rfl, rfl⟩
  · split
    · exact ⟨rfl, rfl⟩
    · exact ⟨rfl, rfl⟩

theorem detectors_afterCall (a : Auditor) (d : Disk) (project : Path) (o : ScanOptions)
    (call : Call) :
    (a.afterCall d project o call).detectors = a.detectors ++ call.detector?.toList := by
  cases call with
  | scan force schedule t =>
    exact (scanProject_keeps a d schedule t project _).2.trans (List.append_nil _).symm
  | clear => exact (List.append_nil _).symm
  | add detector => rfl

/-- Detectors stand in the order in which they were added. -/
theorem detectors_afterCalls (a : Auditor) (d : Disk) (project : Path) (o : ScanOptions)
    (calls : List Call) :
    (a.afterCalls d project o calls).detectors = a.detectors ++ addedBy calls := by
  induction calls generalizing a with
  | nil => exact (List.append_nil _).symm
  | cons call calls ih =>
    rw [afterCalls, List.foldl_cons, ← afterCalls, ih, detectors_afterCall, addedBy_cons,
      List.append_assoc]

end Auditor

/-- **The invariant of calls** for settings `s`: a stored report on the project is a fresh one, made
with some of the lists of detectors in `held`. -/
structure MadeWith (s : Settings) (d : Disk) (project : Path) (o : ScanOptions)
    (held : List (List Detector)) (a : Auditor) : Prop where
  settings : a.settings = s
  stored : ∀ e, a.store.entries[scanId project o]? = some e →
    ∃ ds ∈ held, ∃ schedule t, freshReport s ds d schedule t project o = .ok e.value

namespace MadeWith

variable {s : Settings} {d : Disk} {project : Path} {o : ScanOptions} {held : List (List Detector)}
  {a : Auditor}

theorem of_empty (hsettings : a.settings = s) {lifetime capacity : Nat}
    (hstore : a.store = .empty lifetime capacity) : MadeWith s d project o [] a where
  settings := hsettings
  stored e he := by
    rw [Store.getElem?_of_empty hstore] at he
    cases he

/-- What a scan answers is stored or made with the detectors that are there; what is forced is
made. -/
theorem of_answer (h : MadeWith s d project o held a) {force : Bool} {schedule : Schedule}
    {t : Timing} {r : Report}
    (hr : (a.scanProject d schedule t project { o with force }).1 = .ok r) :
    ∃ ds ∈ (Call.scan force schedule t).madeWith a.detectors held,
      ∃ schedule t, freshReport s ds d schedule t project o = .ok r := by
  cases hanswer : a.answerInStore? t.lookedUp project { o with force } with
  | some stored =>
    unfold Auditor.scanProject at hr
    rw [hanswer] at hr
    obtain rfl := Except.ok.inj hr
    cases force with
    | true => cases hanswer
    | false =>
      obtain ⟨e, he, rfl⟩ := Store.mem_of_get? hanswer
      obtain ⟨ds, hds, hfresh⟩ := h.stored e he
      exact ⟨ds, List.mem_append_left _ hds, hfresh⟩
  | none =>
    rw [Auditor.scanProject_of_none hanswer, h.settings] at hr
    refine ⟨a.detectors, ?_, schedule, t, hr⟩
    cases force with
    | true => exact List.mem_singleton_self _
    | false => exact List.mem_append_right _ (List.mem_singleton_self _)

theorem scan (h : MadeWith s d project o held a) (force : Bool) (schedule : Schedule) (t : Timing) :
    MadeWith s d project o ((Call.scan force schedule t).madeWith a.detectors held)
      (a.scanProject d schedule t project { o with force }).2 := by
  refine ⟨(Auditor.scanProject_keeps a d schedule t project _).1.trans h.settings, fun e he => ?_⟩
  cases hanswer : a.answerInStore? t.lookedUp project { o with force } with
  | some stored =>
    unfold Auditor.scanProject at he
    rw [hanswer] at he
    cases force with
    | true => cases hanswer
    | false =>
      obtain ⟨ds, hds, hfresh⟩ := h.stored e he
      exact ⟨ds, List.mem_append_left _ hds, hfresh⟩
  | none =>
    cases hfresh : freshReport a.settings a.detectors d schedule t project { o with force } with
    | error failure =>
      -- A request that is refused was never answered, so nothing is stored for it.
      unfold Auditor.scanProject at he
      rw [hanswer, hfresh] at he
      obtain ⟨ds, -, schedule', t', hstored⟩ := h.stored e he
      obtain ⟨files, hfiles, -⟩ := freshReport_eq_ok_iff.mp hstored
      have hrefused : requestedFiles d project o = .error failure :=
        freshReport_eq_error_iff.mp hfresh
      rw [hfiles] at hrefused
      cases hrefused
    | ok r =>
      have hstore := Auditor.store_scanProject_of_none hanswer hfresh
      rw [hstore] at he
      obtain rfl := Store.eq_of_insert he
      have hr : (a.scanProject d schedule t project { o with force }).1 = .ok r := by
        rw [Auditor.scanProject_of_none hanswer, hfresh]
      exact h.of_answer hr

theorem afterCall (h : MadeWith s d project o held a) (call : Call) :
    MadeWith s d project o (call.madeWith a.detectors held) (a.afterCall d project o call) := by
  cases call with
  | scan force schedule t => exact h.scan force schedule t
  | clear =>
    refine ⟨h.settings, fun e he => ?_⟩
    rw [Auditor.afterCall, Auditor.clear, Store.getElem?_clear] at he
    cases he
  | add detector => exact ⟨h.settings, h.stored⟩

/-- **Calls keep the invariant.** -/
theorem afterCalls (h : MadeWith s d project o held a) (calls : List Call) :
    MadeWith s d project o (madeWith a.detectors held calls) (a.afterCalls d project o calls) := by
  induction calls generalizing a held with
  | nil => exact h
  | cons call calls ih =>
    have hrest := ih (h.afterCall call)
    rwa [Auditor.detectors_afterCall] at hrest

end MadeWith

/-! ## 3. Reports and registrations -/

/-- **With which detectors a report is made**: with those of some scan since the store was last
renewed, this one included; and with all that are registered if none was added since, or if nothing
could be stored when the last one was added. -/
theorem report_of_registered {d : Disk} {s : Settings} {a : Auditor} (ha : Auditor.new d s = .ok a)
    (project : Path) (o : ScanOptions) (calls : List Call) (force : Bool) (schedule : Schedule)
    (t : Timing) {r : Report}
    (hr : ((a.afterCalls d project o calls).scanProject d schedule t project { o with force }).1 =
      .ok r) :
    (∃ ds ∈ madeWith a.detectors [] (calls ++ [.scan force schedule t]),
      { a with detectors := ds }.Recomputes d (project, o) r) ∧
    ∀ earlier later, calls ++ [.scan force schedule t] = earlier ++ later → addedBy later = [] →
      (madeWith a.detectors [] earlier = [] ∨ later.head?.any Call.renews = true) →
      { a with detectors := a.detectors ++ addedBy calls }.Recomputes d (project, o) r := by
  obtain ⟨hsettings, hbatch, -, hstore⟩ := Auditor.new_eq_ok ha
  have hmade : ∃ ds ∈ madeWith a.detectors [] (calls ++ [.scan force schedule t]),
      { a with detectors := ds }.Recomputes d (project, o) r := by
    have hempty : MadeWith s d project o [] a := .of_empty hsettings hstore
    have hcalls := hempty.afterCalls calls
    obtain ⟨ds, hds, hfresh⟩ := hcalls.of_answer hr
    rw [Auditor.detectors_afterCalls] at hds
    refine ⟨ds, by rw [madeWith_append]; exact hds, ?_⟩
    rw [← hsettings] at hfresh hbatch
    exact Auditor.recomputes_of_empty (a := { a with detectors := ds }) hbatch hstore hfresh
  refine ⟨hmade, fun earlier later hsplit hadded hrenewed => ?_⟩
  obtain ⟨ds, hds, hrecomputes⟩ := hmade
  have hadds : addedBy calls = addedBy (calls ++ [.scan force schedule t]) := by
    rw [addedBy_append]
    exact (List.append_nil _).symm
  rw [hsplit] at hds
  rw [hadds, hsplit, ← eq_of_mem_madeWith_append hadded hrenewed ds hds]
  exact hrecomputes

/-! ## 4. A detector that comes too late -/

/-- A detector for cameras. -/
def lens : Detector := .ofNeedle "lens" ["js"] "camera" .permissions "CAMERA" none

/-- A scan of the project `Aa` at the beginning. -/
def firstScan : Call := .scan false .inOrder ⟨0, 0, 0, 0⟩

/-- The permissions in a report on the project `Aa` that a new auditor makes, with some detectors
more. -/
def permissionsWith (more : List Detector) : Option (List String) := do
  let a ← (Auditor.new threeProjects bareSettings).toOption
  let r ← (freshReport a.settings (a.detectors ++ more) threeProjects .inOrder ⟨0, 0, 0, 0⟩
      (.ofText "Aa")
    scriptsOnly).toOption
  return r.merged.permissions.toList

theorem permissionsWith_nil : permissionsWith [] = some [] := by decide +kernel

theorem permissionsWith_lens : permissionsWith [lens] = some ["CAMERA"] := by decide +kernel

/-- What a new auditor reports has these permissions. -/
theorem permissions_of_recomputes {a : Auditor}
    (ha : Auditor.new threeProjects bareSettings = .ok a) {more : List Detector}
    {permissions : List String} (hmore : permissionsWith more = some permissions) {r : Report}
    (hr : { a with detectors := a.detectors ++ more }.Recomputes threeProjects (.ofText "Aa",
      scriptsOnly) r) :
    r.merged.permissions.toList = permissions := by
  obtain ⟨r', hr', hagree⟩ := hr.2 .inOrder ⟨0, 0, 0, 0⟩
  obtain ⟨-, -, -, hstore⟩ := Auditor.new_eq_ok ha
  rw [Auditor.scanProject_of_none (a := { a with detectors := a.detectors ++ more })
    (Auditor.answerInStore?_of_empty hstore _ _ _)] at hr'
  unfold permissionsWith at hmore
  rw [ha] at hmore
  simp only [Except.toOption, hr', Option.bind_eq_bind, Option.bind_some] at hmore
  rw [hagree.permissions]
  exact Option.some.inj hmore

/-- Whoever clears the store behind the registration is told of the camera. -/
theorem report_of_registered_lens :
    ∃ a r, Auditor.new threeProjects bareSettings = .ok a ∧
      ((a.afterCalls threeProjects (.ofText "Aa") scriptsOnly [firstScan, .add lens, .clear,
        firstScan]).scanProject
        threeProjects .inOrder ⟨1, 0, 0, 0⟩ (.ofText "Aa") { scriptsOnly with force := false }).1 =
          .ok r ∧
      { a with detectors := a.detectors ++ [lens] }.Recomputes threeProjects (.ofText "Aa",
        scriptsOnly) r ∧
      r.merged.permissions.toList = ["CAMERA"] := by
  obtain ⟨a, ha⟩ := exists_bare
  obtain ⟨files, hfiles⟩ :=
    exists_requestedFiles threeProjects (.ofText "Aa") (o := scriptsOnly) rfl
  have hunforced : requestedFiles threeProjects (.ofText "Aa") { scriptsOnly with force := false } =
      .ok files :=
    hfiles
  obtain ⟨r, hr⟩ := Auditor.exists_report (a.afterCalls threeProjects (.ofText "Aa") scriptsOnly
    [firstScan, .add lens, .clear, firstScan]) .inOrder ⟨1, 0, 0, 0⟩ hunforced
  have hrecomputes :=
    (report_of_registered ha (.ofText "Aa") scriptsOnly _ false .inOrder ⟨1, 0, 0, 0⟩ hr).2
    [firstScan, .add lens] [.clear, firstScan, .scan false .inOrder ⟨1, 0, 0, 0⟩] rfl rfl (.inr rfl)
  exact ⟨a, r, ha, hr, hrecomputes, permissions_of_recomputes ha permissionsWith_lens hrecomputes⟩

/-- Whoever does not is given the report that was made before, without it. -/
theorem stored_report_without_lens :
    ∃ a r, Auditor.new threeProjects bareSettings = .ok a ∧
      ((a.afterCalls threeProjects (.ofText "Aa") scriptsOnly [firstScan, .add lens]).scanProject
        threeProjects .inOrder ⟨1, 0, 0, 0⟩ (.ofText "Aa") { scriptsOnly with force := false }).1 =
          .ok r ∧
      r.merged.permissions.toList = [] ∧
      ¬ { a with detectors := a.detectors ++ [lens] }.Recomputes threeProjects (.ofText "Aa",
        scriptsOnly) r := by
  obtain ⟨a, ha⟩ := exists_bare
  obtain ⟨-, -, hcapacity, hstore⟩ := Auditor.new_eq_ok ha
  obtain ⟨files, hfiles⟩ :=
    exists_requestedFiles threeProjects (.ofText "Aa") (o := scriptsOnly) rfl
  have hnone :=
    Auditor.answerInStore?_of_empty hstore 0 (.ofText "Aa") { scriptsOnly with force := false }
  have hfresh :
      freshReport a.settings a.detectors threeProjects .inOrder ⟨0, 0, 0, 0⟩ (.ofText "Aa")
      { scriptsOnly with force := false } = .ok _ := freshReport_eq_ok_iff.mpr ⟨files, hfiles, rfl⟩
  generalize hr : Report.ofOutcomes _ _ _ _ _ = r at hfresh
  have hstored := Auditor.store_scanProject_of_none hnone hfresh
  have hfound :
      (a.afterCalls threeProjects (.ofText "Aa") scriptsOnly [firstScan, .add lens]).answerInStore?
        1
      (.ofText "Aa") { scriptsOnly with force := false } = some r := by
    have hyoung : bareSettings.lifetime * nanosPerMilli > 1 := by decide
    show (a.scanProject threeProjects .inOrder ⟨0, 0, 0, 0⟩ (.ofText "Aa")
      { scriptsOnly with force := false }).2.store.get? 1 (scanId (.ofText "Aa") scriptsOnly) =
      some r
    rw [hstored]
    exact Store.get?_insert_of_empty hstore hcapacity hyoung
  have hrecomputes : { a with detectors := a.detectors ++ [] }.Recomputes threeProjects
      (.ofText "Aa", scriptsOnly) r := by
    rw [List.append_nil]
    exact Auditor.recomputes_of_reports ha ⟨_, _, hfresh⟩
  have hplain := permissions_of_recomputes ha permissionsWith_nil hrecomputes
  refine ⟨a, r, ha, ?_, hplain, fun hlens => ?_⟩
  · unfold Auditor.scanProject
    rw [hfound]
  · rw [permissions_of_recomputes ha permissionsWith_lens hlens] at hplain
    cases hplain

end PrivacyAudit
