import PrivacyAudit.Disk.Build
import PrivacyAudit.Proofs.Session

/-!
# When stored reports cannot be told from fresh ones

An auditor that has stored reports answers what a new auditor would answer, except for the clock and
for the order within batches, whenever it makes the report anew: the request insists, or no report
that is young enough is found under its fingerprint. A report that is found is one on the latest
request with this fingerprint for which a report was made (`session_report_recomputed`). So it is
the report on what is asked as long as different requests have different fingerprints. A fingerprint
is a number of 32 bits: the projects `Aa` and `BB` share theirs under all options (`scanId_Aa_BB`),
and whoever asks for the second, without insisting, is given the report on the first.
-/

namespace PrivacyAudit

/-! ## 1. New auditors -/

namespace Auditor

variable {a : Auditor} {d : Disk} {s : Settings}

theorem new_eq_ok (h : Auditor.new d s = .ok a) :
    a.settings = s ∧ 0 < s.batchSize ∧ 0 < s.capacity ∧
      a.store = .empty (s.lifetime * nanosPerMilli) s.capacity := by
  unfold Auditor.new at h
  cases hs : s.check with
  | error fault =>
    rw [hs] at h
    cases h
  | ok s' =>
    obtain ⟨rfl, hbatch, hcapacity⟩ := Settings.check_eq_ok_iff.mp hs
    cases hds : builtInDetectors d s.rulesDirectory? with
    | error failure =>
      rw [hs] at h
      simp only [Except.mapError, bind, Except.bind, hds] at h
      cases h
    | ok ds =>
      rw [hs] at h
      simp only [Except.mapError, bind, Except.bind, hds] at h
      obtain rfl := Except.ok.inj h
      exact ⟨rfl, hbatch, hcapacity, rfl⟩

theorem answerInStore?_of_empty {lifetime capacity : Nat} (h : a.store = .empty lifetime capacity)
    (now : Moment) (project : Path) (o : ScanOptions) : a.answerInStore? now project o = none := by
  unfold answerInStore? storedReport Store.get?
  rw [h]
  simp [Store.empty]

/-- Without a stored answer the report is made anew. -/
theorem scanProject_of_none {schedule : Schedule} {t : Timing} {project : Path} {o : ScanOptions}
    (h : a.answerInStore? t.lookedUp project o = none) :
    (a.scanProject d schedule t project o).1 =
      freshReport a.settings a.detectors d schedule t project o := by
  unfold scanProject
  rw [h]
  cases freshReport a.settings a.detectors d schedule t project o with
  | error failure => rfl
  | ok r => rfl

/-- Where the patterns are in order, a scan answers with a report. -/
theorem exists_report (a : Auditor) {files : List SourceFile} (schedule : Schedule) (t : Timing)
    {project : Path} {o : ScanOptions} (h : requestedFiles d project o = .ok files) :
    ∃ r, (a.scanProject d schedule t project o).1 = .ok r := by
  have hfresh : freshReport a.settings a.detectors d schedule t project o = .ok _ :=
    freshReport_eq_ok_iff.mpr ⟨files, h, rfl⟩
  unfold scanProject
  rw [hfresh]
  cases a.answerInStore? t.lookedUp project o with
  | none => exact ⟨_, rfl⟩
  | some r => exact ⟨r, rfl⟩

/-- A report that is made anew is stored. -/
theorem store_scanProject_of_none {schedule : Schedule} {t : Timing} {project : Path}
    {o : ScanOptions} {r : Report} (h : a.answerInStore? t.lookedUp project o = none)
    (hr : freshReport a.settings a.detectors d schedule t project o = .ok r) :
    (a.scanProject d schedule t project o).2.store =
      a.store.insert t.stored (scanId project o) r := by
  unfold scanProject
  rw [h, hr, ← freshReport_scanId hr]

theorem Reports.projectPath {w : Wanted} {r : Report} (h : a.Reports d w r) :
    r.projectPath = w.1 := by
  obtain ⟨_, _, hfresh⟩ := h
  exact freshReport_projectPath hfresh

/-- A report is one on any request for the same project with the same normalized options. -/
theorem Reports.congr {w : Wanted} {project : Path} {o : ScanOptions} {r : Report}
    (h : a.Reports d w r) (hproject : w.1 = project) (hoptions : w.2.normalized = o.normalized) :
    a.Reports d (project, o) r := by
  obtain ⟨schedule, t, hfresh⟩ := h
  rw [hproject, freshReport_congr hoptions] at hfresh
  exact ⟨schedule, t, hfresh⟩

/-- Asked for `w`, the auditor reports what `r` says: the very same under some schedule and by some
clock, and what agrees with it whatever the schedule and the clock. -/
def Recomputes (a : Auditor) (d : Disk) (w : Wanted) (r : Report) : Prop :=
  (∃ schedule t, (a.scanProject d schedule t w.1 w.2).1 = .ok r) ∧
  ∀ schedule t, ∃ r', (a.scanProject d schedule t w.1 w.2).1 = .ok r' ∧
    r.AgreesWithin a.settings.width r'

/-- An auditor with nothing stored makes a report that it would make, and whatever it makes agrees
with it. -/
theorem recomputes_of_empty (hbatch : 0 < a.settings.batchSize) {lifetime capacity : Nat}
    (hstore : a.store = .empty lifetime capacity) {w : Wanted} {r : Report} (h : a.Reports d w r) :
    a.Recomputes d w r := by
  obtain ⟨schedule, t, hr⟩ := h
  refine ⟨⟨schedule, t, ?_⟩, fun schedule' t' => ?_⟩
  · rw [scanProject_of_none (answerInStore?_of_empty hstore _ _ _)]
    exact hr
  rw [scanProject_of_none (answerInStore?_of_empty hstore _ _ _)]
  obtain ⟨files, hfiles, _⟩ := freshReport_eq_ok_iff.mp hr
  have hr' : freshReport a.settings a.detectors d schedule' t' w.1 w.2 = .ok _ :=
    freshReport_eq_ok_iff.mpr ⟨files, hfiles, rfl⟩
  exact ⟨_, hr', freshReport_agrees hbatch hr hr'⟩

theorem recomputes_of_reports (ha : Auditor.new d s = .ok a) {w : Wanted} {r : Report}
    (h : a.Reports d w r) : a.Recomputes d w r := by
  obtain ⟨hsettings, hbatch, _, hstore⟩ := new_eq_ok ha
  exact recomputes_of_empty (hsettings ▸ hbatch) hstore h

end Auditor

/-! ## 2. Transparency -/

/-- **A session is given the report that a new auditor makes on what is asked**, if the request
insists or nothing is found under its fingerprint. Otherwise it is given what is found, and that is
the report that a new auditor makes on the latest subject of the session with this fingerprint: on
what is asked, unless this subject was another project or had other options. -/
theorem session_report_recomputed {d : Disk} {s : Settings} {a : Auditor}
    (ha : Auditor.new d s = .ok a) (requests : List Request) (schedule : Schedule) (t : Timing)
    (project : Path) (o : ScanOptions) {r : Report}
    (hr : ((a.after d requests).scanProject d schedule t project o).1 = .ok r) :
    (o.force = true ∨ (a.after d requests).storedReport t.lookedUp (scanId project o) = none →
      a.Recomputes d (project, o) r ∧ r.projectPath = project) ∧
    ∀ found, o.force = false →
      (a.after d requests).storedReport t.lookedUp (scanId project o) = some found →
      r = found ∧ ∃ w, subjectUnder (a.subjects d [] requests) (scanId project o) = some w ∧
        w.scanId = scanId project o ∧ a.Recomputes d w r ∧ r.projectPath = w.1 ∧
        (w.1 = project → w.2.normalized = o.normalized → a.Recomputes d (project, o) r) := by
  obtain ⟨_, _, _, hstore⟩ := Auditor.new_eq_ok ha
  have hp := (Auditor.provenance_of_empty d hstore).after requests
  constructor
  · intro hanew
    have hnone := Auditor.answerInStore?_eq_none_iff.mpr hanew
    rw [Auditor.scanProject_of_none hnone, hp.settings, hp.detectors] at hr
    exact ⟨Auditor.recomputes_of_reports ha ⟨schedule, t, hr⟩, freshReport_projectPath hr⟩
  · intro found hforce hfound
    have hanswer : (a.after d requests).answerInStore? t.lookedUp project o = some found := by
      rw [Auditor.answerInStore?, hforce]
      exact hfound
    obtain rfl : r = found := by
      rw [Auditor.scanProject, hanswer] at hr
      exact (Except.ok.inj hr).symm
    obtain ⟨w, hw, hreports⟩ := hp.of_storedReport hfound
    refine ⟨rfl, w, hw, (of_subjectUnder hw).2, Auditor.recomputes_of_reports ha hreports,
      hreports.projectPath, fun hproject hoptions => ?_⟩
    exact Auditor.recomputes_of_reports ha (hreports.congr hproject hoptions)

/-! ## 3. Two projects with one fingerprint -/

/-- The hash does not tell `Aa` from `BB`, and what follows it is hashed alike. -/
theorem scanId_Aa_BB (o : ScanOptions) : scanId (.ofText "Aa") o = scanId (.ofText "BB") o := by
  have hA : (Path.ofText "Aa").text = "Aa" := by decide +kernel
  have hB : (Path.ofText "BB").text = "BB" := by decide +kernel
  have hhash : rollingHash (Text.units16 "Aa") = rollingHash (Text.units16 "BB") := by
    decide +kernel
  unfold scanId hashNumeral fingerprintText
  rw [hA, hB]
  unfold rollingHash Text.units16 at hhash ⊢
  simp only [String.toList_append, List.flatMap_append, List.foldl_append, hhash]

/-- A catalog without rules. -/
def bareCatalog : String := "name = ''\nextensions = []\nrules = []\n"

/-- A disk with bare catalogs, the projects `Aa` and `BB`, and a project `Ab` with a fingerprint of
its own. -/
def threeProjects : Disk :=
  [("rules/android.toml", bareCatalog), ("rules/ios.toml", bareCatalog),
    ("rules/web.toml", bareCatalog),
    ("Aa/a.js", "camera"), ("BB/b.js", ""), ("BB/c.js", ""), ("Ab/d.js", "")].foldl
    (fun d (name, text) => d.addFile (.ofText name) (Text.encode text))
      (.fresh [Text.encode "home"])

/-- The defaults with the bare catalogs. -/
def bareSettings : Settings := { Settings.default with rulesDirectory? := some (.ofText "rules") }

/-- A request for the scripts of a directory. -/
def scriptsOnly : ScanOptions := ⟨false, some ["*.js"], some [], none⟩

/-- The same, and the request insists on a new report. -/
def insisting : ScanOptions := { scriptsOnly with force := true }

/-- A scan for the scripts of one of the projects. -/
def plainScan (project : String) : Request :=
  .scan .inOrder ⟨0, 0, 0, 0⟩ (.ofText project) scriptsOnly

theorem exists_bare : ∃ a, Auditor.new threeProjects bareSettings = .ok a :=
  exists_ok_of_isSome (by decide +kernel)

/-- A request for scripts can fail only by its pattern, and that is in order. -/
theorem exists_requestedFiles (d : Disk) (project : Path) {o : ScanOptions}
    (h : o.normalized = scriptsOnly.normalized) :
    ∃ files, requestedFiles d project o = .ok files := by
  have hsome : (WalkOptions.ofTexts? scriptsOnly.normalized.includes scriptsOnly.normalized.excludes
      scriptsOnly.normalized.maxFiles).toOption.isSome = true := by decide +kernel
  obtain ⟨walk, hwalk⟩ := exists_ok_of_isSome hsome
  rw [← h] at hwalk
  exact ⟨_, requestedFiles_of_walk hwalk⟩

/-- A session in which two projects are asked for, one of them again, and then once more. -/
def askedAgain : List Request :=
  [plainScan "Aa", .clear, plainScan "Ab", .statistics, plainScan "Aa"]

/-- Asked for `Aa` once more, the auditor answers with the report on `Aa`, and asked for `BB`, which
has the same fingerprint, with the report on `BB` if the request insists. -/
theorem session_report_recomputed_again : ∃ a r r', Auditor.new threeProjects bareSettings = .ok a ∧
    ((a.after threeProjects askedAgain).scanProject threeProjects .inOrder ⟨1, 0, 0, 0⟩
      (.ofText "Aa") scriptsOnly).1 = .ok r ∧
    a.Recomputes threeProjects (.ofText "Aa", scriptsOnly) r ∧
    ((a.after threeProjects askedAgain).scanProject threeProjects .inOrder ⟨1, 0, 0, 0⟩
      (.ofText "BB") insisting).1 = .ok r' ∧
    a.Recomputes threeProjects (.ofText "BB", insisting) r' ∧ r'.projectPath = .ofText "BB" := by
  obtain ⟨a, ha⟩ := exists_bare
  obtain ⟨files, hfiles⟩ :=
    exists_requestedFiles threeProjects (.ofText "Aa") (o := scriptsOnly) rfl
  obtain ⟨files', hfiles'⟩ :=
    exists_requestedFiles threeProjects (.ofText "BB") (o := insisting) rfl
  obtain ⟨r, hr⟩ := (a.after threeProjects askedAgain).exists_report .inOrder ⟨1, 0, 0, 0⟩ hfiles
  obtain ⟨r', hr'⟩ := (a.after threeProjects askedAgain).exists_report .inOrder ⟨1, 0, 0, 0⟩ hfiles'
  have hnew := session_report_recomputed ha askedAgain _ _ _ _ hr'
  refine ⟨a, r, r', ha, hr, ?_, hr', hnew.1 (.inl rfl)⟩
  obtain ⟨hanew, hstored⟩ := session_report_recomputed ha askedAgain _ _ _ _ hr
  cases hfound : (a.after threeProjects askedAgain).storedReport 1
      (scanId (.ofText "Aa") scriptsOnly) with
  | none => exact (hanew (.inr hfound)).1
  | some found =>
    obtain ⟨rfl, w, hw, hid, -, -, hsame⟩ := hstored found rfl hfound
    have hids : scanId (.ofText "Ab") scriptsOnly ≠ scanId (.ofText "Aa") scriptsOnly := by
      decide +kernel
    have hasked : w = (.ofText "Aa", scriptsOnly) ∨ w = (.ofText "Ab", scriptsOnly) := by
      obtain hnone | ⟨schedule, t, hscan⟩ := Auditor.scan_mem_of_mem_subjects (of_subjectUnder hw).1
      · exact absurd hnone List.not_mem_nil
      · simp only [askedAgain, plainScan, List.mem_cons, Request.scan.injEq, reduceCtorEq,
          List.not_mem_nil, false_or, or_false] at hscan
        obtain ⟨-, -, hproject, ho⟩ | ⟨-, -, hproject, ho⟩ | ⟨-, -, hproject, ho⟩ := hscan
        · exact .inl (Prod.ext hproject ho)
        · exact .inr (Prod.ext hproject ho)
        · exact .inl (Prod.ext hproject ho)
    obtain rfl | rfl := hasked
    · exact hsame rfl rfl
    · exact absurd hid hids

/-- Asked for `Aa` and then for `BB`, an auditor answers twice with the report on `Aa`. -/
theorem session_report_of_another_project :
    ∃ a r, Auditor.new threeProjects bareSettings = .ok a ∧
      ((a.after threeProjects [plainScan "Aa"]).scanProject threeProjects .inOrder ⟨0, 0, 0, 0⟩
        (.ofText "BB") scriptsOnly).1 = .ok r ∧
      r.projectPath = .ofText "Aa" ∧
      ¬ a.Recomputes threeProjects (.ofText "BB", scriptsOnly) r := by
  obtain ⟨a, ha⟩ := exists_bare
  obtain ⟨hsettings, _, _, hstore⟩ := Auditor.new_eq_ok ha
  obtain ⟨files, hfiles⟩ :=
    exists_requestedFiles threeProjects (.ofText "Aa") (o := scriptsOnly) rfl
  have hfresh : ∃ r, freshReport a.settings a.detectors threeProjects .inOrder ⟨0, 0, 0, 0⟩
      (.ofText "Aa") scriptsOnly = .ok r := ⟨_, freshReport_eq_ok_iff.mpr ⟨files, hfiles, rfl⟩⟩
  obtain ⟨r, hr⟩ := hfresh
  have hpath : r.projectPath = .ofText "Aa" := freshReport_projectPath hr
  have hstored : (a.after threeProjects [plainScan "Aa"]).store =
      a.store.insert 0 (scanId (.ofText "Aa") scriptsOnly) r := by
    unfold plainScan
    rw [Auditor.after_scan]
    exact Auditor.store_scanProject_of_none (Auditor.answerInStore?_of_empty hstore _ _ _) hr
  have hfound :
      (a.after threeProjects [plainScan "Aa"]).answerInStore? 0 (.ofText "BB") scriptsOnly =
      some r := by
    show (a.after threeProjects [plainScan "Aa"]).store.get? 0 (scanId (.ofText "BB") scriptsOnly) =
      some r
    rw [hstored, ← scanId_Aa_BB, hstore]
    refine Store.get?_insert ?_ (by decide)
    have hsize : (∅ : Std.HashMap String (Stored Report)).size = 0 := Std.HashMap.size_empty
    have hle := Std.HashMap.size_insert_le (m := (∅ : Std.HashMap String (Stored Report)))
      (k := scanId (.ofText "Aa") scriptsOnly) (v := ⟨r, 0⟩)
    have hcapacity : bareSettings.capacity = 100 := rfl
    show (Std.HashMap.insert ∅ _ _).size ≤ bareSettings.capacity
    omega
  refine ⟨a, r, ha, ?_, hpath, fun hrec => ?_⟩
  · unfold Auditor.scanProject
    rw [hfound]
  · obtain ⟨r', hr', hagree⟩ := hrec.2 .inOrder ⟨0, 0, 0, 0⟩
    rw [Auditor.scanProject_of_none (Auditor.answerInStore?_of_empty hstore _ _ _)] at hr'
    have hpath' : r'.projectPath = .ofText "BB" := freshReport_projectPath hr'
    have hsame : Path.ofText "Aa" = .ofText "BB" := by rw [← hpath, hagree.projectPath, hpath']
    exact absurd hsame (by decide)

end PrivacyAudit
