import PrivacyAudit.Proofs.Contributions
import PrivacyAudit.Proofs.History

/-!
# Scans that fail

A scan fails for its patterns only: if no stored report answers it and a pattern is refused, the
first of them in the order of the include patterns and then the exclude patterns
(`Glob.FirstRefused`). Then nothing has happened: the auditor is the one that it was, and whatever
follows is answered as if the scan had not been asked for.

Nothing that comes of looking at the files makes a scan fail, whatever the machine answers when they
are read (`Auditor.scanProjectReading`) and whatever the detectors do: a file that is left out has a
warning in the report (`Auditor.exists_warned_report`).
-/

namespace PrivacyAudit

/-! ## 1. The first pattern that is refused -/

namespace Glob

/-- The refusal is that of the first text that spells out no glob. -/
def FirstRefused (texts : List String) (refusal : Refusal) : Prop :=
  ∃ before after, texts = before ++ refusal.text :: after ∧
  (∀ text ∈ before, ∃ g, ofText? text = .ok g) ∧ ofText? refusal.text = .error refusal

/-- A refusal names the text that is refused. -/
theorem text_of_refused {text : String} {refusal : Refusal} (h : ofText? text = .error refusal) :
    refusal.text = text := by
  unfold ofText? at h
  simp only at h
  split at h
  · cases h
  · obtain rfl := Except.error.inj h
    rfl

theorem ofTexts?_cons_of_error {text : String} {texts : List String} {refusal : Refusal}
    (h : ofText? text = .error refusal) : ofTexts? (text :: texts) = .error refusal := by
  rw [ofTexts?, h]
  rfl

theorem ofTexts?_cons_of_ok {text : String} {texts : List String} {g : Glob}
    (h : ofText? text = .ok g) : ofTexts? (text :: texts) = (ofTexts? texts).map (g :: ·) := by
  rw [ofTexts?, h]
  cases ofTexts? texts with
  | error refusal => rfl
  | ok gs => rfl

theorem ofTexts?_append (first second : List String) :
    ofTexts? (first ++ second) = (ofTexts? first).bind fun gs =>
    (ofTexts? second).map (gs ++ ·) := by
  induction first with
  | nil =>
    rw [List.nil_append, ofTexts?]
    cases ofTexts? second with
    | error refusal => rfl
    | ok gs => rfl
  | cons text first ih =>
    rw [List.cons_append]
    cases h : ofText? text with
    | error refusal =>
      rw [ofTexts?_cons_of_error h, ofTexts?_cons_of_error h]
      rfl
    | ok g =>
      rw [ofTexts?_cons_of_ok h, ofTexts?_cons_of_ok h, ih]
      cases ofTexts? first with
      | error refusal => rfl
      | ok gs =>
        cases ofTexts? second with
        | error refusal => rfl
        | ok gs' => rfl

/-- Of several texts the first that is refused is reported. -/
theorem ofTexts?_eq_error_iff {texts : List String} {refusal : Refusal} :
    ofTexts? texts = .error refusal ↔ FirstRefused texts refusal := by
  constructor
  · intro h
    induction texts with
    | nil => cases h
    | cons text texts ih =>
      cases htext : ofText? text with
      | error refusal' =>
        rw [ofTexts?_cons_of_error htext] at h
        obtain rfl := Except.error.inj h
        have hnamed := text_of_refused htext
        exact ⟨[], texts, by rw [hnamed,
          List.nil_append], fun _ hnone => absurd hnone List.not_mem_nil, hnamed ▸ htext⟩
      | ok g =>
        rw [ofTexts?_cons_of_ok htext] at h
        have hrest : ofTexts? texts = .error refusal := by
          cases hrest : ofTexts? texts with
          | error refusal' =>
            rw [hrest] at h
            exact congrArg Except.error (Except.error.inj h)
          | ok gs =>
            rw [hrest] at h
            cases h
        -- What is refused first among the rest is refused first of all, for the text in front is in
        -- order.
        obtain ⟨before, after, rfl, hbefore, hrefused⟩ := ih hrest
        refine ⟨text :: before, after, rfl, fun earlier hearlier => ?_, hrefused⟩
        rcases List.mem_cons.mp hearlier with rfl | hlater
        · exact ⟨g, htext⟩
        · exact hbefore earlier hlater
  · intro h
    obtain ⟨before, after, rfl, hbefore, hrefused⟩ := h
    induction before with
    | nil => exact ofTexts?_cons_of_error hrefused
    | cons text before ih =>
      obtain ⟨g, hg⟩ := hbefore text List.mem_cons_self
      have hrest := ih fun earlier hearlier => hbefore earlier (List.mem_cons_of_mem text hearlier)
      rw [List.cons_append, ofTexts?_cons_of_ok hg, hrest]
      rfl

/-- Several texts spell out the globs that they spell out one by one. -/
theorem ofTexts?_eq_ok_iff {texts : List String} {gs : List Glob} :
    ofTexts? texts = .ok gs ↔ texts.map ofText? = gs.map .ok := by
  induction texts generalizing gs with
  | nil => cases gs <;> simp [ofTexts?]
  | cons text texts ih =>
    cases htext : ofText? text with
    | error refusal => cases gs <;> simp [ofTexts?_cons_of_error htext, htext]
    | ok g =>
      rw [ofTexts?_cons_of_ok htext]
      cases gs with
      | nil => cases ofTexts? texts <;> simp [Except.map]
      | cons g' gs =>
        rw [List.map_cons, List.map_cons, List.cons.injEq, htext, ← ih]
        cases ofTexts? texts <;> simp [Except.map]

/-- If some text is refused, there is a first one. -/
theorem exists_firstRefused_iff {texts : List String} :
    (∃ refusal, FirstRefused texts refusal) ↔ ∃ text ∈ texts, ∃ refusal,
    ofText? text = .error refusal := by
  constructor
  · intro h
    obtain ⟨refusal, before, after, rfl, -, hrefused⟩ := h
    exact ⟨refusal.text, List.mem_append_right before List.mem_cons_self, refusal, hrefused⟩
  · intro h
    obtain ⟨text, hmem, hrefused⟩ := h
    induction texts with
    | nil => cases hmem
    | cons first texts ih =>
      cases hfirst : ofText? first with
      | error refusal => exact ⟨refusal, ofTexts?_eq_error_iff.mp (ofTexts?_cons_of_error hfirst)⟩
      | ok g =>
        rcases List.mem_cons.mp hmem with rfl | hrest
        · obtain ⟨refusal, hrefused⟩ := hrefused
          rw [hfirst] at hrefused
          cases hrefused
        · obtain ⟨refusal, hlater⟩ := ih hrest
          have herror : ofTexts? (first :: texts) = .error refusal := by
            rw [ofTexts?_cons_of_ok hfirst, ofTexts?_eq_error_iff.mpr hlater]
            rfl
          exact ⟨refusal, ofTexts?_eq_error_iff.mp herror⟩

end Glob

/-- The include patterns come before the exclude patterns. -/
theorem WalkOptions.ofTexts?_eq_error_iff {includes excludes : List String} {maxFiles : Nat}
    {refusal : Glob.Refusal} : WalkOptions.ofTexts? includes excludes maxFiles = .error refusal ↔
      Glob.FirstRefused (includes ++ excludes) refusal := by
  rw [← Glob.ofTexts?_eq_error_iff, Glob.ofTexts?_append]
  unfold WalkOptions.ofTexts?
  cases Glob.ofTexts? includes with
  | error refusal' => simp [bind, Except.bind]
  | ok gs =>
    cases Glob.ofTexts? excludes with
    | error refusal' => simp [bind, Except.bind, Except.map]
    | ok gs' => simp [bind, Except.bind, Except.map, pure, Except.pure]

/-- Options have the globs that their texts spell out. -/
theorem WalkOptions.ofTexts?_eq_ok_iff {includes excludes : List String} {maxFiles : Nat}
    {o : WalkOptions} :
    WalkOptions.ofTexts? includes excludes maxFiles = .ok o ↔
      Glob.ofTexts? includes = .ok o.includes ∧ Glob.ofTexts? excludes = .ok o.excludes ∧
      maxFiles = o.maxFiles := by
  obtain ⟨gs, gs', most⟩ := o
  unfold WalkOptions.ofTexts?
  cases Glob.ofTexts? includes with
  | error refusal => simp [bind, Except.bind]
  | ok gs =>
    cases Glob.ofTexts? excludes with
    | error refusal => simp [bind, Except.bind]
    | ok gs' => simp [bind, Except.bind, pure, Except.pure]

/-- A request is refused for the first of its patterns that is, and for nothing else. -/
theorem requestedFiles_eq_error_iff {d : Disk} {project : Path} {o : ScanOptions}
    {failure : Failure} :
    requestedFiles d project o = .error failure ↔
      ∃ refusal, Glob.FirstRefused (o.normalized.includes ++ o.normalized.excludes) refusal ∧
        failure = .glob refusal := by
  simp only [← @WalkOptions.ofTexts?_eq_error_iff _ _ o.normalized.maxFiles]
  cases hwalk :
    WalkOptions.ofTexts? o.normalized.includes o.normalized.excludes o.normalized.maxFiles with
  | error refusal =>
    have hrefused : requestedFiles d project o = .error (.glob refusal) := by
      simp only [requestedFiles, hwalk]
      rfl
    rw [hrefused]
    constructor
    · intro h
      exact ⟨refusal, rfl, (Except.error.inj h).symm⟩
    · intro h
      obtain ⟨refusal', hsame, rfl⟩ := h
      rw [Except.error.inj hsame]
  | ok walk =>
    rw [requestedFiles_of_walk hwalk]
    constructor
    · intro h
      cases h
    · intro h
      obtain ⟨refusal, hsame, -⟩ := h
      cases hsame

/-! ## 2. Files that are read at their turn -/

section Reading

variable {a : Auditor} {read : SourceFile → Reading} {d : Disk} {schedule : Schedule} {t : Timing}
  {project : Path} {o : ScanOptions}

/-- **When a scan fails**: no stored report answers it, and one of its patterns is refused; what it
says is which was the first of these. -/
theorem Auditor.scanProjectReading_eq_error_iff {failure : Failure} :
    (a.scanProjectReading read d schedule t project o).1 = .error failure ↔
      a.answerInStore? t.lookedUp project o = none ∧
        ∃ refusal, Glob.FirstRefused (o.normalized.includes ++ o.normalized.excludes) refusal ∧
          failure = .glob refusal := by
  rw [← @requestedFiles_eq_error_iff d project, ← freshReportReading_eq_error_iff]
  unfold scanProjectReading
  cases a.answerInStore? t.lookedUp project o with
  | some r => simp
  | none =>
    cases freshReportReading read a.settings a.detectors d schedule t project o with
    | error failure' => simp
    | ok r => simp

/-- A scan that fails leaves the auditor as it was. -/
theorem Auditor.scanProjectReading_unchanged {failure : Failure}
    (h : (a.scanProjectReading read d schedule t project o).1 = .error failure) :
    (a.scanProjectReading read d schedule t project o).2 = a := by
  unfold scanProjectReading at h ⊢
  cases hanswer : a.answerInStore? t.lookedUp project o with
  | some r => rfl
  | none =>
    rw [hanswer] at h
    cases hfresh : freshReportReading read a.settings a.detectors d schedule t project o with
    | error failure' => rfl
    | ok r =>
      rw [hfresh] at h
      cases h

/-- Contents are left out if they look like no text or are none. -/
theorem inspect_none_eq_error_iff {ds : List Detector} {f : SourceFile} {fault : FileFault} :
    inspect ds none f = .error fault ↔
      (looksBinary f.data = true ∨ Text.decode? f.data = none) ∧ fault = .undecodable f.path := by
  have hrefused : ∀ {p : Prop}, p → ((.error (.undecodable f.path) : Outcome) = .error fault ↔
      p ∧ fault = .undecodable f.path) := by
    intro p hp
    rw [Except.error.injEq, eq_comm, and_iff_right hp]
  unfold inspect
  rw [Option.filter_none]
  by_cases hbinary : looksBinary f.data = true
  · rw [if_pos hbinary]
    exact hrefused (.inl hbinary)
  · rw [if_neg hbinary]
    cases Text.decode? f.data with
    | none => exact hrefused (.inr rfl)
    | some content => simp [hbinary]

/-- **Which files are left out**: those whose size is too large or not to be had, those whose
contents are not to be had, and those that look like no text or are none. -/
theorem inspectReading_eq_error_iff {ds : List Detector} {sizeLimit? : Option Nat}
    {reading : Reading} {f : SourceFile} {fault : FileFault} :
    inspectReading ds sizeLimit? reading f = .error fault ↔
      reading.sizeFault? sizeLimit? f.path = some fault ∨
      reading.sizeFault? sizeLimit? f.path = none ∧
        ((∃ reason, reading.data = .error reason ∧ fault = .unreadable f.path reason) ∨
          ∃ data, reading.data = .ok data ∧ (looksBinary data = true ∨ Text.decode? data = none) ∧
            fault = .undecodable f.path) := by
  unfold inspectReading
  cases reading.sizeFault? sizeLimit? f.path with
  | some fault' => simp
  | none =>
    cases reading.data with
    | error reason => simp only [Except.error.injEq, reduceCtorEq, false_or, true_and, false_and,
        exists_false, or_false, exists_eq_left', eq_comm]
    | ok data => simp [inspect_none_eq_error_iff]

/-- The outcomes are those of the files in order, up to the order within batches. -/
theorem outcomesReading_perm {s : Settings} (hs : 0 < s.batchSize) (ds : List Detector)
    (files : List SourceFile) : (outcomesReading read s ds schedule files).Perm
      (runInOrder (fun f => inspectReading ds s.sizeLimit? (read f) f) files) := by
  have hshuffled :=
    Settings.run_shuffled hs schedule (fun f => inspectReading ds s.sizeLimit? (read f) f) files
  have hperm := hshuffled.perm
  rwa [flatten_batches (Settings.width_pos hs)] at hperm

/-- What comes of each file is among the outcomes, however the files are looked at. -/
theorem mem_outcomesReading {s : Settings} (hs : 0 < s.batchSize) {ds : List Detector}
    {files : List SourceFile} {number : Nat} {f : SourceFile} (hf : files[number]? = some f) :
    (number, inspectReading ds s.sizeLimit? (read f) f) ∈
    outcomesReading read s ds schedule files := by
  rw [(outcomesReading_perm hs ds files).mem_iff]
  exact (mem_runInOrder_iff _ _).mpr ⟨f, hf, rfl⟩

/-- **A file that is left out has a warning** in the report. -/
theorem Auditor.exists_warned_report (hbatch : 0 < a.settings.batchSize)
    (hnone : a.answerInStore? t.lookedUp project o = none) {files : List SourceFile}
    (hfiles : requestedFiles d project o = .ok files) :
    ∃ r, (a.scanProjectReading read d schedule t project o).1 = .ok r ∧
    r.totalFiles = files.length ∧
      ∀ f ∈ files, ∀ fault, inspectReading a.detectors a.settings.sizeLimit? (read f) f =
        .error fault → warning f fault ∈ r.warnings := by
  have hfresh : freshReportReading read a.settings a.detectors d schedule t project o =
      .ok (.ofOutcomes (scanId project o) project t files
        (outcomesReading read a.settings a.detectors schedule files)) :=
    freshReportReading_eq_ok_iff.mpr ⟨files, hfiles, rfl⟩
  refine ⟨_, (scanProjectReading_of_unanswered hnone read d schedule).trans hfresh, rfl,
    fun f hf fault hfault => ?_⟩
  obtain ⟨number, hnumber⟩ := List.mem_iff_getElem?.mp hf
  have hmem : (number, inspectReading a.detectors a.settings.sizeLimit? (read f) f) ∈
      outcomesReading read a.settings a.detectors schedule files :=
      mem_outcomesReading hbatch hnumber
  refine List.mem_filterMap.mpr ⟨_, hmem, ?_⟩
  simp only [hnumber, hfault]

end Reading

/-! ## 3. Nothing has happened -/

/-- **What a scan that fails leaves behind**: nothing. -/
structure FailsAtomically (a : Auditor) (d : Disk) (schedule : Schedule) (t : Timing)
    (project : Path) (o : ScanOptions) : Prop where
  /-- It fails exactly if no stored report answers it and some pattern is refused. -/
  fails_iff : (∃ failure, (a.scanProject d schedule t project o).1 = .error failure) ↔
    (o.force = true ∨ a.storedReport t.lookedUp (scanId project o) = none) ∧
      ∃ text ∈ o.normalized.includes ++ o.normalized.excludes, ∃ refusal,
        Glob.ofText? text = .error refusal
  /-- It names the first of these, in the order of the include patterns and then the exclude
  patterns. -/
  names_first : ∀ failure, (a.scanProject d schedule t project o).1 = .error failure →
    ∃ refusal, Glob.FirstRefused (o.normalized.includes ++ o.normalized.excludes) refusal ∧
    failure = .glob refusal
  /-- It leaves the auditor as it was. -/
  unchanged : ∀ failure, (a.scanProject d schedule t project o).1 = .error failure →
    (a.scanProject d schedule t project o).2 = a
  /-- Whatever follows is answered as if it had not been asked for. -/
  forgotten : ∀ failure, (a.scanProject d schedule t project o).1 = .error failure → ∀ events,
    a.replies (.scan d schedule t project o :: events) =
      .answer (.report (.error failure)) :: a.replies events
  /-- It does not matter to this what is answered when the files are read, nor what the detectors
  do. -/
  whatever_is_found : ∀ read detectors failure,
    ({ a with detectors }.scanProjectReading read d schedule t project o).1 = .error failure ↔
      (a.scanProject d schedule t project o).1 = .error failure
  /-- If it fails while files change, it leaves the auditor as it was, too. -/
  unchanged_reading : ∀ read failure,
    (a.scanProjectReading read d schedule t project o).1 = .error failure →
    (a.scanProjectReading read d schedule t project o).2 = a
  /-- For each file that is left out, the report of a scan that does not fail has a warning. -/
  warned : ∀ read files, 0 < a.settings.batchSize →
    (o.force = true ∨ a.storedReport t.lookedUp (scanId project o) = none) →
    requestedFiles d project o = .ok files →
    ∃ r, (a.scanProjectReading read d schedule t project o).1 = .ok r ∧
    r.totalFiles = files.length ∧
      ∀ f ∈ files, ∀ fault,
        inspectReading a.detectors a.settings.sizeLimit? (read f) f = .error fault →
        warning f fault ∈ r.warnings

theorem Auditor.replies_scan (a : Auditor) (d : Disk) (schedule : Schedule) (t : Timing)
    (project : Path) (o : ScanOptions) (events : List Event) :
    a.replies (.scan d schedule t project o :: events) =
      .answer (.report (a.scanProject d schedule t project o).1) ::
        (a.scanProject d schedule t project o).2.replies events := rfl

/-- **Scans fail atomically**, whatever the auditor, the disk and the request. -/
theorem scans_fail_atomically (a : Auditor) (d : Disk) (schedule : Schedule) (t : Timing)
    (project : Path) (o : ScanOptions) : FailsAtomically a d schedule t project o := by
  have hfails : ∀ failure, (a.scanProject d schedule t project o).1 = .error failure ↔
      a.answerInStore? t.lookedUp project o = none ∧
        ∃ refusal, Glob.FirstRefused (o.normalized.includes ++ o.normalized.excludes) refusal ∧
          failure = .glob refusal := by
    intro failure
    rw [← Auditor.scanProjectReading_asFound, Auditor.scanProjectReading_eq_error_iff]
  have hunchanged : ∀ failure, (a.scanProject d schedule t project o).1 = .error failure →
      (a.scanProject d schedule t project o).2 = a := by
    intro failure hfailure
    rw [← Auditor.scanProjectReading_asFound] at hfailure ⊢
    exact Auditor.scanProjectReading_unchanged hfailure
  refine ⟨?_, fun failure hfailure => ((hfails failure).mp hfailure).2, hunchanged,
    fun failure hfailure events => ?_,
    fun read detectors failure => ?_, fun _ _ => Auditor.scanProjectReading_unchanged,
    fun read files hbatch hnone hfiles => ?_⟩
  · rw [← Auditor.answerInStore?_eq_none_iff]
    constructor
    · intro h
      obtain ⟨failure, hfailure⟩ := h
      obtain ⟨hnone, refusal, hfirst, -⟩ := (hfails failure).mp hfailure
      exact ⟨hnone, Glob.exists_firstRefused_iff.mp ⟨refusal, hfirst⟩⟩
    · intro h
      obtain ⟨refusal, hfirst⟩ := Glob.exists_firstRefused_iff.mpr h.2
      exact ⟨.glob refusal, (hfails _).mpr ⟨h.1, refusal, hfirst, rfl⟩⟩
  · rw [Auditor.replies_scan, hunchanged failure hfailure, hfailure]
  · rw [hfails, Auditor.scanProjectReading_eq_error_iff]
    rfl
  · exact Auditor.exists_warned_report hbatch (Auditor.answerInStore?_eq_none_iff.mpr hnone) hfiles

/-- What is answered where there is no leave to read any file. -/
def noLeave (_ : SourceFile) : Reading := ⟨.ok 6, .error "Permission denied (os error 13)"⟩

/-- Two patterns have a brace that is not closed, and no file is asked for. The scan fails, and what
it names is the one among the include patterns. Without these patterns it makes a report, even if no
file can be read. -/
theorem scans_fail_atomically_braces :
    (∃ refusal, refusal.text = "**/*.\x7bjs" ∧
      serialAuditor.scanProject mixedScripts .inOrder ⟨0, 0, 0, 0⟩ (.ofText "work")
        ⟨false, some ["*.js", "**/*.\x7bjs"], some ["\x7b"], some 0⟩ = (.error (.glob refusal),
          serialAuditor)) ∧
    ∃ r, (serialAuditor.scanProjectReading noLeave mixedScripts .inOrder ⟨0, 0, 0, 0⟩
      (.ofText "work")
        scriptsOnly).1 = .ok r ∧
      "a.js: failed to read /home/work/a.js: Permission denied (os error 13)" ∈ r.warnings := by
  have hnothing (o : ScanOptions) : o.force = true ∨
      serialAuditor.storedReport 0 (scanId (.ofText "work") o) = none :=
    Auditor.answerInStore?_eq_none_iff.mp (Auditor.answerInStore?_of_empty rfl 0 (.ofText "work") o)
  constructor
  · have h := scans_fail_atomically serialAuditor mixedScripts .inOrder ⟨0, 0, 0, 0⟩
      (.ofText "work")
      ⟨false, some ["*.js", "**/*.\x7bjs"], some ["\x7b"], some 0⟩
    have hnamed : (Glob.ofTexts? ["*.js", "**/*.\x7bjs", "\x7b"]).mapError (·.text) =
        .error "**/*.\x7bjs" := by
      decide +kernel
    cases hglobs : Glob.ofTexts? ["*.js", "**/*.\x7bjs", "\x7b"] with
    | ok gs =>
      rw [hglobs] at hnamed
      cases hnamed
    | error refusal =>
      rw [hglobs] at hnamed
      have hfirst := Glob.ofTexts?_eq_error_iff.mp hglobs
      obtain ⟨failure, hfailure⟩ :=
        h.fails_iff.mpr ⟨hnothing _, Glob.exists_firstRefused_iff.mp ⟨refusal, hfirst⟩⟩
      obtain ⟨refusal', hfirst', rfl⟩ := h.names_first failure hfailure
      obtain rfl : refusal = refusal' :=
        Except.error.inj (hglobs.symm.trans (Glob.ofTexts?_eq_error_iff.mpr hfirst'))
      exact ⟨refusal, Except.error.inj hnamed, Prod.ext hfailure (h.unchanged _ hfailure)⟩
  · have hwalk : WalkOptions.ofTexts? ["*.js"] [] ScanOptions.defaultMaxFiles =
        .ok scriptsWalk := by
      decide +kernel
    have hfile : (scriptsWalk.collect mixedScripts (.ofText "work"))[0]? =
        some ⟨.ofText "/home/work/a.js", "a.js", "a.js", Text.encode "camera"⟩ := by
      decide +kernel
    have hfault : inspectReading serialAuditor.detectors (some 8)
        (noLeave ⟨.ofText "/home/work/a.js", "a.js", "a.js", Text.encode "camera"⟩)
        ⟨.ofText "/home/work/a.js", "a.js", "a.js", Text.encode "camera"⟩ =
          .error (.unreadable (.ofText "/home/work/a.js") "Permission denied (os error 13)") :=
      inspectReading_eq_error_iff.mpr (.inr ⟨rfl, .inl ⟨_, rfl, rfl⟩⟩)
    obtain ⟨r, hr, -, hwarned⟩ :=
      (scans_fail_atomically serialAuditor mixedScripts .inOrder ⟨0, 0, 0, 0⟩
        (.ofText "work") scriptsOnly).warned noLeave _ (by decide) (hnothing _)
        (requestedFiles_of_walk hwalk)
    refine ⟨r, hr, ?_⟩
    have hwarning := hwarned _ (List.mem_of_getElem? hfile) _ hfault
    have hwords : warning ⟨.ofText "/home/work/a.js", "a.js", "a.js", Text.encode "camera"⟩
        (.unreadable (.ofText "/home/work/a.js") "Permission denied (os error 13)") =
          "a.js: failed to read /home/work/a.js: Permission denied (os error 13)" := by
      decide +kernel
    rwa [hwords] at hwarning

end PrivacyAudit
