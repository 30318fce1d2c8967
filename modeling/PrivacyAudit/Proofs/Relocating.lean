import PrivacyAudit.Proofs.Mentioning
import PrivacyAudit.Proofs.Parallel
import PrivacyAudit.Proofs.Refusing
import PrivacyAudit.Proofs.Routing

/-!
# The same tree somewhere else

A project is walked through by the names below its root, but what is done with a file is told its
whole path. Here the same tree stands below two roots. The built-in detectors look at a path for the
name that it ends with and for whether its text mentions build scripts, so

* `Detector.IsBuiltIn.ignoresPlace`: they find the same at paths that look alike, up to the path in
  the finding;
* `inspectReading_placed`: so the same comes of a file, up to the path in findings and faults;
* `Settings.outcomes_eq_turns`: the order in which files are done does not depend on what is done
  with them.

A root whose own text does not mention build scripts adds nothing to how paths look, whatever its
name is (`Path.looksLike_joinAll`). So the reports differ in the paths that warnings give and in
nothing else that is told of the files (`scans_relocate`).
-/

namespace PrivacyAudit

/-! ## 1. Findings at another path -/

/-- The finding at another path. -/
def Finding.placed (path : Path) (f : Finding) : Finding := { f with path }

/-- The fault at another path. -/
def FileFault.placed (path : Path) : FileFault → FileFault
  | .unreadable _ reason => .unreadable path reason
  | .tooLarge _ size limit => .tooLarge path size limit
  | .undecodable _ => .undecodable path

/-- What comes of a file at another path. -/
def Outcome.placed (path : Path) : Outcome → Outcome
  | .ok found => .ok (found.map (·.placed path))
  | .error fault => .error (fault.placed path)

/-- Two paths that detectors cannot tell apart: they end with the same name, and build scripts are
mentioned in both or in neither. -/
structure Path.LooksLike (p p' : Path) : Prop where
  fileName : p'.fileNameText = p.fileNameText
  gradle : isGradlePath p' = isGradlePath p

theorem Path.LooksLike.refl (p : Path) : p.LooksLike p := ⟨rfl, rfl⟩

theorem Finding.push_placed (path : Path) (f : Finding) (c : Category) (tag : String) :
    (f.placed path).push c tag = (f.push c tag).placed path := by
  cases c <;> rfl

theorem Rule.apply_placed (r : Rule) (fileName : String) (text : List Char) (path : Path)
    (f : Finding) :
    r.apply fileName text (f.placed path) = (r.apply fileName text f).placed path := by
  unfold apply
  split
  · exact f.push_placed path r.category r.tag
  · rfl

/-- A catalog asks a path for the name that it ends with, and for nothing else. -/
theorem Catalog.apply_placed (cat : Catalog) (text : List Char) {p p' : Path} (h : p.LooksLike p')
    (f : Finding) : cat.apply text p' (f.placed p') = (cat.apply text p f).placed p' := by
  unfold apply
  rw [h.fileName]
  generalize cat.rules = rules
  induction rules generalizing f with
  | nil => rfl
  | cons r rules ih =>
    rw [List.foldl_cons, List.foldl_cons, r.apply_placed]
    exact ih _

/-- What a catalog finds at paths that look alike. -/
theorem Catalog.found_placed (cat : Catalog) (text : List Char) {p p' : Path} (h : p.LooksLike p') :
    cat.apply text p' (.empty cat.name p') = (cat.apply text p (.empty cat.name p)).placed p' :=
  cat.apply_placed text h (.empty cat.name p)

theorem addAnalyticsService_placed (path : Path) (f : Finding) :
    addAnalyticsService (f.placed path) = (addAnalyticsService f).placed path := by
  have hservices : (f.placed path).thirdPartyServices = f.thirdPartyServices := rfl
  have htracking : (f.placed path).tracking = f.tracking := rfl
  unfold addAnalyticsService
  rw [hservices, htracking]
  split <;> rfl

theorem addFileContents_placed (fileName : String) (text : List Char) (path : Path) (f : Finding) :
    addFileContents fileName text (f.placed path) =
      (addFileContents fileName text f).placed path := by
  unfold addFileContents
  split <;> split <;> rfl

theorem Finding.push_if_placed {p : Prop} [Decidable p] (path : Path) (f : Finding) (c : Category)
    (tag : String) :
    (if p then (f.placed path).push c tag else f.placed path) =
      (if p then f.push c tag else f).placed path := by
  split
  · exact f.push_placed path c tag
  · rfl

theorem addPermissions_placed (path : Path) (f : Finding) :
    addPermissions (f.placed path) = (addPermissions f).placed path := by
  have hcamera :=
    f.push_if_placed (p := f.webApis.contains "CAMERA" = true) path .permissions "CAMERA"
  have hapis : (f.placed path).webApis = f.webApis := rfl
  unfold addPermissions
  simp only [hapis, hcamera]
  exact Finding.push_if_placed _ _ _ _

/-! ## 2. Detectors -/

namespace Detector

/-- The detector finds the same at paths that look alike, up to the path in the finding. -/
def IgnoresPlace (d : Detector) : Prop :=
  ∀ content p p', p.LooksLike p' → d.scan content p' = (d.scan content p).map (·.placed p')

/-- The detectors that come with the audit, whatever their catalogs are. -/
inductive IsBuiltIn : Detector → Prop
  | android (cat : Catalog) : IsBuiltIn (.android cat)
  | ios (cat : Catalog) : IsBuiltIn (.ios cat)
  | web (cat : Catalog) : IsBuiltIn (.web cat)

/-- **The built-in detectors find the same at paths that look alike.** -/
theorem IsBuiltIn.ignoresPlace {d : Detector} (hd : d.IsBuiltIn) : d.IgnoresPlace := by
  intro content p p' h
  cases hd with
  | android cat =>
    simp only [Detector.android, Option.map_some, cat.found_placed content.toList h, h.gradle]
    split <;> rfl
  | ios cat =>
    simp only [Detector.ios, Option.map_some, cat.found_placed content.toList h, h.fileName]
    split <;> rfl
  | web cat =>
    simp only [Detector.web, Option.map_some, cat.found_placed content.toList h, h.fileName,
      addAnalyticsService_placed, addFileContents_placed, addPermissions_placed]

theorem isBuiltIn_of_mem_builtInDetectors {d : Disk} {rulesDirectory? : Option Path}
    {ds : List Detector} (h : Auditor.builtInDetectors d rulesDirectory? = .ok ds) :
    ∀ detector ∈ ds, detector.IsBuiltIn := by
  unfold Auditor.builtInDetectors at h
  cases handroid : Catalog.loadOr Catalog.androidText d rulesDirectory? Auditor.androidFileName with
  | error failure => simp [handroid, bind, Except.bind] at h
  | ok android =>
    cases hios : Catalog.loadOr Catalog.iosText d rulesDirectory? Auditor.iosFileName with
    | error failure => simp [handroid, hios, bind, Except.bind] at h
    | ok ios =>
      cases hweb : Catalog.loadOr Catalog.webText d rulesDirectory? Auditor.webFileName with
      | error failure => simp [handroid, hios, hweb, bind, Except.bind] at h
      | ok web =>
        simp only [handroid, hios, hweb] at h
        obtain rfl := Except.ok.inj h
        simp only [List.forall_mem_cons, List.not_mem_nil, false_implies, implies_true, and_true]
        exact ⟨.android android, .ios ios, .web web⟩

/-- What a detector adds to the findings of a file. -/
theorem IgnoresPlace.contribution {d : Detector} (hd : d.IgnoresPlace) (content : String)
    {p p' : Path} (h : p.LooksLike p') :
    d.contribution content p' = (d.contribution content p).map (·.placed p') := by
  unfold Detector.contribution
  rw [hd content p p' h]
  cases d.scan content p with
  | none => rfl
  | some found =>
    have hsignal : (found.placed p').hasSignal = found.hasSignal := rfl
    rw [Option.map_some, Option.filter_some, Option.filter_some, hsignal]
    split <;> rfl

end Detector

/-- The detectors that an auditor begins with are built in, whatever its settings are. -/
theorem Auditor.isBuiltIn_of_new {d : Disk} {s : Settings} {a : Auditor}
    (h : Auditor.new d s = .ok a) : ∀ detector ∈ a.detectors, detector.IsBuiltIn := by
  unfold Auditor.new at h
  cases hs : s.check with
  | error fault => simp [hs, Except.mapError, bind, Except.bind] at h
  | ok s' =>
    cases hds : builtInDetectors d s'.rulesDirectory? with
    | error failure => simp [hs, hds, Except.mapError, bind, Except.bind] at h
    | ok ds =>
      simp only [hs, hds, Except.mapError, bind, Except.bind] at h
      obtain rfl := Except.ok.inj h
      exact Detector.isBuiltIn_of_mem_builtInDetectors hds

section Files

variable {ds : List Detector} (hds : ∀ detector ∈ ds, detector.IgnoresPlace)

include hds in
theorem scanContent_placed (content : String) {p p' : Path} (h : p.LooksLike p') :
    scanContent ds content p' = (scanContent ds content p).map (·.placed p') := by
  unfold scanContent
  rw [h.fileName, List.map_filterMap]
  refine List.filterMap_congr fun detector hdetector => ?_
  exact (hds detector (List.mem_of_mem_filter hdetector)).contribution content h

theorem Reading.sizeFault?_placed (reading : Reading) (sizeLimit? : Option Nat) (p p' : Path) :
    reading.sizeFault? sizeLimit? p' = (reading.sizeFault? sizeLimit? p).map (·.placed p') := by
  unfold sizeFault?
  split
  · rfl
  · rfl
  · split <;> rfl

include hds in
/-- What comes of the text of a file. -/
theorem inspect_none_placed (data : Bytes) {f f' : SourceFile} (h : f.path.LooksLike f'.path) :
    inspect ds none { f' with data } = (inspect ds none { f with data }).placed f'.path := by
  simp only [inspect, Option.filter_none, scanContent_placed hds _ h]
  split
  · rfl
  · split <;> rfl

include hds in
/-- **The same comes of a file at paths that look alike**, up to the path in findings and faults. -/
theorem inspectReading_placed (sizeLimit? : Option Nat) (reading : Reading) {f f' : SourceFile}
    (h : f.path.LooksLike f'.path) :
    inspectReading ds sizeLimit? reading f' =
      (inspectReading ds sizeLimit? reading f).placed f'.path := by
  unfold inspectReading
  rw [reading.sizeFault?_placed sizeLimit? f.path f'.path]
  cases reading.sizeFault? sizeLimit? f.path with
  | some fault => rfl
  | none =>
    cases reading.data with
    | error reason => rfl
    | ok data => exact inspect_none_placed hds data h

end Files

/-! ## 3. The order in which files are done -/

section Turns

variable {α β γ : Type}

theorem Schedule.arrange_map (schedule : Schedule) (f : α → β) (batch : Nat) (results : List α) :
    schedule.arrange batch (results.map f) = (schedule.arrange batch results).map f := by
  unfold arrange
  rw [List.length_map, List.map_filterMap]
  refine List.filterMap_congr fun number _ => ?_
  exact List.getElem?_map

/-- A schedule puts the pieces in an order, whatever is done with them. -/
theorem Schedule.runFrom_map (schedule : Schedule) (size : Nat) (g : α → β) (work : β → γ)
    (batch : Nat) (parts : List (List α)) :
    schedule.runFrom size work batch (parts.map (List.map g)) =
      (schedule.runFrom size id batch parts).map fun turn => (turn.1, work (g turn.2)) := by
  induction parts generalizing batch with
  | nil => rfl
  | cons part parts ih =>
    rw [List.map_cons, runFrom, ih, runFrom, List.map_append, ← arrange_map, List.zipIdx_map,
      List.map_map, List.map_map]
    rfl

theorem runInOrder_map (g : α → β) (work : β → γ) (pieces : List α) :
    runInOrder work (pieces.map g) = (runInOrder id pieces).map fun turn =>
    (turn.1, work (g turn.2)) := by
  unfold runInOrder
  rw [List.zipIdx_map, List.map_map, List.map_map]
  rfl

/-- The pieces in the order in which they are done, each with its number. -/
def Settings.turns (s : Settings) (schedule : Schedule) (pieces : List α) : List (Nat × α) :=
  if s.parallel && pieces.length > 1 then schedule.run s.batchSize id pieces
    else runInOrder id pieces

variable {s : Settings} (hs : 0 < s.batchSize) {schedule : Schedule} {read : SourceFile → Reading}
  {ds : List Detector}

include hs in
/-- **The order in which files are done does not depend on what is done with them.** -/
theorem Settings.outcomes_eq_turns (place : α → SourceFile) (pieces : List α) :
    outcomesReading read s ds schedule (pieces.map place) =
      (s.turns schedule pieces).map fun turn =>
      (turn.1, inspectReading ds s.sizeLimit? (read (place turn.2)) (place turn.2)) := by
  unfold outcomesReading turns
  rw [List.length_map]
  simp only
  split
  · rw [Schedule.run, batches_map hs]
    exact schedule.runFrom_map _ place _ 0 _
  · exact runInOrder_map place _ pieces

include hs in
/-- Each piece has its own number. -/
theorem Settings.getElem?_of_mem_turns {pieces : List α} {turn : Nat × α}
    (h : turn ∈ s.turns schedule pieces) : pieces[turn.1]? = some turn.2 := by
  have hperm := (Settings.run_shuffled hs schedule id pieces).perm
  rw [flatten_batches (Settings.width_pos hs)] at hperm
  obtain ⟨piece, hpiece, hturn⟩ := (mem_runInOrder_iff id pieces).mp (hperm.mem_iff.mp h)
  rw [hpiece, hturn]
  rfl

end Turns

/-! ## 4. Reports -/

theorem Merged.ofFindings_placed (path : Path) (fs : List Finding) :
    ofFindings (fs.map (·.placed path)) = ofFindings fs := by
  unfold ofFindings
  rw [List.foldl_map]
  rfl

theorem Outcome.findings_placed (path : Path) (outcome : Outcome) :
    (outcome.placed path).findings = outcome.findings.map (·.placed path) := by
  cases outcome <;> rfl

/-- The warning about a file that was left out, by the names that lead to it from a root. -/
def warningBelow (root : Path) (left : List Name × FileFault) : String :=
  relativeText left.1 ++ ": " ++ (left.2.placed (root.joinAll left.1)).message

/-- A report says of files below a root what another says of the same files below another root. -/
structure Report.MovesTo (root root' : Path) (r r' : Report) : Prop where
  totalFiles : r'.totalFiles = r.totalFiles
  filesScanned : r'.filesScanned = r.filesScanned
  merged : r'.merged = r.merged
  summary : r'.summary = r.summary
  /-- The warnings are about the same files in the same order, and differ in the path of the file
  only. -/
  warnings : ∃ left : List (List Name × FileFault),
    r.warnings = left.map (warningBelow root) ∧ r'.warnings = left.map (warningBelow root')

/-- The file with the reason why it was left out, if it was. -/
def leftOut? (f : FileBelow) : Outcome → Option (List Name × FileFault)
  | .ok _ => none
  | .error fault => some (f.1, fault)

section Reports

variable {below : List FileBelow} {turns : List (Nat × FileBelow)}
  (hturns : ∀ turn ∈ turns, below[turn.1]? = some turn.2) {root root' : Path}
  {work work' : FileBelow → Outcome}

include hturns in
theorem warningsAbout_placed
    (hwork : ∀ turn ∈ turns, work' turn.2 = (work turn.2).placed (root.joinAll turn.2.1)) :
    warningsAbout (below.map (.ofBelow root)) (turns.map fun turn => (turn.1, work' turn.2)) =
      (turns.filterMap fun turn => leftOut? turn.2 (work turn.2)).map (warningBelow root) := by
  unfold warningsAbout
  rw [List.filterMap_map, List.map_filterMap]
  refine List.filterMap_congr fun turn hturn => ?_
  have hfile : (below.map (SourceFile.ofBelow root))[turn.1]? = some (.ofBelow root turn.2) := by
    rw [List.getElem?_map, hturns turn hturn]
    rfl
  simp only [Function.comp, hfile, hwork turn hturn]
  cases work turn.2 with
  | ok found => rfl
  | error fault => rfl

include hturns in
/-- **Outcomes that differ in the paths of files make reports that differ in these paths.** -/
theorem Report.ofOutcomes_movesTo
    (hown : ∀ turn ∈ turns, work turn.2 = (work turn.2).placed (root.joinAll turn.2.1))
    (hwork : ∀ turn ∈ turns, work' turn.2 = (work turn.2).placed (root'.joinAll turn.2.1))
    (scanId scanId' : String) (project project' : Path) (t t' : Timing) :
    (Report.ofOutcomes scanId project t (below.map (.ofBelow root))
      (turns.map fun turn => (turn.1, work turn.2))).MovesTo root root'
      (Report.ofOutcomes scanId' project' t' (below.map (.ofBelow root'))
        (turns.map fun turn => (turn.1, work' turn.2))) := by
  have hfindings : ∀ turn ∈ turns,
      (work' turn.2).findings = (work turn.2).findings.map (·.placed (root'.joinAll turn.2.1)) := by
    intro turn hturn
    rw [hwork turn hturn, Outcome.findings_placed]
  have hmerged :
      Merged.ofFindings ((turns.map fun turn => (turn.1, work' turn.2)).flatMap (·.2.findings)) =
      Merged.ofFindings ((turns.map fun turn => (turn.1, work turn.2)).flatMap (·.2.findings)) := by
    -- Both merges are those of the findings without their paths.
    rw [← Merged.ofFindings_placed ⟨[]⟩, ← Merged.ofFindings_placed ⟨[]⟩ (List.flatMap _ _)]
    refine congrArg Merged.ofFindings ?_
    rw [List.flatMap_map, List.flatMap_map, List.map_flatMap, List.map_flatMap]
    refine List.flatMap_congr fun turn hturn => ?_
    rw [hfindings turn hturn, List.map_map]
    rfl
  refine ⟨?_, ?_, hmerged, congrArg Merged.summary hmerged, _, warningsAbout_placed hturns hown,
    warningsAbout_placed hturns hwork⟩
  · show (below.map _).length = (below.map _).length
    rw [List.length_map, List.length_map]
  · show (turns.map _).countP _ = (turns.map _).countP _
    rw [List.countP_map, List.countP_map]
    refine List.countP_congr fun turn hturn => ?_
    simp [hfindings turn hturn]

end Reports

/-! ## 5. Roots -/

namespace Path

/-- What a path with names joined to it ends with is the last of the names. -/
theorem fileNameText_joinAll (p : Path) {above : List Name} {n : Name} (hn : isName n) :
    (p.joinAll (above ++ [n])).fileNameText = (Text.decode? n).getD "" := by
  have hjoin : p.joinAll (above ++ [n]) = (p.joinAll above).join n := by
    rw [joinAll, List.foldl_append]
    rfl
  rw [fileNameText, hjoin, fileName?_join hn, Option.bind_some]

/-- **Names look alike behind any two roots** whose texts do not mention build scripts. -/
theorem looksLike_joinAll {root root' : Path} (hroot : root.mentions ".gradle" = false)
    (hroot' : root'.mentions ".gradle" = false) {names : List Name} (hne : names ≠ [])
    (h : ∀ n ∈ names, isName n) : (root.joinAll names).LooksLike (root'.joinAll names) := by
  have hslash : '/' ∉ ".gradle".toList := by decide
  have hlong : 2 < ".gradle".toList.length := by decide
  refine ⟨?_, ?_⟩
  · obtain ⟨above, n, rfl⟩ := (List.eq_nil_or_concat' names).resolve_left hne
    have hn := h n (List.mem_append_right above List.mem_cons_self)
    rw [fileNameText_joinAll root hn, fileNameText_joinAll root' hn]
  · have hjoined := mentions_joinAll hslash hlong (p := root) h
    have hjoined' := mentions_joinAll hslash hlong (p := root') h
    rw [hroot] at hjoined
    rw [hroot'] at hjoined'
    exact hjoined'.trans hjoined.symm

end Path

/-- The path from the root of the disk on. -/
def Disk.fromRoot (d : Disk) (p : Path) : Path := p.absolute d.workingDirectory

/-- Which files a request asks for is decided by its patterns and its limit, or all of it is
refused. -/
theorem requestedFiles_cases (o : ScanOptions) :
    (∃ failure, ∀ d project, requestedFiles d project o = .error failure) ∨
      ∃ walk : WalkOptions, ∀ d project,
        requestedFiles d project o = .ok (walk.collect d project) := by
  cases hwalk :
    WalkOptions.ofTexts? o.normalized.includes o.normalized.excludes o.normalized.maxFiles with
  | error refusal =>
    refine .inl ⟨.glob refusal, fun d project => ?_⟩
    simp only [requestedFiles, hwalk]
    rfl
  | ok walk => exact .inr ⟨walk, fun d project => requestedFiles_of_walk hwalk⟩

/-- The same tree stands at two paths, and what is answered about a file of it depends on where it
stands in the tree only. -/
structure SameTree (d d' : Disk) (project project' : Path)
    (read read' : SourceFile → Reading) : Prop where
  trees : ∃ e e', d.lookup (d.fromRoot project) = .ok e ∧
    d'.lookup (d'.fromRoot project') = .ok e' ∧ e.Alike e'
  answers : ∀ f, read' (.ofBelow (d'.fromRoot project') f) = read (.ofBelow (d.fromRoot project) f)

/-- **The same files are collected**, by their names below the root and in the same order. -/
theorem SameTree.collect {d d' : Disk} {project project' : Path} {read read' : SourceFile → Reading}
    (h : SameTree d d' project project' read read') (walk : WalkOptions) :
    ∃ below : List FileBelow, walk.collect d project = below.map (.ofBelow (d.fromRoot project)) ∧
      walk.collect d' project' = below.map (.ofBelow (d'.fromRoot project')) ∧
      ∀ f ∈ below, f.1 ≠ [] ∧ ∀ n ∈ f.1, Path.isName n := by
  obtain ⟨e, e', he, he', halike⟩ := h.trees
  have hsound := Disk.isSound_of_lookup he
  have hsame := walk.eligibleBelow_congr hsound (Disk.isSound_of_lookup he') halike
  refine ⟨(walk.eligibleBelow e).take walk.maxFiles, WalkOptions.collect_of_ok he, ?_,
    fun f hf => ?_⟩
  · rw [hsame]
    exact WalkOptions.collect_of_ok he'
  · have hfile := (WalkOptions.mem_eligibleBelow_iff hsound).mp (List.mem_of_mem_take hf)
    exact ⟨hfile.below, Entry.isName_of_below? hsound hfile.isFile⟩

/-! ## 6. Scans -/

/-- Two fresh reports on one request agree, whatever the schedules and the clocks, if what is
answered about files is the same. -/
theorem freshReportReading_agrees {s : Settings} (hs : 0 < s.batchSize)
    {read : SourceFile → Reading} {ds : List Detector} {d : Disk} {schedule schedule' : Schedule}
    {t t' : Timing} {project : Path} {o : ScanOptions} {r r' : Report}
    (h : freshReportReading read s ds d schedule t project o = .ok r)
    (h' : freshReportReading read s ds d schedule' t' project o = .ok r') :
    r.AgreesWithin s.width r' := by
  obtain ⟨files, hfiles, rfl⟩ := freshReportReading_eq_ok_iff.mp h
  obtain ⟨files', hfiles', rfl⟩ := freshReportReading_eq_ok_iff.mp h'
  obtain rfl := Except.ok.inj (hfiles.symm.trans hfiles')
  have hreorders :=
    fun schedule now => Report.ofOutcomes_reorders (scanId project o) project now t files
    (Settings.width_pos hs) (Settings.run_shuffled hs schedule (fun f =>
      inspectReading ds s.sizeLimit? (read f) f) files)
  exact ⟨_, hreorders schedule t, hreorders schedule' t'⟩

section Scans

variable {s : Settings} (hs : 0 < s.batchSize) {ds : List Detector}
  (hds : ∀ detector ∈ ds, detector.IgnoresPlace) {d d' : Disk} {project project' : Path}
  {read read' : SourceFile → Reading} (hsame : SameTree d d' project project' read read')
  (hroot : (d.fromRoot project).mentions ".gradle" = false)
  (hroot' : (d'.fromRoot project').mentions ".gradle" = false)

include hs hds hsame hroot hroot' in
/-- **The same tree below two roots makes reports that differ in the paths that warnings give.** -/
theorem freshReportReading_movesTo {below : List FileBelow} {o : ScanOptions}
    (hnames : ∀ f ∈ below, f.1 ≠ [] ∧ ∀ n ∈ f.1, Path.isName n)
    (hfiles : requestedFiles d project o = .ok (below.map (.ofBelow (d.fromRoot project))))
    (hfiles' : requestedFiles d' project' o = .ok (below.map (.ofBelow (d'.fromRoot project'))))
    (schedule : Schedule) (t t' : Timing) : ∃ r r',
      freshReportReading read s ds d schedule t project o = .ok r ∧
      freshReportReading read' s ds d' schedule t' project' o = .ok r' ∧
      r.MovesTo (d.fromRoot project) (d'.fromRoot project') r' := by
  have hturns : ∀ turn ∈ s.turns schedule below, below[turn.1]? = some turn.2 := fun turn hturn =>
    Settings.getElem?_of_mem_turns hs hturn
  -- What comes of a file below the one root, and below the other.
  let work (f : FileBelow) : Outcome :=
    inspectReading ds s.sizeLimit? (read (.ofBelow (d.fromRoot project) f))
      (.ofBelow (d.fromRoot project) f)
  let work' (f : FileBelow) : Outcome :=
    inspectReading ds s.sizeLimit? (read' (.ofBelow (d'.fromRoot project') f))
      (.ofBelow (d'.fromRoot project') f)
  have hown : ∀ turn ∈ s.turns schedule below,
      work turn.2 = (work turn.2).placed ((d.fromRoot project).joinAll turn.2.1) := by
    intro turn _
    exact inspectReading_placed hds s.sizeLimit? _ (Path.LooksLike.refl _)
  have hmoved : ∀ turn ∈ s.turns schedule below,
      work' turn.2 = (work turn.2).placed ((d'.fromRoot project').joinAll turn.2.1) := by
    intro turn hturn
    obtain ⟨hne, hvalid⟩ := hnames turn.2 (List.mem_of_getElem? (hturns turn hturn))
    simp only [work, work', hsame.answers]
    exact inspectReading_placed hds s.sizeLimit? _ (Path.looksLike_joinAll hroot hroot' hne hvalid)
  have hmoves :=
    Report.ofOutcomes_movesTo hturns hown hmoved (scanId project o)
      (scanId project' o) project project'
    t t'
  rw [← Settings.outcomes_eq_turns hs, ← Settings.outcomes_eq_turns hs] at hmoves
  exact ⟨_, _, freshReportReading_eq_ok_iff.mpr ⟨_, hfiles, rfl⟩,
    freshReportReading_eq_ok_iff.mpr ⟨_, hfiles', rfl⟩, hmoves⟩

end Scans

/-- **Where a project stands does not matter.** The same tree stands at two absolute paths whose
texts do not mention build scripts, and auditors with the same settings and the same built-in
detectors are asked for a scan that nothing stored answers. Both scans are refused alike, or they
look at the same files, by their names below the root and in the same order, and make reports: these
differ in the paths that warnings give, as far as they tell of the files. If files are done in
another order, there is no more to it than the order in which a batch is listed. Where files are as
the walk found them these are the plain scans (`Auditor.scanProjectReading_asFound`), and a new
auditor has what is asked of it here (`Auditor.isBuiltIn_of_new`). -/
theorem scans_relocate {a : Auditor} (hbatch : 0 < a.settings.batchSize)
    (hbuiltIn : ∀ detector ∈ a.detectors, detector.IsBuiltIn) (store : Store Report) {d d' : Disk}
    {project project' : Path} {read read' : SourceFile → Reading}
    (hsame : SameTree d d' project project' read read') (habsolute : project.isAbsolute = true)
    (habsolute' : project'.isAbsolute = true)
    (hgradle : Text.contains project.text ".gradle" = false)
    (hgradle' : Text.contains project'.text ".gradle" = false) (o : ScanOptions) (t t' : Timing)
    (hunanswered : a.answerInStore? t.lookedUp project o = none)
    (hunanswered' : { a with store }.answerInStore? t'.lookedUp project' o = none)
    (schedule schedule' : Schedule) :
    (∃ failure, (a.scanProjectReading read d schedule t project o).1 = .error failure ∧
      ({ a with store }.scanProjectReading read' d' schedule' t' project' o).1 = .error failure) ∨
    ∃ (below : List FileBelow) (r moved r' : Report),
      requestedFiles d project o = .ok (below.map (.ofBelow (d.fromRoot project))) ∧
      requestedFiles d' project' o = .ok (below.map (.ofBelow (d'.fromRoot project'))) ∧
      (a.scanProjectReading read d schedule t project o).1 = .ok r ∧
      ({ a with store }.scanProjectReading read' d' schedule t' project' o).1 = .ok moved ∧
      ({ a with store }.scanProjectReading read' d' schedule' t' project' o).1 = .ok r' ∧
      r.MovesTo (d.fromRoot project) (d'.fromRoot project') moved ∧
      moved.AgreesWithin a.settings.width r' := by
  have hslash : '/' ∉ ".gradle".toList := by decide
  have hlong : 2 < ".gradle".toList.length := by decide
  have hroot := Path.not_mentions_absolute hslash hlong habsolute d.workingDirectory hgradle
  have hroot' := Path.not_mentions_absolute hslash hlong habsolute' d'.workingDirectory hgradle'
  have hds : ∀ detector ∈ a.detectors, detector.IgnoresPlace := fun detector hdetector =>
    (hbuiltIn detector hdetector).ignoresPlace
  rw [Auditor.scanProjectReading_of_unanswered hunanswered,
    Auditor.scanProjectReading_of_unanswered hunanswered',
    Auditor.scanProjectReading_of_unanswered hunanswered']
  rcases requestedFiles_cases o with ⟨failure, hrefused⟩ | ⟨walk, hwalk⟩
  · exact .inl ⟨failure, freshReportReading_eq_error_iff.mpr (hrefused d project),
      freshReportReading_eq_error_iff.mpr (hrefused d' project')⟩
  · obtain ⟨below, hcollect, hcollect', hnames⟩ := hsame.collect walk
    have hfiles := hcollect ▸ hwalk d project
    have hfiles' := hcollect' ▸ hwalk d' project'
    obtain ⟨r, moved, hr, hmoved, hmoves⟩ :=
      freshReportReading_movesTo hbatch hds hsame hroot hroot' hnames hfiles hfiles' schedule t t'
    have hr' : freshReportReading read' a.settings a.detectors d' schedule' t' project' o = .ok _ :=
      freshReportReading_eq_ok_iff.mpr ⟨_, hfiles', rfl⟩
    exact .inr ⟨below, r, moved, _, hfiles, hfiles', hr, hmoved, hr', hmoves,
      freshReportReading_agrees hbatch hmoved hr'⟩

/-- A directory with a build script and with a script that is no text. -/
def movable : Entry := .directory
  [(Text.encode "app.gradle", .file (Text.encode "api('a:b:1')")), (Text.encode "b.js", .file [0])]

/-- The directory twice on a disk, once under a name that is skipped below a project. -/
def movableTwice : Disk where
  root := .directory
    [(Text.encode "node_modules", movable),
      (Text.encode "srv", .directory [(Text.encode "app", movable)])]
  workingDirectory := .ofText "/"
  sound := by decide +kernel

/-- An auditor with two built-in detectors, whose catalogs have no rules. -/
def twoBuiltIn : Auditor :=
  ⟨Settings.default, [.android ⟨"android", ["gradle"], []⟩, .web ⟨"web", ["js"], []⟩], .empty 0 1⟩

/-- All files but those in directories of this name. -/
def outsideModules : ScanOptions := ⟨false, some ["*"], some ["**/node_modules/**"], none⟩

/-- The files below `/node_modules` and below `/srv/app`: the name of the one root is on the list of
those that are never entered, and an exclude pattern describes it. -/
theorem scans_relocate_nodeModules : ∃ r moved,
    (twoBuiltIn.scanProjectReading SourceFile.asFound movableTwice .backwards ⟨0, 0, 1, 2⟩
      (.ofText "/node_modules")
      outsideModules).1 = .ok r ∧
    (twoBuiltIn.scanProjectReading SourceFile.asFound movableTwice .backwards ⟨0, 0, 3, 4⟩
      (.ofText "/srv/app")
      outsideModules).1 = .ok moved ∧
    r.totalFiles = 2 ∧ r.MovesTo (.ofText "/node_modules") (.ofText "/srv/app") moved := by
  have hmodules : movableTwice.fromRoot (.ofText "/node_modules") = .ofText "/node_modules" := by
    decide +kernel
  have happ : movableTwice.fromRoot (.ofText "/srv/app") = .ofText "/srv/app" := by decide +kernel
  have hplace : movableTwice.locate false (.ofText "/node_modules") =
      .ok [Text.encode "node_modules"] := by
    decide +kernel
  have hplace' : movableTwice.locate false (.ofText "/srv/app") =
      .ok [Text.encode "srv", Text.encode "app"] := by
    decide +kernel
  have hsame : SameTree movableTwice movableTwice (.ofText "/node_modules")
      (.ofText "/srv/app") SourceFile.asFound
      SourceFile.asFound := by
    refine ⟨⟨movable, movable, ?_, ?_, fun _ => rfl⟩, fun _ => rfl⟩
    · exact hmodules ▸ Disk.lookup_eq_ok_iff.mpr ⟨_, hplace, rfl⟩
    · exact happ ▸ Disk.lookup_eq_ok_iff.mpr ⟨_, hplace', rfl⟩
  have hbuiltIn : ∀ detector ∈ twoBuiltIn.detectors, detector.IsBuiltIn := by
    simp only [twoBuiltIn, List.forall_mem_cons, List.not_mem_nil, false_implies,
      implies_true, and_true]
    exact ⟨.android _, .web _⟩
  have hunanswered : ∀ project, twoBuiltIn.answerInStore? 0 project outsideModules = none :=
    fun project => Auditor.answerInStore?_of_empty rfl 0 project outsideModules
  have hcount :
      (requestedFiles movableTwice (.ofText "/node_modules") outsideModules).toOption.map
        List.length = some 2 := by
    decide +kernel
  rcases scans_relocate (a := twoBuiltIn)
    (by decide) hbuiltIn twoBuiltIn.store hsame (by decide +kernel)
    (by decide +kernel) (by decide +kernel) (by decide +kernel) outsideModules
    ⟨0, 0, 1, 2⟩ ⟨0, 0, 3, 4⟩ (hunanswered _) (hunanswered _) .backwards .backwards with
    ⟨failure, hfailure, -⟩ | ⟨below, r, moved, -, hfiles, -, hr, hmoved, -, hmoves, -⟩
  · rw [Auditor.scanProjectReading_of_unanswered (hunanswered _),
      freshReportReading_eq_error_iff] at hfailure
    rw [hfailure] at hcount
    cases hcount
  · rw [hmodules, happ] at hmoves
    refine ⟨r, moved, hr, hmoved, ?_, hmoves⟩
    rw [Auditor.scanProjectReading_of_unanswered (hunanswered _)] at hr
    obtain ⟨files, hrequested, rfl⟩ := freshReportReading_eq_ok_iff.mp hr
    rw [hrequested] at hcount
    exact Option.some.inj hcount

end PrivacyAudit
