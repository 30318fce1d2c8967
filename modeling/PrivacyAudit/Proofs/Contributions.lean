import PrivacyAudit.Disk.Build
import PrivacyAudit.Proofs.Decoding
import PrivacyAudit.Proofs.Reaching
import PrivacyAudit.Proofs.Transparency
import PrivacyAudit.Proofs.Uniting

/-!
# What a report is made of

A report that is made file by file is the merge of what the detectors find in the texts of a
project, file after file, and its summary is the summary of this merge. The texts are those of the
collected files that are small enough, do not look binary and are UTF-8 when they are read
(`Reading.HasText`); no other file adds anything, one that cannot be read as little as the others,
and of these none is lost on the way. On a disk that stays as it is, the texts are those that are
read at the paths of the files (`Disk.HasText`).

* `inspectReading_eq_ok_iff`: which files are looked at, and with what result;
* `flatMap_findings`: the findings of a run are those of the texts, in their order;
* `scanProjectReading_contributions`: the report, and which tags are in it, whatever is answered
  when the files are read;
* `scanProject_contributions`: the same on a disk that stays as it is.
-/

namespace PrivacyAudit

/-! ## 1. The text of a file -/

/-- The answers about a file let it be looked at: its size is asked for if there is a limit, and is
no larger, and its contents do not look binary and are those of a text. -/
structure Reading.HasText (reading : Reading) (sizeLimit? : Option Nat)
    (content : String) : Prop where
  read : reading.data = .ok (Text.encode content)
  fits : ∀ limit ∈ sizeLimit?, ∃ size, reading.size = .ok size ∧ size ≤ limit
  notBinary : looksBinary (Text.encode content) = false

/-- A path leads to a file that is no larger than allowed, does not look binary and holds a text. -/
structure Disk.HasText (d : Disk) (sizeLimit? : Option Nat) (p : Path)
    (content : String) : Prop where
  read : d.contents p = .ok (Text.encode content)
  fits : ∀ limit ∈ sizeLimit?, (Text.encode content).length ≤ limit
  notBinary : looksBinary (Text.encode content) = false

/-- The text with which a file is looked at; none if the file is left out. -/
def Reading.text? (reading : Reading) (sizeLimit? : Option Nat) : Option String :=
  if sizeLimit?.all fun limit => reading.size.toOption.any (· ≤ limit) then
    (reading.data.toOption.filter fun data => !looksBinary data).bind Text.decode?
  else none

/-- The text of a file that is as the walk found it. -/
def SourceFile.text? (sizeLimit? : Option Nat) (f : SourceFile) : Option String :=
  f.asFound.text? sizeLimit?

section Text

variable {ds : List Detector} {sizeLimit? : Option Nat} {reading : Reading} {f : SourceFile}
  {content : String}

theorem toOption_eq_some_iff {ε α : Type} {x : Except ε α} {a : α} :
    x.toOption = some a ↔ x = .ok a :=
  ⟨eq_ok_of_toOption, fun h => h ▸ rfl⟩

theorem Reading.text?_eq_some_iff :
    reading.text? sizeLimit? = some content ↔ reading.HasText sizeLimit? content := by
  have hsize : (sizeLimit?.all fun limit => reading.size.toOption.any (· ≤ limit)) = true ↔
      ∀ limit ∈ sizeLimit?, ∃ size, reading.size = .ok size ∧ size ≤ limit := by
    simp only [Option.all_eq_true, Option.any_eq_true, toOption_eq_some_iff, decide_eq_true_eq,
      Option.mem_def]
  have hdata : (reading.data.toOption.filter fun data => !looksBinary data).bind Text.decode? =
      some content ↔
        reading.data = .ok (Text.encode content) ∧ looksBinary (Text.encode content) = false := by
    simp only [Option.bind_eq_some_iff, Option.filter_eq_some_iff, toOption_eq_some_iff,
      Text.decode?_eq_some_iff, Bool.not_eq_true']
    constructor
    · intro h
      obtain ⟨data, ⟨hread, hbinary⟩, rfl⟩ := h
      exact ⟨hread, hbinary⟩
    · intro h
      exact ⟨_, h, rfl⟩
  unfold text?
  split
  · next hfits =>
    rw [hdata]
    exact ⟨fun h => ⟨h.1, hsize.mp hfits, h.2⟩, fun h => ⟨h.read, h.notBinary⟩⟩
  · next hlarge => exact iff_of_false (fun h => nomatch h) fun h => hlarge (hsize.mpr h.fits)

theorem inspect_none_eq_ok_iff {fs : List Finding} :
    inspect ds none f = .ok fs ↔ ∃ content, f.data = Text.encode content ∧
      looksBinary (Text.encode content) = false ∧ fs = scanContent ds content f.path := by
  unfold inspect
  rw [Option.filter_none]
  by_cases hbinary : looksBinary f.data = true
  · rw [if_pos hbinary]
    refine iff_of_false (fun h => nomatch h) fun h => ?_
    obtain ⟨content, hdata, hnot, -⟩ := h
    rw [hdata, hnot] at hbinary
    cases hbinary
  · rw [if_neg hbinary]
    cases hdecode : Text.decode? f.data with
    | none =>
      refine iff_of_false (fun h => nomatch h) fun h => ?_
      obtain ⟨content, hdata, -⟩ := h
      rw [Text.decode?_eq_some_iff.mpr hdata] at hdecode
      cases hdecode
    | some content =>
      have hdata := Text.decode?_eq_some_iff.mp hdecode
      constructor
      · intro h
        exact ⟨content, hdata, hdata ▸ Bool.eq_false_iff.mpr hbinary, (Except.ok.inj h).symm⟩
      · intro h
        obtain ⟨content', hdata', -, rfl⟩ := h
        rw [Text.encode_inj (hdata.symm.trans hdata')]

/-- **Which files are looked at**: those with a text, and then the detectors are run on this
text. -/
theorem inspectReading_eq_ok_iff {fs : List Finding} :
    inspectReading ds sizeLimit? reading f = .ok fs ↔
      ∃ content, reading.HasText sizeLimit? content ∧ fs = scanContent ds content f.path := by
  have hsize : reading.sizeFault? sizeLimit? f.path = none ↔
      ∀ limit ∈ sizeLimit?, ∃ size, reading.size = .ok size ∧ size ≤ limit := by
    unfold Reading.sizeFault?
    cases sizeLimit? with
    | none => simp
    | some limit => cases reading.size <;> simp
  unfold inspectReading
  cases hfault : reading.sizeFault? sizeLimit? f.path with
  | some fault =>
    refine iff_of_false (fun h => nomatch h) fun h => ?_
    obtain ⟨content, htext, -⟩ := h
    rw [hsize.mpr htext.fits] at hfault
    cases hfault
  | none =>
    have hfits := hsize.mp hfault
    cases hread : reading.data with
    | error reason =>
      refine iff_of_false (fun h => nomatch h) fun h => ?_
      obtain ⟨content, htext, -⟩ := h
      rw [htext.read] at hread
      cases hread
    | ok data =>
      simp only [inspect_none_eq_ok_iff]
      constructor
      · intro h
        obtain ⟨content, rfl, hbinary, rfl⟩ := h
        exact ⟨content, ⟨hread, hfits, hbinary⟩, rfl⟩
      · intro h
        obtain ⟨content, htext, rfl⟩ := h
        exact ⟨content, Except.ok.inj (hread.symm.trans htext.read), htext.notBinary, rfl⟩

/-- The findings in a file are those in its text. -/
theorem findings_inspectReading (ds : List Detector) (sizeLimit? : Option Nat) (reading : Reading)
    (f : SourceFile) : (inspectReading ds sizeLimit? reading f).findings =
      (reading.text? sizeLimit?).toList.flatMap fun content => scanContent ds content f.path := by
  cases hcontent : reading.text? sizeLimit? with
  | some content =>
    have htext := Reading.text?_eq_some_iff.mp hcontent
    rw [inspectReading_eq_ok_iff.mpr ⟨content, htext, rfl⟩]
    simp [Outcome.findings]
  | none =>
    cases houtcome : inspectReading ds sizeLimit? reading f with
    | error fault => rfl
    | ok fs =>
      obtain ⟨content, htext, -⟩ := inspectReading_eq_ok_iff.mp houtcome
      rw [Reading.text?_eq_some_iff.mpr htext] at hcontent
      cases hcontent

/-! ### Files that are as the walk found them -/

theorem SourceFile.text?_eq_some_iff :
    f.text? sizeLimit? = some content ↔ (∀ limit ∈ sizeLimit?, f.data.length ≤ limit) ∧
      looksBinary f.data = false ∧ f.data = Text.encode content := by
  unfold text?
  rw [Reading.text?_eq_some_iff]
  constructor
  · intro h
    have hdata : f.data = Text.encode content := Except.ok.inj h.read
    refine ⟨fun limit hlimit => ?_, hdata ▸ h.notBinary, hdata⟩
    obtain ⟨size, hsize, hle⟩ := h.fits limit hlimit
    exact Except.ok.inj hsize ▸ hle
  · intro h
    obtain ⟨hfits, hbinary, hdata⟩ := h
    exact ⟨congrArg Except.ok hdata, fun limit hlimit => ⟨_, rfl, hfits limit hlimit⟩,
      hdata ▸ hbinary⟩

theorem inspect_eq_ok_iff {fs : List Finding} :
    inspect ds sizeLimit? f = .ok fs ↔
      ∃ content, f.text? sizeLimit? = some content ∧ fs = scanContent ds content f.path := by
  rw [← inspectReading_asFound, inspectReading_eq_ok_iff]
  exact exists_congr fun content => and_congr_left fun _ => Reading.text?_eq_some_iff.symm

/-- A collected file has the text that is read at its path. -/
theorem SourceFile.text?_eq_some_iff_hasText {o : WalkOptions} {d : Disk} {project : Path}
    (hf : f ∈ o.collect d project) :
    f.text? sizeLimit? = some content ↔ d.HasText sizeLimit? f.path content := by
  have hread : d.contents f.path = .ok f.data := contents_of_mem_collect hf
  rw [SourceFile.text?_eq_some_iff]
  constructor
  · rintro ⟨hfits, hbinary, hdata⟩
    exact ⟨hdata ▸ hread, hdata ▸ hfits, hdata ▸ hbinary⟩
  · rintro ⟨hcontents, hfits, hbinary⟩
    have hdata : f.data = Text.encode content := Except.ok.inj (hread.symm.trans hcontents)
    exact ⟨hdata ▸ hfits, hdata ▸ hbinary, hdata⟩

end Text

/-! ## 2. The texts of a run -/

/-- The files that are looked at, each with its text. -/
def textsOf (text? : SourceFile → Option String) (files : List SourceFile) :
    List (SourceFile × String) :=
  files.flatMap fun f => (text? f).toList.map (f, ·)

section Texts

variable (text? : SourceFile → Option String) (files : List SourceFile)

theorem textsOf_sublist : ((textsOf text? files).map (·.1)).Sublist files := by
  induction files with
  | nil => exact .slnil
  | cons f files ih =>
    rw [textsOf, List.flatMap_cons, List.map_append]
    cases text? f with
    | none => exact ih.cons f
    | some content => exact ih.cons_cons f

theorem mem_textsOf_iff {f : SourceFile} {content : String} :
    (f, content) ∈ textsOf text? files ↔ f ∈ files ∧ text? f = some content := by
  rw [textsOf, List.mem_flatMap]
  constructor
  · rintro ⟨f', hf, hmem⟩
    obtain ⟨content', hcontent, hpair⟩ := List.mem_map.mp hmem
    obtain ⟨rfl, rfl⟩ := Prod.mk.inj hpair
    exact ⟨hf, Option.mem_toList.mp hcontent⟩
  · rintro ⟨hf, hcontent⟩
    exact ⟨f, hf, List.mem_map.mpr ⟨content, Option.mem_toList.mpr hcontent, rfl⟩⟩

/-- **The findings of a run, file after file, are those in the texts, one after the other.** -/
theorem flatMap_findings {ds : List Detector} {work : SourceFile → Outcome}
    (h : ∀ f, (work f).findings =
      (text? f).toList.flatMap fun content => scanContent ds content f.path) :
    ((runInOrder work files).flatMap fun result => result.2.findings) =
      (textsOf text? files).flatMap fun text => scanContent ds text.2 text.1.path := by
  have hpieces : files.zipIdx.flatMap (fun piece => (work piece.1).findings) =
      (files.zipIdx.map Prod.fst).flatMap fun f => (work f).findings := by
    rw [List.flatMap_map]
  rw [runInOrder, List.flatMap_map, hpieces, List.zipIdx_map_fst, textsOf, List.flatMap_assoc]
  refine List.flatMap_congr fun f _ => ?_
  rw [h, List.flatMap_map]

end Texts

/-! ## 3. What a detector adds -/

/-- A finding with a tag that joins a category is not dropped. -/
theorem Finding.hasSignal_of_mem_joining {found : Finding} {c : Category} {tag : String}
    (h : tag ∈ found.joining c) : found.hasSignal = true := by
  rw [← Bool.not_eq_false]
  intro hnone
  have hempty : found.joining c = [] := (Finding.hasSignal_eq_false_iff.mp hnone).1 c
  rw [hempty] at h
  exact List.not_mem_nil h

theorem mem_scanContent_iff {ds : List Detector} {content : String} {p : Path} {found : Finding} :
    found ∈ scanContent ds content p ↔ ∃ detector ∈ ds, detector.supports p.fileNameText = true ∧
      detector.scan content p = some found ∧ found.hasSignal = true := by
  rw [scanContent, List.mem_filterMap]
  simp only [supporting, List.mem_filter, Detector.contribution,
    Option.filter_eq_some_iff, and_assoc]

/-! ## 4. The report -/

section Report

variable {a : Auditor} {read : SourceFile → Reading} {d : Disk} {schedule : Schedule} {t : Timing}
  {project : Path} {o : ScanOptions} {walk : WalkOptions}

/-- **A report that is made file by file is the merge of the findings in the texts that are read**,
in the order of the walk, whatever is answered when the files are read. A tag is in one of its sets
exactly if some detector that is meant for the name of one of these files has answered it. -/
theorem scanProjectReading_contributions (hserial : a.settings.parallel = false)
    (hwalk : WalkOptions.ofTexts? o.normalized.includes o.normalized.excludes
      o.normalized.maxFiles = .ok walk)
    (hanew : a.answerInStore? t.lookedUp project o = none) :
    ∃ (r : Report) (texts : List (SourceFile × String)),
      (a.scanProjectReading read d schedule t project o).1 = .ok r ∧
      (texts.map (·.1)).Sublist (walk.collect d project) ∧
      (∀ f content, (f, content) ∈ texts ↔
        f ∈ walk.collect d project ∧ (read f).HasText a.settings.sizeLimit? content) ∧
      r.merged = .ofFindings (texts.flatMap fun text => a.scanContent text.2 text.1.path) ∧
      r.summary = r.merged.summary ∧
      ∀ c tag, tag ∈ r.merged.set c ↔ ∃ f content detector found,
        f ∈ walk.collect d project ∧ (read f).HasText a.settings.sizeLimit? content ∧
        detector ∈ a.detectors ∧ detector.supports f.path.fileNameText = true ∧
        detector.scan content f.path = some found ∧ tag ∈ found.joining c := by
  have hfresh : freshReportReading read a.settings a.detectors d schedule t project o = .ok _ :=
    freshReportReading_eq_ok_iff.mpr ⟨_, requestedFiles_of_walk hwalk, rfl⟩
  rw [outcomesReading_inOrder hserial] at hfresh
  have hscan := (Auditor.scanProjectReading_of_unanswered hanew read d schedule).trans hfresh
  have hmem : ∀ f content,
      (f, content) ∈ textsOf (fun f => (read f).text? a.settings.sizeLimit?)
        (walk.collect d project) ↔
      f ∈ walk.collect d project ∧ (read f).HasText a.settings.sizeLimit? content := by
    intro f content
    rw [mem_textsOf_iff, Reading.text?_eq_some_iff]
  have hmerged := congrArg Merged.ofFindings (flatMap_findings _ (walk.collect d project)
    fun f => findings_inspectReading a.detectors a.settings.sizeLimit? (read f) f)
  refine ⟨_, _, hscan, textsOf_sublist _ _, hmem, hmerged, rfl, fun c tag => ?_⟩
  show tag ∈ (Merged.ofFindings _).set c ↔ _
  rw [hmerged, Merged.mem_set_ofFindings]
  constructor
  · rintro ⟨found, hfound, htag⟩
    obtain ⟨⟨f, content⟩, htext, hcontent⟩ := List.mem_flatMap.mp hfound
    obtain ⟨hf, htext⟩ := (hmem f content).mp htext
    obtain ⟨detector, hdetector, hsupports, hscan, -⟩ := mem_scanContent_iff.mp hcontent
    exact ⟨f, content, detector, found, hf, htext, hdetector, hsupports, hscan, htag⟩
  · rintro ⟨f, content, detector, found, hf, htext, hdetector, hsupports, hscan, htag⟩
    refine ⟨found, List.mem_flatMap.mpr ⟨(f, content), (hmem f content).mpr ⟨hf, htext⟩, ?_⟩, htag⟩
    exact mem_scanContent_iff.mpr
      ⟨detector, hdetector, hsupports, hscan, Finding.hasSignal_of_mem_joining htag⟩

end Report

/-- **A report that is made file by file is the merge of the findings in the texts of the project**,
in the order of the walk, and a tag is in one of its sets exactly if some detector that is meant for
the name of one of these files has answered it. -/
theorem scanProject_contributions {a : Auditor} {d : Disk} {schedule : Schedule} {t : Timing}
    {project : Path} {o : ScanOptions} {walk : WalkOptions} (hserial : a.settings.parallel = false)
    (hwalk : WalkOptions.ofTexts? o.normalized.includes o.normalized.excludes
      o.normalized.maxFiles = .ok walk)
    (hanew : a.answerInStore? t.lookedUp project o = none) :
    ∃ (r : Report) (texts : List (SourceFile × String)),
    (a.scanProject d schedule t project o).1 = .ok r ∧
      (texts.map (·.1)).Sublist (walk.collect d project) ∧
      (∀ f content, (f, content) ∈ texts ↔
        f ∈ walk.collect d project ∧ d.HasText a.settings.sizeLimit? f.path content) ∧
      r.merged = .ofFindings (texts.flatMap fun text => a.scanContent text.2 text.1.path) ∧
      r.summary = r.merged.summary ∧
      ∀ c tag, tag ∈ r.merged.set c ↔ ∃ f content detector found,
        f ∈ walk.collect d project ∧ d.HasText a.settings.sizeLimit? f.path content ∧
        detector ∈ a.detectors ∧ detector.supports f.path.fileNameText = true ∧
        detector.scan content f.path = some found ∧ tag ∈ found.joining c := by
  have htext : ∀ f ∈ walk.collect d project, ∀ content,
      f.asFound.HasText a.settings.sizeLimit? content ↔
        d.HasText a.settings.sizeLimit? f.path content := by
    intro f hf content
    rw [← Reading.text?_eq_some_iff]
    exact SourceFile.text?_eq_some_iff_hasText hf
  obtain ⟨r, texts, hr, hsub, hmem, hmerged, hsummary, hset⟩ :=
    @scanProjectReading_contributions a SourceFile.asFound d schedule t project o walk hserial
      hwalk hanew
  rw [Auditor.scanProjectReading_asFound] at hr
  refine ⟨r, texts, hr, hsub, fun f content => (hmem f content).trans ?_, hmerged, hsummary,
    fun c tag => (hset c tag).trans ?_⟩
  · exact and_congr_right fun hf => htext f hf content
  · refine exists_congr fun f => exists_congr fun content => exists₂_congr fun detector found => ?_
    exact and_congr_right fun hf => and_congr_left fun _ => htext f hf content

/-- Five scripts of which two are looked at, `a.js` and `e.js`: `b.js` looks binary, `c.js` is
larger than eight bytes, and `d.js` is no UTF-8. -/
def mixedScripts : Disk :=
  [("a", Text.encode "camera"), ("b", [0]), ("c", Text.encode "camera camera"), ("d", [0xFF]),
    ("e", Text.encode "trap")].foldl
    (fun d (name, data) => d.addFile (.ofText ("work/" ++ name ++ ".js")) data)
      (.fresh [Text.encode "home"])

/-- An auditor that takes files of up to eight bytes one by one, with a detector that fails on
`e.js`. -/
def serialAuditor : Auditor :=
  ⟨{ Settings.default with parallel := false, sizeLimit? := some 8 },
    [.ofNeedle "lens" ["js"] "camera" .permissions "CAMERA" (some "trap")], .empty 0 1⟩

/-- The walk through the scripts of a directory. -/
def scriptsWalk : WalkOptions :=
  ⟨(Glob.ofTexts? ["*.js"]).toOption.getD [], [], ScanOptions.defaultMaxFiles⟩

theorem scanProject_contributions_mixedScripts :
    WalkOptions.ofTexts? ["*.js"] [] ScanOptions.defaultMaxFiles = .ok scriptsWalk ∧
    ∃ (r : Report) (texts : List (SourceFile × String)),
      (serialAuditor.scanProject mixedScripts .inOrder ⟨0, 0, 0, 0⟩
        (.ofText "work") scriptsOnly).1 = .ok r ∧
      r.merged = .ofFindings (texts.flatMap fun text =>
        serialAuditor.scanContent text.2 text.1.path) ∧
      (∀ text ∈ texts, text.1.relativePath = "a.js" ∨ text.1.relativePath = "e.js") ∧
      "CAMERA" ∈ r.merged.permissions := by
  have hwalk : WalkOptions.ofTexts? ["*.js"] [] ScanOptions.defaultMaxFiles = .ok scriptsWalk := by
    decide +kernel
  have hlooked : (scriptsWalk.collect mixedScripts (.ofText "work")).filterMap
      (fun f => (f.text? (some 8)).map fun content => (f.relativePath, f.path, content)) =
        [("a.js", .ofText "/home/work/a.js", "camera"),
          ("e.js", .ofText "/home/work/e.js", "trap")] := by
    decide +kernel
  obtain ⟨r, texts, hr, -, htexts, hmerged, -, hset⟩ :=
    @scanProject_contributions serialAuditor mixedScripts .inOrder ⟨0, 0, 0, 0⟩
      (.ofText "work") scriptsOnly
      scriptsWalk rfl hwalk (Auditor.answerInStore?_of_empty rfl _ _ _)
  refine ⟨hwalk, r, texts, hr, hmerged, fun (f, content) htext => ?_, ?_⟩
  · obtain ⟨hf, hcontent⟩ := (htexts f content).mp htext
    have htext? : f.text? (some 8) = some content :=
      (SourceFile.text?_eq_some_iff_hasText hf).mpr hcontent
    have hlisted : (f.relativePath, f.path, content) ∈
        [("a.js", Path.ofText "/home/work/a.js", "camera"),
          ("e.js", .ofText "/home/work/e.js", "trap")] :=
      hlooked ▸ List.mem_filterMap.mpr ⟨f, hf, by rw [htext?, Option.map_some]⟩
    simp only [List.mem_cons, Prod.mk.injEq, List.not_mem_nil, or_false] at hlisted
    exact hlisted.imp And.left And.left
  · obtain ⟨f, hf, hlisted⟩ := List.mem_filterMap.mp (hlooked ▸ List.mem_cons_self)
    obtain ⟨content, hcontent, hentry⟩ := Option.map_eq_some_iff.mp hlisted
    obtain ⟨-, hpath, rfl⟩ :
        f.relativePath = "a.js" ∧ f.path = .ofText "/home/work/a.js" ∧ content = "camera" := by
      simpa only [Prod.mk.injEq] using hentry
    refine (hset .permissions "CAMERA").mpr ⟨f, "camera", _,
      (Finding.empty "lens" f.path).push .permissions "CAMERA", hf,
      (SourceFile.text?_eq_some_iff_hasText hf).mp hcontent, List.mem_cons_self, ?_, ?_, ?_⟩
    all_goals
      rw [hpath]
      decide +kernel

end PrivacyAudit
