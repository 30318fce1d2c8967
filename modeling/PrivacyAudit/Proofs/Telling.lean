import PrivacyAudit.CommandLine.Run
import PrivacyAudit.Proofs.Decoding
import PrivacyAudit.Proofs.Rereading

/-!
# What the text of a report tells

The text of a report is read as its JSON, as long as its numbers fit (`Report.Fits`), and the JSON
tells everything: no other report has it (`Report.toJson_inj`). So the text of a report tells of
this report (`Report.tells`). What is written of a report whose path is not UTF-8 is the beginning
of its text, and unfinished (`Report.read_beginning`, `exists_reportText_eq`).
-/

namespace PrivacyAudit

open Json (Value)

/-! ## 1. Reports in writing -/

/-- A report as they are made: its path can be written, and its summary is that of its findings. -/
structure Report.IsWhole (r : Report) : Prop where
  path : (Text.decode? r.projectPath.bytes).isSome = true
  summary : r.summary = r.merged.summary

/-- The numbers of a report are such as a reader keeps: those that count have 64 bits at most, and
the score is in range. -/
structure Report.Fits (r : Report) : Prop where
  startedAt : r.startedAt ≤ Json.largestNatural
  totalFiles : r.totalFiles ≤ Json.largestNatural
  filesScanned : r.filesScanned ≤ Json.largestNatural
  durationMs : r.durationMs ≤ Json.largestNatural
  score : Json.outOfRange (r.summary.score * 10).floor.natAbs (-1) = false

instance (r : Report) : Decidable r.Fits :=
  decidable_of_iff (r.startedAt ≤ Json.largestNatural ∧ r.totalFiles ≤ Json.largestNatural ∧
      r.filesScanned ≤ Json.largestNatural ∧ r.durationMs ≤ Json.largestNatural ∧
      Json.outOfRange (r.summary.score * 10).floor.natAbs (-1) = false)
    ⟨fun ⟨hstarted, htotal, hscanned, hduration, hscore⟩ =>
      ⟨hstarted, htotal, hscanned, hduration, hscore⟩,
    fun h => ⟨h.startedAt, h.totalFiles, h.filesScanned, h.durationMs, h.score⟩⟩

/-- The times of now, many files, and a score of four and a half. -/
example : Report.Fits ⟨"1p6", .ofText "work", 1785542400000, 1000000, 400000, 3600000, .empty, [],
    { Merged.empty.summary with score := 9 / 2 }⟩ := by decide +kernel

/-- A text tells of a report: it is read as its JSON, and no other report has this JSON. -/
structure Tells (text : String) (r : Report) : Prop where
  read : r.Fits → Value.read text.toList = .ok r.toJson
  only : ∀ r' : Report, r'.IsWhole → r'.toJson = r.toJson → r' = r

/-! ## 2. Reading the text -/

section Kept

theorem isKept_strings (room : Nat) (ss : List String) :
    (Value.strings ss).isKept (room + 1) = true := by
  have hitems : ∀ ss : List String, Value.isKept.itemsKept room (ss.map .string) = true := by
    intro ss
    induction ss with
    | nil => rfl
    | cons s ss ih => rw [List.map_cons, Value.isKept.itemsKept, ih, Bool.and_true, Value.isKept]
  exact hitems ss

theorem itemsKept_dependencies (room : Nat) (ds : List Dependency) :
    Value.isKept.itemsKept (room + 1) (ds.map Dependency.toJson) = true := by
  induction ds with
  | nil => rfl
  | cons d ds ih =>
    rw [List.map_cons, Value.isKept.itemsKept, ih, Bool.and_true]
    obtain ⟨name, version?⟩ := d
    cases version? <;> simp [Dependency.toJson, Value.isKept, Value.isKept.membersKept]

/-- The JSON of a report keeps to what a reader keeps. -/
theorem Report.isKept_toJson {r : Report} (h : r.Fits) (room : Nat) :
    r.toJson.isKept (room + 3) = true := by
  have hscore : (scoreToJson r.summary.score).isKept (room + 1) = true := by
    simp [scoreToJson, Value.isKept, Json.Number.isKept, h.score]
  simp [toJson, Merged.members, HtmlAssets.toJson, Summary.toJson, DataFlow.toJson, Value.natural,
    Value.isKept, Value.isKept.membersKept, Json.Number.isKept, isKept_strings,
    itemsKept_dependencies, hscore, h.startedAt, h.totalFiles, h.filesScanned, h.durationMs]

/-- The text of a report is read as its JSON. -/
theorem read_reportText {r : Report} (h : r.Fits) :
    Value.read (CommandLine.reportText r).toList = .ok r.toJson := by
  have hbreak : ∀ c ∈ ['\n'], Json.isBlank c = true := by
    intro c hc
    rw [List.mem_singleton.mp hc]
    rfl
  rw [CommandLine.reportText, String.toList_append]
  exact Json.read_pretty (r.isKept_toJson h 124) hbreak

/-- What is written of a report as far as to its path is unfinished. -/
theorem Report.read_beginning (r : Report) : Value.read r.beginning.toList = .error .unfinished :=
  Json.read_prettyUpTo _ _ (by simp [Value.isKept, Value.isKept.membersKept])

/-- The text of a report begins with what is written as far as to its path. -/
theorem exists_reportText_eq (r : Report) : ∃ rest, CommandLine.reportText r =
    r.beginning ++ Json.quote r.projectPath.text ++ rest := by
  obtain ⟨rest, hrest⟩ := Json.pretty_object [("scanId", .string r.scanId)] "projectPath"
    (.string r.projectPath.text) ([("startedAt", .natural r.startedAt),
      ("totalFiles", .natural r.totalFiles),
      ("filesScanned", .natural r.filesScanned), ("durationMs", .natural r.durationMs)] ++
      r.merged.members ++ [("warnings", .strings r.warnings), ("summary", r.summary.toJson)])
  have hquote : (Value.string r.projectPath.text).indented 1 = Json.quote r.projectPath.text := by
    simp [Value.indented, Value.compact]
  rw [hquote] at hrest
  refine ⟨rest ++ "\n", ?_⟩
  rw [CommandLine.reportText, ← String.append_assoc]
  exact congrArg (· ++ "\n") hrest

end Kept

/-! ## 3. The JSON tells everything -/

theorem Value.strings_inj {ss ss' : List String} : Value.strings ss = Value.strings ss' ↔
    ss = ss' := by
  rw [Value.strings, Value.strings, Value.array.injEq, List.map_inj_right fun _ _ h =>
    Value.string.inj h]

theorem TagSet.toList_inj {s s' : TagSet} : s.toList = s'.toList ↔ s = s' := by
  cases s
  cases s'
  rw [TagSet.mk.injEq]

theorem Dependency.toJson_inj {d d' : Dependency} (h : d.toJson = d'.toJson) : d = d' := by
  obtain ⟨name, version?⟩ := d
  obtain ⟨name', version?'⟩ := d'
  cases version? <;> cases version?' <;> simp [toJson] at h ⊢ <;> exact h

/-- The texts of paths that are UTF-8 tell them apart. -/
theorem Path.text_inj {p p' : Path} (hp : (Text.decode? p.bytes).isSome = true)
    (hp' : (Text.decode? p'.bytes).isSome = true) (h : p.text = p'.text) : p = p' := by
  obtain ⟨s, hs⟩ := Option.isSome_iff_exists.mp hp
  obtain ⟨s', hs'⟩ := Option.isSome_iff_exists.mp hp'
  rw [text, text, Text.decodeLossy_of_decode? hs, Text.decodeLossy_of_decode? hs'] at h
  have hbytes : p.bytes = p'.bytes := by
    rw [Text.decode?_eq_some_iff.mp hs, Text.decode?_eq_some_iff.mp hs', h]
  exact congrArg Path.mk hbytes

theorem HtmlAssets.toJson_inj {a a' : HtmlAssets} (h : a.toJson = a'.toJson) : a = a' := by
  obtain ⟨scripts, metaTags, iframes⟩ := a
  obtain ⟨scripts', metaTags', iframes'⟩ := a'
  simpa [toJson, Value.strings_inj, TagSet.toList_inj] using h

theorem Merged.members_inj {m m' : Merged} (h : m.members = m'.members) : m = m' := by
  have hdependencies : m.dependencies.map Dependency.toJson =
      m'.dependencies.map Dependency.toJson ↔
      m.dependencies = m'.dependencies := List.map_inj_right fun _ _ => Dependency.toJson_inj
  simp only [members, List.cons.injEq, Prod.mk.injEq, Value.strings_inj, TagSet.toList_inj,
    Value.array.injEq, hdependencies, true_and, and_true] at h
  obtain ⟨hdetectors, hpermissions, hapis, hservices, hcollection, hstorage, htracking,
    hweb, hdeclared, hassets⟩ := h
  obtain ⟨_, _, _, _, _, _, _, _, _, _⟩ := m
  obtain ⟨_, _, _, _, _, _, _, _, _, _⟩ := m'
  simp only [mk.injEq]
  exact ⟨hdetectors, hpermissions, hapis, hservices, hcollection, hstorage, htracking,
    hweb, hdeclared, HtmlAssets.toJson_inj hassets⟩

/-- **The JSON of a report tells everything about it.** -/
theorem Report.toJson_inj {r r' : Report} (hr : r.IsWhole) (hr' : r'.IsWhole)
    (h : r.toJson = r'.toJson) : r = r' := by
  obtain ⟨hfront, hback⟩ := List.append_inj' (Value.object.inj h) rfl
  obtain ⟨hlead, hmembers⟩ := List.append_inj hfront rfl
  simp only [List.cons.injEq, Prod.mk.injEq, Value.string.injEq, Value.natural, Value.number.injEq,
    Json.Number.natural.injEq, true_and, and_true] at hlead
  simp only [List.cons.injEq, Prod.mk.injEq, Value.strings_inj, true_and] at hback
  obtain ⟨hscanId, hpath, hstartedAt, htotal, hscanned, hduration⟩ := hlead
  have hproject := Path.text_inj hr.path hr'.path hpath
  have hmerged := Merged.members_inj hmembers
  have hsummary : r.summary = r'.summary := by rw [hr.summary, hr'.summary, hmerged]
  obtain ⟨_, _, _, _, _, _, _, _, _⟩ := r
  obtain ⟨_, _, _, _, _, _, _, _, _⟩ := r'
  simp only [mk.injEq]
  exact ⟨hscanId, hproject, hstartedAt, htotal, hscanned, hduration, hmerged, hback.1, hsummary⟩

/-- **The text of a report tells of this report.** -/
theorem Report.tells {r : Report} (hr : r.IsWhole) : Tells (CommandLine.reportText r) r :=
  ⟨read_reportText, fun _ hr' h => Report.toJson_inj hr' hr h⟩

end PrivacyAudit
