import PrivacyAudit.Proofs.Contributions

/-!
# Which detectors a file meets

A walk names a file by its name on the disk, with replacement characters where the name is not
UTF-8; include patterns see the same text. The detectors are chosen by the name that the file's path
ends with, and this is taken to be empty where it is not UTF-8. So the two agree on names that are
UTF-8 and on no others: a file whose name is not is counted, but only detectors that are meant for
files without a name are run on it (`outcomes_detectors`).
-/

namespace PrivacyAudit

/-! ## 1. The name that a path ends with -/

namespace Path

/-- A path that a name was joined to ends with this name. -/
theorem fileName?_join {p : Path} {n : Name} (hn : isName n) : (p.join n).fileName? = some n := by
  obtain ⟨hne, hslash, hdot, hdots⟩ := isName_iff.mp hn
  have hparts : ∃ parts, split (p.join n).bytes = parts ++ [n] := by
    rw [bytes_join hn]
    by_cases hp : p.bytes = []
    · exact ⟨[], by rw [front, if_pos (.inl hp), hp, List.nil_append, split_of_not_mem hslash,
        List.nil_append]⟩
    · obtain ⟨front, hfront, -⟩ := front_eq hp
      refine ⟨split front, ?_⟩
      rw [hfront, List.append_assoc, List.singleton_append, split_append, split_of_not_mem hslash]
  obtain ⟨parts, hparts⟩ := hparts
  have hlast : component? n = some (.name n) := by
    rw [component?, if_neg (not_or.mpr ⟨hne, hdot⟩), if_neg hdots]
  have hcomponents : (p.join n).components.getLast? = some (.name n) := by
    simp only [components, hparts, List.filterMap_append, List.filterMap_cons, hlast,
      List.filterMap_nil, ← List.append_assoc, List.getLast?_concat]
  rw [fileName?, hcomponents]

end Path

/-- A collected file is named by the name that its path ends with. -/
theorem fileName?_of_mem_collect {o : WalkOptions} {d : Disk} {project : Path} {f : SourceFile}
    (hf : f ∈ o.collect d project) :
    ∃ n, f.path.fileName? = some n ∧ f.name = Text.decodeLossy n := by
  cases he : d.lookup (project.absolute d.workingDirectory) with
  | error fault =>
    rw [WalkOptions.collect_of_error he] at hf
    cases hf
  | ok e =>
    rw [WalkOptions.collect_of_ok he] at hf
    obtain ⟨⟨names, data⟩, hbelow, rfl⟩ := List.mem_map.mp hf
    have hsound := Disk.isSound_of_lookup he
    have hmem := (WalkOptions.mem_eligibleBelow_iff hsound).mp (List.mem_of_mem_take hbelow)
    obtain ⟨above, n, rfl⟩ := (List.eq_nil_or_concat' names).resolve_left hmem.below
    have hn : Path.isName n := Entry.isName_of_below? hsound hmem.isFile n (by simp)
    refine ⟨n, ?_, ?_⟩
    · show ((project.absolute d.workingDirectory).joinAll (above ++ [n])).fileName? = some n
      rw [Path.joinAll, List.foldl_append]
      exact Path.fileName?_join hn
    · show Text.decodeLossy ((above ++ [n]).getLast?.getD []) = _
      rw [List.getLast?_concat, Option.getD_some]

/-- The detectors are chosen by the name in the walk if it is UTF-8 on the disk, and by no name
otherwise. -/
theorem fileNameText_of_mem_collect {o : WalkOptions} {d : Disk} {project : Path} {f : SourceFile}
    (hf : f ∈ o.collect d project) : ∃ n, f.path.fileName? = some n ∧ f.name = Text.decodeLossy n ∧
      f.path.fileNameText = if (Text.decode? n).isSome then f.name else "" := by
  obtain ⟨n, hn, hname⟩ := fileName?_of_mem_collect hf
  refine ⟨n, hn, hname, ?_⟩
  rw [Path.fileNameText, hn, Option.bind_some, hname]
  cases hdecode : Text.decode? n with
  | none => rfl
  | some s => exact (Text.decodeLossy_of_decode? hdecode).symm

/-! ## 2. Scans -/

/-- The outcomes of a scan are those of its files, however they are looked at. -/
theorem mem_outcomes_iff {s : Settings} (hs : 0 < s.batchSize) {ds : List Detector}
    {schedule : Schedule} {files : List SourceFile} {number : Nat} {outcome : Outcome} :
    (number, outcome) ∈ outcomes s ds schedule files ↔
      ∃ f, files[number]? = some f ∧ outcome = inspect ds s.sizeLimit? f := by
  have hshuffled := (outcomes_shuffled hs ds schedule files).perm
  rw [flatten_batches (Settings.width_pos hs)] at hshuffled
  rw [hshuffled.mem_iff, mem_runInOrder_iff]

/-- **On the text of a collected file a scan runs the detectors that are meant for its name, if this
is UTF-8 on the disk; otherwise it runs those that are meant for the empty name.** -/
theorem outcomes_detectors {s : Settings} (hs : 0 < s.batchSize) (ds : List Detector)
    (schedule : Schedule) {o : WalkOptions} {d : Disk} {project : Path} {number : Nat}
    {f : SourceFile} {content : String} (hf : (o.collect d project)[number]? = some f)
    (htext : d.HasText s.sizeLimit? f.path content) :
    ∃ n, f.path.fileName? = some n ∧ f.name = Text.decodeLossy n ∧
      ∀ outcome, (number, outcome) ∈ outcomes s ds schedule (o.collect d project) ↔
        outcome = .ok ((supporting ds (if (Text.decode? n).isSome then f.name else "")).filterMap
          (·.contribution content f.path)) := by
  have hmem : f ∈ o.collect d project := List.mem_of_getElem? hf
  obtain ⟨n, hn, hname, hrun⟩ := fileNameText_of_mem_collect hmem
  refine ⟨n, hn, hname, fun outcome => ?_⟩
  have hinspect : inspect ds s.sizeLimit? f = .ok (scanContent ds content f.path) :=
    inspect_eq_ok_iff.mpr ⟨content, (SourceFile.text?_eq_some_iff_hasText hmem).mpr htext, rfl⟩
  rw [scanContent, hrun] at hinspect
  rw [mem_outcomes_iff hs, ← hinspect]
  constructor
  · rintro ⟨f', hf', rfl⟩
    obtain rfl := Option.some.inj (hf.symm.trans hf')
    rfl
  · rintro rfl
    exact ⟨f, hf, rfl⟩

/-- A script whose name is not UTF-8. -/
def oddScript : Name := [0x61, 0xFF] ++ Text.encode ".js"

/-- The script in a directory, beside one whose name is UTF-8. -/
def oddScripts : Disk :=
  ((Disk.fresh [Text.encode "home"]).addFile ⟨Text.encode "work/" ++ oddScript⟩
    (Text.encode "camera")).addFile
    (.ofText "work/é.js") (Text.encode "camera")

/-- The two scripts as they are collected. -/
theorem collect_oddScripts :
    scriptsWalk.collect oddScripts (.ofText "work") =
      [⟨⟨Text.encode "/home/work/" ++ oddScript⟩, "a\uFFFD.js", "a\uFFFD.js", Text.encode "camera"⟩,
        ⟨.ofText "/home/work/é.js", "é.js", "é.js", Text.encode "camera"⟩] := by
  decide +kernel

theorem outcomes_detectors_oddScripts :
    ∃ f, (scriptsWalk.collect oddScripts (.ofText "work"))[1]? = some f ∧
      oddScripts.HasText (some 8) f.path "camera" ∧
      ∃ n, f.path.fileName? = some n ∧ f.name = Text.decodeLossy n ∧
        ∀ outcome, (1, outcome) ∈ outcomes serialAuditor.settings serialAuditor.detectors .inOrder
            (scriptsWalk.collect oddScripts (.ofText "work")) ↔
          outcome = .ok ((supporting serialAuditor.detectors
            (if (Text.decode? n).isSome then f.name else "")).filterMap
              (·.contribution "camera" f.path)) := by
  have hf : (scriptsWalk.collect oddScripts (.ofText "work"))[1]? =
      some ⟨.ofText "/home/work/é.js", "é.js", "é.js", Text.encode "camera"⟩ := by
    rw [collect_oddScripts]
    rfl
  have htext : oddScripts.HasText (some 8) (.ofText "/home/work/é.js") "camera" :=
    (SourceFile.text?_eq_some_iff_hasText (List.mem_of_getElem? hf)).mp (by decide +kernel)
  exact ⟨_, hf, htext, outcomes_detectors (by decide) serialAuditor.detectors .inOrder hf htext⟩

/-- A detector is meant for the name of the other script in the walk and finds something in its
text, but it is not run on it. -/
theorem oddScript_meets_no_detector :
    ∃ f, (scriptsWalk.collect oddScripts (.ofText "work"))[0]? = some f ∧
      oddScripts.HasText (some 8) f.path "camera" ∧
      (supporting serialAuditor.detectors f.name).filterMap (·.contribution "camera" f.path) ≠ [] ∧
      (0, .ok []) ∈ outcomes serialAuditor.settings serialAuditor.detectors .inOrder
        (scriptsWalk.collect oddScripts (.ofText "work")) := by
  have hf : (scriptsWalk.collect oddScripts (.ofText "work"))[0]? =
      some ⟨⟨Text.encode "/home/work/" ++ oddScript⟩, "a\uFFFD.js", "a\uFFFD.js",
        Text.encode "camera"⟩ := by
    rw [collect_oddScripts]
    rfl
  have htext : oddScripts.HasText (some 8) ⟨Text.encode "/home/work/" ++ oddScript⟩ "camera" :=
    (SourceFile.text?_eq_some_iff_hasText (List.mem_of_getElem? hf)).mp (by decide +kernel)
  refine ⟨_, hf, htext, by decide +kernel, ?_⟩
  have hinspect :
      inspect serialAuditor.detectors (some 8) ⟨⟨Text.encode "/home/work/" ++ oddScript⟩,
        "a\uFFFD.js", "a\uFFFD.js", Text.encode "camera"⟩ = .ok [] := by
    exact inspect_eq_ok_iff.mpr ⟨"camera", by decide +kernel, by decide +kernel⟩
  exact (mem_outcomes_iff (by decide)).mpr ⟨_, hf, hinspect.symm⟩

end PrivacyAudit
