import PrivacyAudit.Proofs.Joining
import PrivacyAudit.Proofs.Walking

/-!
# The files that are collected

`WalkOptions.Eligible` says which files of a project count, by what names lead to in its tree and by
the patterns. What a walk collects is the beginning of the list of these files in the order of their
names (`collect_exact`): the walk's pruning, its order and its early end are not seen in the result,
and neither is the order in which directories list their entries.
-/

namespace PrivacyAudit

namespace WalkOptions

/-! ## 1. Which files count -/

/-- The file that names lead to counts: it lies strictly below the project's directory, no directory
on the way is skipped by its name or left out by an exclude pattern, and the patterns select its
path. -/
structure Eligible (o : WalkOptions) (project : Entry) (f : FileBelow) : Prop where
  below : f.1 ≠ []
  isFile : project.below? f.1 = some (.file f.2)
  notSkipped : ∀ way n rest, f.1 = way ++ n :: rest → rest ≠ [] →
    isSkippedDirectory (Text.decodeLossy n) = false
  notLeftOut : ∀ way n rest, f.1 = way ++ n :: rest → rest ≠ [] → ∀ g ∈ o.excludes,
    g.accepts (relativeText (way ++ [n])) = false ∧
    g.accepts (relativeText (way ++ [n]) ++ "/") = false
  notExcluded : ∀ g ∈ o.excludes, g.accepts (relativeText f.1) = false
  included : ∃ g ∈ o.includes, g.accepts (relativeText f.1) = true

theorem prunes_eq_false_iff {o : WalkOptions} {way : List Name} {n : Name} :
    o.prunes (way ++ [n]) = false ↔ isSkippedDirectory (Text.decodeLossy n) = false ∧
      ∀ g ∈ o.excludes, g.accepts (relativeText (way ++ [n])) = false ∧
        g.accepts (relativeText (way ++ [n]) ++ "/") = false := by
  rw [prunes, excludesDirectory, Glob.anyAccepts, Glob.anyAccepts]
  simp [forall_and]

theorem accepts_iff {o : WalkOptions} {relative : String} :
    o.accepts relative ↔ (∀ g ∈ o.excludes, g.accepts relative = false) ∧
      ∃ g ∈ o.includes, g.accepts relative = true := by
  simp [accepts, Glob.anyAccepts]

theorem mem_walked_iff {o : WalkOptions} {e : Entry} (hs : e.isSound) {f : FileBelow} :
    f ∈ o.walked e ↔
      f.1 ≠ [] ∧ e.below? f.1 = some (.file f.2) ∧ Entry.Entered o.prunes [] f.1 := by
  cases e with
  | file data =>
    refine ⟨fun h => (List.not_mem_nil h).elim, ?_⟩
    rintro ⟨hne, hbelow, -⟩
    obtain ⟨n, names, hf⟩ := List.exists_cons_of_ne_nil hne
    simp [hf, Entry.below?] at hbelow
  | link target =>
    refine ⟨fun h => (List.not_mem_nil h).elim, ?_⟩
    rintro ⟨hne, hbelow, -⟩
    obtain ⟨n, names, hf⟩ := List.exists_cons_of_ne_nil hne
    simp [hf, Entry.below?] at hbelow
  | directory entries =>
    rw [walked, Entry.mem_files_iff hs]
    constructor
    · rintro ⟨names, hf, hbelow, hentered⟩
      obtain rfl : f.1 = names := by simpa using hf
      refine ⟨?_, hbelow, hentered⟩
      intro hnil
      simp [hnil] at hbelow
    · rintro ⟨-, hbelow, hentered⟩
      exact ⟨f.1, by simp, hbelow, hentered⟩

/-- Whether a file counts is not a matter of the order in which directories list their entries. -/
theorem Eligible.alike {o : WalkOptions} {e e' : Entry} {f : FileBelow} (h : o.Eligible e f)
    (halike : e.Alike e') : o.Eligible e' f :=
  { h with isFile := halike.file_iff.mp h.isFile }

/-! ## 2. The files of an entry in their order -/

/-- The files below an entry that count, in the order of their names. -/
def eligibleBelow (o : WalkOptions) (e : Entry) : List FileBelow :=
  (o.walked e).filter fun f => o.accepts (relativeText f.1)

theorem mem_eligibleBelow_iff {o : WalkOptions} {e : Entry} (hs : e.isSound) {f : FileBelow} :
    f ∈ o.eligibleBelow e ↔ o.Eligible e f := by
  rw [eligibleBelow, List.mem_filter, mem_walked_iff hs, accepts_iff]
  constructor
  · rintro ⟨⟨hbelow, hfile, hentered⟩, hexcluded, hincluded⟩
    refine ⟨hbelow, hfile, fun way n rest heq hne => ?_, fun way n rest heq hne => ?_,
      hexcluded, hincluded⟩
    · exact (prunes_eq_false_iff.mp (hentered way n rest heq hne)).1
    · exact (prunes_eq_false_iff.mp (hentered way n rest heq hne)).2
  · intro h
    refine ⟨⟨h.below, h.isFile, fun way n rest heq hne => ?_⟩, h.notExcluded, h.included⟩
    exact prunes_eq_false_iff.mpr ⟨h.notSkipped way n rest heq hne, h.notLeftOut way n rest heq hne⟩

theorem walked_ordered (o : WalkOptions) {e : Entry} (hs : e.isSound) :
    (o.walked e).Pairwise (·.1 < ·.1) := by
  cases e with
  | file data => exact List.Pairwise.nil
  | link target => exact List.Pairwise.nil
  | directory entries => exact Entry.files_ordered hs []

theorem eligibleBelow_ordered (o : WalkOptions) {e : Entry} (hs : e.isSound) :
    (o.eligibleBelow e).Pairwise (·.1 < ·.1) := (o.walked_ordered hs).filter _

/-- Two lists in the order of names with the same files are one list. -/
theorem eq_of_ordered {fs gs : List FileBelow} (hf : fs.Pairwise (·.1 < ·.1))
    (hg : gs.Pairwise (·.1 < ·.1)) (hmem : ∀ f, f ∈ fs ↔ f ∈ gs) : fs = gs := by
  have hne {f g : FileBelow} (hlt : f.1 < g.1) : f ≠ g := by
    rintro rfl
    exact List.lt_irrefl _ hlt
  refine List.Perm.eq_of_pairwise (fun f g _ _ hfg hgf => ?_) hf hg ?_
  · exact absurd (List.lt_trans hfg hgf) (List.lt_irrefl _)
  · exact (List.perm_ext_iff_of_nodup (hf.imp hne) (hg.imp hne)).mpr hmem

theorem eligibleBelow_congr (o : WalkOptions) {e e' : Entry} (hs : e.isSound) (hs' : e'.isSound)
    (h : e.Alike e') : o.eligibleBelow e = o.eligibleBelow e' := by
  refine eq_of_ordered (o.eligibleBelow_ordered hs) (o.eligibleBelow_ordered hs') fun f => ?_
  rw [mem_eligibleBelow_iff hs, mem_eligibleBelow_iff hs']
  exact ⟨fun hf => hf.alike h, fun hf => hf.alike h.symm⟩

/-! ## 3. Collecting -/

theorem collect_of_ok {o : WalkOptions} {d : Disk} {project : Path} {e : Entry}
    (h : d.lookup (project.absolute d.workingDirectory) = .ok e) :
    o.collect d project = ((o.eligibleBelow e).take o.maxFiles).map
      (.ofBelow (project.absolute d.workingDirectory)) := by
  rw [collect, h]
  simp only [gather_eq_take]
  rfl

theorem collect_of_error {o : WalkOptions} {d : Disk} {project : Path} {fault : DiskFault}
    (h : d.lookup (project.absolute d.workingDirectory) = .error fault) :
    o.collect d project = [] := by
  rw [collect, h]

theorem collect_congr (o : WalkOptions) {d d' : Disk}
    (hwd : d.workingDirectory = d'.workingDirectory) (h : d.root.Alike d'.root) (project : Path) :
    o.collect d project = o.collect d' project := by
  have halike {d d' : Disk} (hwd : d.workingDirectory = d'.workingDirectory)
      (h : d.root.Alike d'.root)
      {e : Entry} (he : d.lookup (project.absolute d.workingDirectory) = .ok e) :
      o.collect d project = o.collect d' project := by
    obtain ⟨e', he', hlike⟩ := Disk.lookup_congr hwd h he
    rw [hwd] at he'
    rw [collect_of_ok he, collect_of_ok he', hwd,
      o.eligibleBelow_congr (Disk.isSound_of_lookup he) (Disk.isSound_of_lookup he') hlike]
  cases he : d.lookup (project.absolute d.workingDirectory) with
  | ok e => exact halike hwd h he
  | error fault =>
    cases he' : d'.lookup (project.absolute d'.workingDirectory) with
    | ok e' => exact (halike hwd.symm h.symm he').symm
    | error fault' => rw [collect_of_error he, collect_of_error he']

/-- Different files below a sound directory have different paths. -/
theorem paths_nodup {o : WalkOptions} {e : Entry} (hs : e.isSound) (project : Path) (n : Nat) :
    ((((o.eligibleBelow e).take n).map (SourceFile.ofBelow project)).map (·.path)).Nodup := by
  rw [List.map_map]
  have hordered := (o.eligibleBelow_ordered hs).sublist (List.take_sublist n _)
  refine List.Pairwise.map _ (fun f g h => h) (hordered.imp_of_mem fun {f g} hf hg hlt hpath => ?_)
  have hf := (mem_eligibleBelow_iff hs).mp (List.mem_of_mem_take hf)
  have hg := (mem_eligibleBelow_iff hs).mp (List.mem_of_mem_take hg)
  have hnames : f.1 = g.1 := Path.joinAll_injective hf.below hg.below
    (Entry.isName_of_below? hs hf.isFile) (Entry.isName_of_below? hs hg.isFile) hpath
  rw [hnames] at hlt
  exact List.lt_irrefl _ hlt

/-- What is collected from the project at a path is the beginning, as long as `maxFiles` allows, of
the list of the files that count, in the order of the names that lead to them; no file occurs twice.
How the directories of the disk list their entries does not matter. -/
theorem collect_exact (o : WalkOptions) (d : Disk) (project : Path) :
    ∃ eligible : List FileBelow,
      eligible.Pairwise (·.1 < ·.1) ∧
      (∀ f, f ∈ eligible ↔
        ∃ e, d.lookup (project.absolute d.workingDirectory) = .ok e ∧ o.Eligible e f) ∧
      o.collect d project = (eligible.take o.maxFiles).map (fun f =>
        { path := (project.absolute d.workingDirectory).joinAll f.1
          name := Text.decodeLossy (f.1.getLast?.getD [])
          relativePath := "/".intercalate (f.1.map Text.decodeLossy)
          data := f.2 }) ∧
      ((o.collect d project).map (·.path)).Nodup ∧
      ∀ d' : Disk, d.workingDirectory = d'.workingDirectory → d.root.Alike d'.root →
        o.collect d project = o.collect d' project := by
  cases he : d.lookup (project.absolute d.workingDirectory) with
  | error fault =>
    rw [collect_of_error he]
    refine ⟨[], List.Pairwise.nil, by simp, by simp, by simp, fun d' hwd h => ?_⟩
    rw [← collect_congr o hwd h, collect_of_error he]
  | ok e =>
    have hs := Disk.isSound_of_lookup he
    refine ⟨o.eligibleBelow e, o.eligibleBelow_ordered hs, fun f => ?_, collect_of_ok he, ?_,
      fun d' hwd h => collect_congr o hwd h project⟩
    · rw [mem_eligibleBelow_iff hs]
      simp
    · rw [collect_of_ok he]
      exact paths_nodup hs _ _

/-! ## 4. A directory listed in two orders -/

/-- Two scripts, one of them in a directory; a third in a hidden directory, one that is a link, and
one that comes last by its name. -/
def scripts : List (Name × Entry) :=
  [(Text.encode "z.js", .file []), (Text.encode "a.js", .file []),
    (Text.encode "b.js", .link (.ofText "a.js")),
    (Text.encode ".git", .directory [(Text.encode "c.js", .file [])]),
    (Text.encode "a", .directory [(Text.encode "x.js", .file [])])]

/-- The scripts on a disk. -/
def listed : Disk := ⟨.directory scripts, .ofText "/", by decide +kernel⟩

/-- The same scripts, listed from the last to the first. -/
def listedBackwards : Disk := ⟨.directory scripts.reverse, .ofText "/", by decide +kernel⟩

/-- Up to two scripts. -/
def twoScripts : WalkOptions := ⟨(Glob.ofTexts? ["**/*.js"]).toOption.getD [], [], 2⟩

theorem collect_exact_backwards :
    listed.workingDirectory = listedBackwards.workingDirectory ∧
    listed.root.Alike listedBackwards.root ∧
      twoScripts.collect listed (.ofText "/") = twoScripts.collect listedBackwards (.ofText "/") ∧
      (twoScripts.collect listed (.ofText "/")).map (·.relativePath) = ["a/x.js", "a.js"] := by
  have hlike : listed.root.Alike listedBackwards.root :=
    Entry.Alike.of_perm listed.sound (List.reverse_perm scripts).symm
  obtain ⟨_, _, _, _, _, hsame⟩ := twoScripts.collect_exact listed (.ofText "/")
  exact ⟨rfl, hlike, hsame listedBackwards rfl hlike, by decide +kernel⟩

end WalkOptions

end PrivacyAudit
