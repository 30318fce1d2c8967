import PrivacyAudit.Walk
import PrivacyAudit.Proofs.Tree
import Mathlib.Data.List.Basic

/-!
# What a walk finds, and in which order

`Entry.files` enters directories one by one and leaves some out. Seen from outside there is no walk:
a file is found if names lead to it and no directory on the way is left out (`mem_files_iff`), and
the files found stand in the order of their names, compared name by name (`files_ordered`). The two
together fix the list.
-/

namespace PrivacyAudit

/-! ## 1. Sorting by name -/

section Sorting

variable {α : Type}

theorem placeByName_perm (part : Name × α) (parts : List (Name × α)) :
    (placeByName part parts).Perm (part :: parts) := by
  induction parts with
  | nil => exact List.Perm.refl _
  | cons first rest ih =>
    rw [placeByName]
    split
    · exact List.Perm.refl _
    · exact (ih.cons first).trans (List.Perm.swap part first rest)

theorem sortByName_perm (parts : List (Name × α)) : (sortByName parts).Perm parts := by
  induction parts with
  | nil => exact List.Perm.refl _
  | cons part parts ih => exact (placeByName_perm part _).trans (ih.cons part)

theorem placeByName_ordered {part : Name × α} {parts : List (Name × α)}
    (hp : parts.Pairwise (·.1 < ·.1)) (hnew : part.1 ∉ parts.map (·.1)) :
    (placeByName part parts).Pairwise (·.1 < ·.1) := by
  induction parts with
  | nil => exact List.pairwise_singleton _ _
  | cons first rest ih =>
    obtain ⟨hfirst, hrest⟩ := List.pairwise_cons.mp hp
    rw [List.map_cons, List.mem_cons, not_or] at hnew
    rw [placeByName]
    split
    · next hlt =>
      refine List.pairwise_cons.mpr ⟨fun later hmem => ?_, hp⟩
      rcases List.mem_cons.mp hmem with rfl | hmem
      · exact hlt
      · exact List.lt_trans hlt (hfirst later hmem)
    · next hnot =>
      have hlt : first.1 < part.1 :=
        Std.lt_of_le_of_ne (List.not_lt.mp hnot) (fun heq => hnew.1 heq.symm)
      refine List.pairwise_cons.mpr ⟨fun later hmem => ?_, ih hrest hnew.2⟩
      rcases List.mem_cons.mp ((placeByName_perm part rest).mem_iff.mp hmem) with rfl | hmem
      · exact hlt
      · exact hfirst later hmem

theorem sortByName_ordered {parts : List (Name × α)} (hnodup : (parts.map (·.1)).Nodup) :
    (sortByName parts).Pairwise (·.1 < ·.1) := by
  induction parts with
  | nil => exact List.Pairwise.nil
  | cons part parts ih =>
    obtain ⟨hnew, hrest⟩ := List.nodup_cons.mp hnodup
    refine placeByName_ordered (ih hrest) fun hmem => hnew ?_
    exact ((sortByName_perm parts).map (·.1)).mem_iff.mp hmem

end Sorting

namespace Entry

/-! ## 2. The files of a directory -/

variable {prune : List Name → Bool}

/-- The files that a walk finds at an entry of a directory. -/
def filesAt (prune : List Name → Bool) (above : List Name) (n : Name) (e : Entry) :
    List FileBelow :=
  if e.isDirectory && prune (above ++ [n]) then [] else e.files prune (above ++ [n])

theorem filesOfEntries_eq (prune : List Name → Bool) (above : List Name)
    (entries : List (Name × Entry)) :
    files.filesOfEntries prune above entries =
      entries.map fun p => (p.1, filesAt prune above p.1 p.2) := by
  induction entries with
  | nil => rfl
  | cons p rest ih => rw [files.filesOfEntries, ih, List.map_cons, filesAt]

theorem files_directory (prune : List Name → Bool) (above : List Name)
    (entries : List (Name × Entry)) : (Entry.directory entries).files prune above =
      (sortByName (entries.map fun p => (p.1, filesAt prune above p.1 p.2))).flatMap (·.2) := by
  rw [files, filesOfEntries_eq]

theorem mem_filesAt_iff {above : List Name} {n : Name} {e : Entry} {f : FileBelow} :
    f ∈ filesAt prune above n e ↔
      (e.isDirectory → prune (above ++ [n]) = false) ∧ f ∈ e.files prune (above ++ [n]) := by
  unfold filesAt
  cases e.isDirectory <;> cases prune (above ++ [n]) <;> simp

theorem mem_files_directory_iff {above : List Name} {entries : List (Name × Entry)}
    {f : FileBelow} :
    f ∈ (Entry.directory entries).files prune above ↔
      ∃ n e, (n, e) ∈ entries ∧ f ∈ filesAt prune above n e := by
  rw [files_directory, List.mem_flatMap]
  constructor
  · rintro ⟨part, hpart, hf⟩
    obtain ⟨⟨n, e⟩, hmem, rfl⟩ := List.mem_map.mp ((sortByName_perm _).mem_iff.mp hpart)
    exact ⟨n, e, hmem, hf⟩
  · rintro ⟨n, e, hmem, hf⟩
    exact ⟨_, (sortByName_perm _).mem_iff.mpr (List.mem_map.mpr ⟨(n, e), hmem, rfl⟩), hf⟩

/-! ## 3. Which files are found -/

/-- No directory that names lead through, before the last of them, is left out. -/
def Entered (prune : List Name → Bool) (above names : List Name) : Prop :=
  ∀ way n rest, names = way ++ n :: rest → rest ≠ [] → prune (above ++ way ++ [n]) = false

theorem entered_nil (prune : List Name → Bool) (above : List Name) : Entered prune above [] := by
  intro way n rest heq
  simp at heq

theorem entered_cons_iff {above : List Name} {n : Name} {names : List Name} :
    Entered prune above (n :: names) ↔
      (names ≠ [] → prune (above ++ [n]) = false) ∧ Entered prune (above ++ [n]) names := by
  constructor
  · intro h
    refine ⟨fun hne => by simpa using h [] n names rfl hne, fun way m rest heq hne => ?_⟩
    have hway := h (n :: way) m rest (by rw [heq, List.cons_append]) hne
    rwa [List.append_cons above n way] at hway
  · rintro ⟨hhead, htail⟩ way m rest heq hne
    cases way with
    | nil =>
      obtain ⟨rfl, rfl⟩ := List.cons.inj heq
      simpa using hhead hne
    | cons k way =>
      obtain ⟨rfl, rfl⟩ := List.cons.inj heq
      rw [List.append_cons above n way]
      exact htail way m rest rfl hne

/-- A walk finds the files that names lead to through directories that it enters. -/
theorem mem_files_iff {e : Entry} (hs : e.isSound) {above : List Name} {f : FileBelow} :
    f ∈ e.files prune above ↔
      ∃ names, f.1 = above ++ names ∧ e.below? names = some (.file f.2) ∧
      Entered prune above names := by
  induction e using Entry.induction generalizing above with
  | file data =>
    rw [files, List.mem_singleton]
    constructor
    · rintro rfl
      exact ⟨[], by simp, by simp, entered_nil prune above⟩
    · rintro ⟨names, hf, hbelow, -⟩
      cases names with
      | nil =>
        have hdata : data = f.2 := by simpa using hbelow
        exact Prod.ext (by simpa using hf) hdata.symm
      | cons n names => simp [below?] at hbelow
  | link target =>
    constructor
    · intro h
      simp [files] at h
    · rintro ⟨names, -, hbelow, -⟩
      cases names <;> simp [below?] at hbelow
  | directory entries ih =>
    rw [mem_files_directory_iff]
    constructor
    · rintro ⟨n, e, hmem, hf⟩
      have he := ((isSound_directory_iff.mp hs).2 _ hmem).2
      obtain ⟨hentered, hfiles⟩ := mem_filesAt_iff.mp hf
      obtain ⟨names, hnames, hbelow, hrest⟩ := (ih n e hmem he).mp hfiles
      refine ⟨n :: names, by rw [hnames, ← List.append_cons], ?_, entered_cons_iff.mpr ⟨?_, hrest⟩⟩
      · rw [below?_cons_directory, (find?_eq_some_iff hs).mpr hmem, Option.bind_some, hbelow]
      · intro hne
        obtain ⟨m, ms, rfl⟩ := List.exists_cons_of_ne_nil hne
        obtain ⟨_, _, rfl, -, -⟩ := below?_cons_eq_some_iff.mp hbelow
        exact hentered rfl
    · rintro ⟨names, hnames, hbelow, hentered⟩
      cases names with
      | nil => simp at hbelow
      | cons n names =>
        obtain ⟨_, e, heq, hfind, hrest⟩ := below?_cons_eq_some_iff.mp hbelow
        obtain rfl : entries = _ := by simpa using heq
        have hmem := mem_of_find? hfind
        have he := isSound_of_find? hs hfind
        obtain ⟨hhead, htail⟩ := entered_cons_iff.mp hentered
        refine ⟨n, e, hmem, mem_filesAt_iff.mpr ⟨fun hdir => hhead ?_, (ih n e hmem he).mpr
          ⟨names, by rw [hnames, List.append_cons], hrest, htail⟩⟩⟩
        rintro rfl
        obtain rfl : e = .file f.2 := by simpa using hrest
        cases hdir

/-! ## 4. In which order they are found -/

/-- The files that a walk finds stand in the order of their names. -/
theorem files_ordered {e : Entry} (hs : e.isSound) (above : List Name) :
    (e.files prune above).Pairwise (·.1 < ·.1) := by
  induction e using Entry.induction generalizing above with
  | file data => exact List.pairwise_singleton _ _
  | link target => exact List.Pairwise.nil
  | directory entries ih =>
    obtain ⟨hnodup, hsound⟩ := isSound_directory_iff.mp hs
    rw [files_directory, List.pairwise_flatMap]
    have hpart {part : Name × List FileBelow}
        (h : part ∈ sortByName (entries.map fun p => (p.1, filesAt prune above p.1 p.2))) :
        ∃ e, (part.1, e) ∈ entries ∧ part.2 = filesAt prune above part.1 e := by
      obtain ⟨⟨n, e⟩, hmem, rfl⟩ := List.mem_map.mp ((sortByName_perm _).mem_iff.mp h)
      exact ⟨e, hmem, rfl⟩
    -- Within a part the files are ordered by induction; two parts differ in the name behind
    -- `above`.
    constructor
    · intro part hmem
      obtain ⟨e, he, hfiles⟩ := hpart hmem
      rw [hfiles, filesAt]
      split
      · exact List.Pairwise.nil
      · exact ih part.1 e he (hsound _ he).2 _
    · refine (sortByName_ordered ?_).imp_of_mem fun {p q} hp hq hlt f hf g hg => ?_
      · simpa [Function.comp_def] using hnodup
      · obtain ⟨e, he, hfiles⟩ := hpart hp
        obtain ⟨e', he', hfiles'⟩ := hpart hq
        rw [hfiles, mem_filesAt_iff, mem_files_iff (hsound _ he).2] at hf
        rw [hfiles', mem_filesAt_iff, mem_files_iff (hsound _ he').2] at hg
        obtain ⟨-, names, hf, -, -⟩ := hf
        obtain ⟨-, names', hg, -, -⟩ := hg
        rw [hf, hg, ← List.append_cons, ← List.append_cons]
        exact List.append_left_lt (List.Lex.rel hlt)

end Entry

/-! ## 5. How many are kept -/

/-- Going along a walk until enough files are found keeps the first of those that count. -/
theorem WalkOptions.gather_eq_take (o : WalkOptions) (room : Nat) (found : List FileBelow) :
    o.gather room found = (found.filter fun f => o.accepts (relativeText f.1)).take room := by
  induction found generalizing room with
  | nil => cases room <;> simp [gather]
  | cons f rest ih =>
    cases room with
    | zero => simp [gather]
    | succ room =>
      rw [gather, ih, ih]
      by_cases hf : o.accepts (relativeText f.1) = true
      · rw [List.filter_cons, if_pos hf, if_pos hf, List.take_succ_cons]
      · rw [List.filter_cons, if_neg hf, if_neg hf]

end PrivacyAudit
