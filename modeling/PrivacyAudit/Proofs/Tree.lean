import PrivacyAudit.Disk.Basic

/-!
# Trees by what names lead to

A tree is what `Entry.below?` finds in it. The order in which the entries of a directory are listed
is not part of that: `Entry.Alike` says that two trees have the same files, links and directories at
the same places, and following a path through two such trees leads to the same place
(`follow_congr`, `lookup_congr`).

Induction on a tree is induction on what its directories hold (`Entry.induction`).
-/

namespace PrivacyAudit

namespace Entry

/-! ## 1. Induction -/

/-- What holds of files, of links, and of a directory as soon as it holds of its entries, holds of
every tree. -/
@[elab_as_elim]
theorem induction {motive : Entry → Prop} (file : ∀ data, motive (.file data))
    (link : ∀ target, motive (.link target))
    (directory : ∀ entries, (∀ n e, (n, e) ∈ entries → motive e) → motive (.directory entries)) :
    ∀ e, motive e
  | .file data => file data
  | .link target => link target
  | .directory entries => directory entries fun n e _hmem => induction file link directory e
  termination_by e => sizeOf e
  decreasing_by
    have hentries := List.sizeOf_lt_of_mem _hmem
    have hpair : sizeOf (n, e) = 1 + sizeOf n + sizeOf e := rfl
    have hdirectory : sizeOf (Entry.directory entries) = 1 + sizeOf entries := by simp
    omega

/-! ## 2. Entries of a directory -/

theorem find?_eq_some_iff {entries : List (Name × Entry)} (hs : (Entry.directory entries).isSound)
    {n : Name} {e : Entry} : find? entries n = some e ↔ (n, e) ∈ entries := by
  obtain ⟨hnodup, -⟩ := isSound_directory_iff.mp hs
  clear hs
  refine ⟨mem_of_find?, fun h => ?_⟩
  induction entries with
  | nil => cases h
  | cons p rest ih =>
    rw [List.map_cons, List.nodup_cons] at hnodup
    rcases List.mem_cons.mp h with rfl | hmem
    · simp [find?]
    · have hne : (n == p.1) = false := by
        refine beq_eq_false_iff_ne.mpr ?_
        rintro rfl
        exact hnodup.1 (List.mem_map.mpr ⟨_, hmem, rfl⟩)
      rw [find?, List.lookup_cons, hne]
      exact ih hnodup.2 hmem

/-! ## 3. The entry that names lead to -/

@[simp] theorem below?_nil (e : Entry) : e.below? [] = some e := by cases e <;> rfl

theorem below?_cons_directory (entries : List (Name × Entry)) (n : Name) (names : List Name) :
    (Entry.directory entries).below? (n :: names) = (find? entries n).bind (below? · names) := rfl

theorem below?_cons_eq_some_iff {e found : Entry} {n : Name} {names : List Name} :
    e.below? (n :: names) = some found ↔
      ∃ entries child, e = .directory entries ∧ find? entries n = some child ∧
        child.below? names = some found := by
  cases e with
  | file data => simp [below?]
  | link target => simp [below?]
  | directory entries => simp [below?_cons_directory, Option.bind_eq_some_iff]

theorem below?_append (e : Entry) (above names : List Name) :
    e.below? (above ++ names) = (e.below? above).bind (below? · names) := by
  induction above generalizing e with
  | nil => simp
  | cons n above ih =>
    cases e with
    | file data => simp [below?]
    | link target => simp [below?]
    | directory entries =>
      rw [List.cons_append, below?_cons_directory, below?_cons_directory, Option.bind_assoc]
      exact Option.bind_congr fun child _ => ih child

theorem find?_eq_below? (entries : List (Name × Entry)) (n : Name) :
    find? entries n = (Entry.directory entries).below? [n] := by
  rw [below?_cons_directory]
  cases find? entries n <;> simp

/-- The names on a way through a sound tree are names that entries can have. -/
theorem isName_of_below? {e found : Entry} {names : List Name} (hs : e.isSound)
    (h : e.below? names = some found) : ∀ n ∈ names, Path.isName n := by
  induction names generalizing e with
  | nil => simp
  | cons n names ih =>
    obtain ⟨entries, child, rfl, hfind, hbelow⟩ := below?_cons_eq_some_iff.mp h
    have hchild := (isSound_directory_iff.mp hs).2 _ (mem_of_find? hfind)
    rw [List.forall_mem_cons]
    exact ⟨hchild.1, ih hchild.2 hbelow⟩

theorem isSound_of_below? {e found : Entry} {names : List Name} (hs : e.isSound)
    (h : e.below? names = some found) : found.isSound := by
  induction names generalizing e with
  | nil =>
    obtain rfl : e = found := by simpa using h
    exact hs
  | cons n names ih =>
    obtain ⟨entries, child, rfl, hfind, hbelow⟩ := below?_cons_eq_some_iff.mp h
    exact ih (isSound_of_find? hs hfind) hbelow

/-! ## 4. The same tree in another order -/

/-- What an entry is, without what it holds if it is a directory. -/
inductive Kind
  | file (data : Bytes)
  | link (target : Path)
  | directory
  deriving DecidableEq, Repr

/-- What the entry is, without what it holds if it is a directory. -/
def kind : Entry → Kind
  | .file data => .file data
  | .link target => .link target
  | .directory _ => .directory

theorem kind_cases {found found' : Option Entry} (h : found.map kind = found'.map kind) :
    (found = none ∧ found' = none) ∨
      (∃ data, found = some (.file data) ∧ found' = some (.file data)) ∨
      (∃ target, found = some (.link target) ∧ found' = some (.link target)) ∨
      ∃ entries entries', found = some (.directory entries) ∧
      found' = some (.directory entries') := by
  match found, found' with
  | none, none => exact .inl ⟨rfl, rfl⟩
  | none, some e' => cases h
  | some e, none => cases h
  | some e, some e' =>
    have hkind : kind e = kind e' := by simpa using h
    cases e <;> cases e' <;> simp_all [kind]

/-- The same files, links and directories stand at the same places, in whatever order directories
list them. -/
def Alike (e e' : Entry) : Prop := ∀ names, (e.below? names).map kind = (e'.below? names).map kind

namespace Alike

theorem symm {e e' : Entry} (h : e.Alike e') : e'.Alike e := fun names => (h names).symm

theorem isSome {e e' : Entry} (h : e.Alike e') (names : List Name) :
    (e.below? names).isSome = (e'.below? names).isSome := by
  have hmap := congrArg Option.isSome (h names)
  simpa using hmap

theorem file_iff {e e' : Entry} (h : e.Alike e') {names : List Name} {data : Bytes} :
    e.below? names = some (.file data) ↔ e'.below? names = some (.file data) := by
  rcases kind_cases (h names) with ⟨hd, hd'⟩ | ⟨_, hd, hd'⟩ | ⟨_, hd, hd'⟩ | ⟨_, _, hd, hd'⟩ <;>
    simp [hd, hd']

/-- Alike trees have alike trees at each place. -/
theorem below {e e' found found' : Entry} (h : e.Alike e') {names : List Name}
    (hfound : e.below? names = some found) (hfound' : e'.below? names = some found') :
    found.Alike found' := by
  intro rest
  have hboth := h (names ++ rest)
  rwa [below?_append, below?_append, hfound, hfound'] at hboth

/-- Directories that list the same entries in different orders are alike. -/
theorem of_perm {entries entries' : List (Name × Entry)} (hs : (Entry.directory entries).isSound)
    (h : entries.Perm entries') : (Entry.directory entries).Alike (.directory entries') := by
  have hs' : (Entry.directory entries').isSound := by
    obtain ⟨hnodup, hall⟩ := isSound_directory_iff.mp hs
    exact isSound_directory_iff.mpr
      ⟨(h.map (·.1)).nodup_iff.mp hnodup, fun p hp => hall p (h.mem_iff.mpr hp)⟩
  have hfind (n : Name) : Entry.find? entries n = Entry.find? entries' n := by
    ext e
    rw [find?_eq_some_iff hs, find?_eq_some_iff hs', h.mem_iff]
  intro names
  cases names with
  | nil => simp [kind]
  | cons n names => rw [below?_cons_directory, below?_cons_directory, hfind]

/-- What a directory has under a name is of the same kind in alike trees. -/
theorem find? {e e' : Entry} (h : e.Alike e') {place : List Name}
    {entries entries' : List (Name × Entry)} (hd : e.below? place = some (.directory entries))
    (hd' : e'.below? place = some (.directory entries')) (n : Name) :
    (Entry.find? entries n).map kind = (Entry.find? entries' n).map kind := by
  rw [find?_eq_below?, find?_eq_below?]
  exact h.below hd hd' [n]

end Alike

end Entry

/-! ## 5. Following a path through alike trees -/

namespace Disk

open Entry (kind)

theorem walk_congr {root root' : Entry} (h : root.Alike root') (mayCreate : Bool)
    (onLink : List Name → List Step → Except DiskFault (List Name)) (place : List Name)
    (steps : List Step) :
    walk root mayCreate onLink place steps = walk root' mayCreate onLink place steps := by
  induction steps generalizing place with
  | nil => rfl
  | cons step rest ih =>
    rw [walk, walk]
    rcases Entry.kind_cases (h place) with ⟨hd, hd'⟩ | ⟨data, hd, hd'⟩ | ⟨target, hd, hd'⟩ |
      ⟨entries, entries', hd, hd'⟩
    · simp only [hd, hd']
    · simp only [hd, hd']
    · simp only [hd, hd']
    · cases step with
      | here => simpa only [hd, hd'] using ih place
      | up => simpa only [hd, hd'] using ih place.dropLast
      | down n =>
        rcases Entry.kind_cases (h.find? hd hd' n) with ⟨hf, hf'⟩ | ⟨data, hf, hf'⟩ |
          ⟨target, hf, hf'⟩ | ⟨below, below', hf, hf'⟩
        · simp only [hd, hd', hf, hf']
        · simpa only [hd, hd', hf, hf'] using ih (place ++ [n])
        · simp only [hd, hd', hf, hf']
        · simpa only [hd, hd', hf, hf'] using ih (place ++ [n])

theorem follow_congr {root root' : Entry} (h : root.Alike root') (mayCreate : Bool) (links : Nat) :
    follow root mayCreate links = follow root' mayCreate links := by
  induction links with
  | zero =>
    funext place steps
    exact walk_congr h mayCreate _ place steps
  | succ links ih =>
    funext place steps
    rw [follow, follow, ih]
    exact walk_congr h mayCreate _ place steps

theorem locate_congr {d d' : Disk} (hwd : d.workingDirectory = d'.workingDirectory)
    (h : d.root.Alike d'.root) (mayCreate : Bool) (p : Path) :
    d.locate mayCreate p = d'.locate mayCreate p := by
  rw [locate, locate, hwd, follow_congr h]

theorem lookup_eq_ok_iff {d : Disk} {p : Path} {e : Entry} :
    d.lookup p = .ok e ↔ ∃ place, d.locate false p = .ok place ∧ d.root.below? place = some e := by
  unfold lookup
  cases d.locate false p with
  | error fault => simp [bind, Except.bind]
  | ok place => cases hbelow : d.root.below? place <;> simp [bind, Except.bind, hbelow, pure,
      Except.pure]

/-- Wherever a path leads on one disk, it leads to a like entry on a disk with an alike tree. -/
theorem lookup_congr {d d' : Disk} (hwd : d.workingDirectory = d'.workingDirectory)
    (h : d.root.Alike d'.root) {p : Path} {e : Entry} (he : d.lookup p = .ok e) :
    ∃ e', d'.lookup p = .ok e' ∧ e.Alike e' := by
  obtain ⟨place, hplace, hbelow⟩ := lookup_eq_ok_iff.mp he
  have hsome : (d'.root.below? place).isSome := by rw [← h.isSome place, hbelow]; rfl
  obtain ⟨e', hbelow'⟩ := Option.isSome_iff_exists.mp hsome
  exact ⟨e', lookup_eq_ok_iff.mpr ⟨place, locate_congr hwd h false p ▸ hplace, hbelow'⟩,
    h.below hbelow hbelow'⟩

theorem isSound_of_lookup {d : Disk} {p : Path} {e : Entry} (h : d.lookup p = .ok e) :
    e.isSound := by
  obtain ⟨place, -, hbelow⟩ := lookup_eq_ok_iff.mp h
  exact Entry.isSound_of_below? d.sound hbelow

end Disk

end PrivacyAudit
