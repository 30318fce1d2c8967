import PrivacyAudit.Disk.Path

/-!
# Entries

A directory's entries are files, symbolic links and directories. An entry with all that is below it
is a tree; names lead from its top to an entry in it, and no link is followed on the way.

`Entry.isSound` is what a file system promises of its directories: no two entries of one name, and
only names that stand for themselves in a path. The operations on trees keep it (`isSound_put`,
`isSound_putBelow`, `isSound_removeBelow`).
-/

namespace PrivacyAudit

/-- The contents of a file. -/
abbrev Bytes := List UInt8

/-- An entry of a directory. -/
inductive Entry
  | file (data : Bytes)
  | link (target : Path)
  | directory (entries : List (Name × Entry))
  deriving Repr, Inhabited

namespace Entry

/-- Whether the entry is a directory. -/
def isDirectory : Entry → Bool
  | .directory _ => true
  | _ => false

/-- Whether the entry is a file. -/
def isFile : Entry → Bool
  | .file _ => true
  | _ => false

/-- The entry of a name in a list of entries. -/
def find? (entries : List (Name × Entry)) (n : Name) : Option Entry := entries.lookup n

/-- The entry below a directory that names lead to without following links. -/
def below? : Entry → List Name → Option Entry
  | e, [] => some e
  | .directory entries, n :: ns => (find? entries n).bind (below? · ns)
  | _, _ :: _ => none

/-- Entries with one put in the place of its name, at the end if the name is new. -/
def put (entries : List (Name × Entry)) (n : Name) (e : Entry) : List (Name × Entry) :=
  if entries.any (·.1 == n) then entries.map fun (m, old) => (m, if m == n then e else old)
  else entries ++ [(n, e)]

/-- The tree with an entry put where names lead to; nothing changes if they lead past a
directory. -/
def putBelow : (tree e : Entry) → List Name → Entry
  | _, e, [] => e
  | .directory entries, e, n :: ns =>
    match ns, find? entries n with
    | [], _ => .directory (put entries n e)
    | ns, some child => .directory (put entries n (child.putBelow e ns))
    | _, none => .directory entries
  | other, _, _ :: _ => other

/-- The tree without the entry that names lead to. -/
def removeBelow : Entry → List Name → Entry
  | .directory entries, [n] => .directory (entries.filter (·.1 != n))
  | .directory entries, n :: ns =>
    match find? entries n with
    | some child => .directory (put entries n (removeBelow child ns))
    | none => .directory entries
  | other, _ => other

/-! ## Sound trees -/

/-- Whether no directory of the tree has two entries of one name or a name that none can have. -/
def isSound : Entry → Bool
  | .directory entries => decide (entries.map (·.1)).Nodup && areSound entries
  | _ => true
where
  /-- Whether the names of entries are names that entries can have, and the entries are sound. -/
  areSound : List (Name × Entry) → Bool
    | [] => true
    | (n, e) :: rest => Path.isName n && e.isSound && areSound rest

@[simp] theorem isSound_file (data : Bytes) : (Entry.file data).isSound := by simp [isSound]

@[simp] theorem isSound_link (target : Path) : (Entry.link target).isSound := by simp [isSound]

theorem areSound_iff {entries : List (Name × Entry)} :
    isSound.areSound entries ↔ ∀ p ∈ entries, Path.isName p.1 ∧ p.2.isSound := by
  induction entries with
  | nil => simp [isSound.areSound]
  | cons p rest ih => simp [isSound.areSound, ih]

theorem isSound_directory_iff {entries : List (Name × Entry)} :
    (Entry.directory entries).isSound ↔
      (entries.map (·.1)).Nodup ∧ ∀ p ∈ entries, Path.isName p.1 ∧ p.2.isSound := by
  rw [isSound, Bool.and_eq_true, decide_eq_true_iff, areSound_iff]

theorem mem_of_find? {entries : List (Name × Entry)} {n : Name} {e : Entry}
    (h : find? entries n = some e) : (n, e) ∈ entries := by
  induction entries with
  | nil => simp [find?] at h
  | cons p rest ih =>
    rw [find?, List.lookup_cons] at h
    split at h
    · next heq =>
      obtain rfl : n = p.1 := by simpa using heq
      obtain rfl : p.2 = e := by simpa using h
      exact List.mem_cons_self
    · exact List.mem_cons_of_mem _ (ih h)

theorem isSound_of_find? {entries : List (Name × Entry)} {n : Name} {e : Entry}
    (hs : (Entry.directory entries).isSound) (h : find? entries n = some e) : e.isSound :=
  ((isSound_directory_iff.1 hs).2 _ (mem_of_find? h)).2

/-- Putting an entry keeps the names of the others and adds its own if it is new. -/
theorem map_fst_put (entries : List (Name × Entry)) (n : Name) (e : Entry) :
    (put entries n e).map (·.1) =
      if n ∈ entries.map (·.1) then entries.map (·.1) else entries.map (·.1) ++ [n] := by
  have hany : entries.any (·.1 == n) = true ↔ n ∈ entries.map (·.1) := by
    simp [List.any_eq_true, List.mem_map]
  by_cases h : n ∈ entries.map (·.1)
  · rw [put, if_pos (hany.2 h), if_pos h, List.map_map]
    rfl
  · rw [put, if_neg (mt hany.1 h), if_neg h, List.map_append]
    rfl

theorem mem_of_mem_put {entries : List (Name × Entry)} {n : Name} {e : Entry} {p : Name × Entry}
    (h : p ∈ put entries n e) : p = (n, e) ∨ p ∈ entries := by
  unfold put at h
  split at h
  · obtain ⟨⟨m, old⟩, hmem, rfl⟩ := List.mem_map.1 h
    by_cases hm : m = n
    · exact .inl (by simp [hm])
    · exact .inr (by simpa [hm] using hmem)
  · simpa [or_comm] using h

theorem isSound_put {entries : List (Name × Entry)} {n : Name} {e : Entry}
    (hs : (Entry.directory entries).isSound) (hn : Path.isName n) (he : e.isSound) :
    (Entry.directory (put entries n e)).isSound := by
  obtain ⟨hnodup, hall⟩ := isSound_directory_iff.1 hs
  refine isSound_directory_iff.2 ⟨?_, fun p hp => ?_⟩
  · rw [map_fst_put]
    split
    · exact hnodup
    · next hnew =>
      refine List.nodup_append.2 ⟨hnodup, by simp, fun m hm k hk hmk => hnew ?_⟩
      rwa [← List.mem_singleton.1 hk, ← hmk]
  · rcases mem_of_mem_put hp with rfl | hp
    · exact ⟨hn, he⟩
    · exact hall p hp

theorem isSound_putBelow {tree e : Entry} {names : List Name} (hs : tree.isSound) (he : e.isSound)
    (hnames : names.all Path.isName) : (tree.putBelow e names).isSound := by
  induction tree, e, names using putBelow.induct with
  | case1 tree e => simpa [putBelow] using he
  | case2 entries e n =>
    simp only [List.all_cons, Bool.and_eq_true] at hnames
    simpa [putBelow] using isSound_put hs hnames.1 he
  | case3 entries e n ns child hns hchild ih =>
    simp only [List.all_cons, Bool.and_eq_true] at hnames
    have := isSound_put hs hnames.1 (ih (isSound_of_find? hs hchild) he hnames.2)
    cases ns with
    | nil => exact absurd rfl hns
    | cons m ms => simpa [putBelow, hchild] using this
  | case4 entries e n ns hnone hns =>
    cases ns with
    | nil => exact absurd rfl hns
    | cons m ms => simpa [putBelow, hnone] using hs
  | case5 e tree n ns hne =>
    cases tree with
    | file data => simp [putBelow]
    | link target => simp [putBelow]
    | directory entries => exact absurd rfl (hne entries)

theorem isSound_removeBelow {tree : Entry} {names : List Name} (hs : tree.isSound) :
    (tree.removeBelow names).isSound := by
  induction tree, names using removeBelow.induct with
  | case1 entries n =>
    obtain ⟨hnodup, hall⟩ := isSound_directory_iff.1 hs
    refine isSound_directory_iff.2 ⟨?_, fun p hp => hall p (List.mem_filter.1 hp).1⟩
    exact hnodup.sublist ((List.filter_sublist).map _)
  | case2 entries n ns hns child hchild ih =>
    have hn := ((isSound_directory_iff.1 hs).2 _ (mem_of_find? hchild)).1
    have := isSound_put hs hn (ih (isSound_of_find? hs hchild))
    cases ns with
    | nil => exact absurd rfl hns
    | cons m ms => simpa [removeBelow, hchild] using this
  | case3 entries n ns hns hnone =>
    cases ns with
    | nil => exact absurd rfl hns
    | cons m ms => simpa [removeBelow, hnone] using hs
  | case4 names tree hone hmore =>
    cases tree with
    | file data => simp [removeBelow]
    | link target => simp [removeBelow]
    | directory entries =>
      cases names with
      | nil => simpa [removeBelow] using hs
      | cons n ns => exact absurd rfl (hmore entries n ns rfl)

end Entry

end PrivacyAudit
