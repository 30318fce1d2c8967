import PrivacyAudit.Proofs.Reaching

/-!
# Writing a file

A file is written where its path leads to, and nowhere else. The place is that of a file or a new
one in a directory, so everything else stands where it stood (`Entry.RewrittenAt`), and the path now
leads to what was written (`writeFile_rewritten`).

The way to the place goes through directories only, of which none is the place itself. That is why
it is the same way afterwards, links included (`follow_rewritten`).
-/

namespace PrivacyAudit

/-! ## 1. Trees -/

namespace Entry

/-- Where the name stands among the entries, another entry takes its place. -/
theorem find?_replace (entries : List (Name × Entry)) (n : Name) (e : Entry) (m : Name) :
    find? (entries.map fun (k, old) => (k, if k == n then e else old)) m =
      (find? entries m).map fun old => if m = n then e else old := by
  unfold find?
  induction entries with
  | nil => rfl
  | cons p rest ih =>
    obtain ⟨k, old⟩ := p
    rw [List.map_cons, List.lookup_cons, List.lookup_cons, ih]
    cases hkey : m == k with
    | true =>
      obtain rfl := beq_iff_eq.mp hkey
      simp
    | false => rfl

theorem find?_eq_none_iff {entries : List (Name × Entry)} {n : Name} :
    find? entries n = none ↔ entries.any (·.1 == n) = false := by
  rw [find?, List.lookup_eq_none_iff, List.any_eq_false]
  exact forall₂_congr fun p _ => by rw [beq_iff_eq, bne_iff_ne, ne_comm]

/-- An entry that is put stands under its name, and under the other names stands what did. -/
theorem find?_put (entries : List (Name × Entry)) (n : Name) (e : Entry) (m : Name) :
    find? (put entries n e) m = if m = n then some e else find? entries m := by
  unfold put
  cases hany : entries.any (·.1 == n) with
  | true =>
    rw [if_pos rfl, find?_replace]
    split
    · next heq =>
      subst heq
      obtain ⟨old, hold⟩ := Option.ne_none_iff_exists'.mp
        (mt find?_eq_none_iff.mp (Bool.not_eq_false _ ▸ hany))
      rw [hold, Option.map_some]
    · rw [Option.map_id_fun' , id]
  | false =>
    rw [if_neg Bool.false_ne_true, find?, List.lookup_append, ← find?]
    by_cases heq : m = n
    · subst heq
      rw [find?_eq_none_iff.mpr hany]
      simp
    · have hother : List.lookup m [(n, e)] = none := by
        rw [List.lookup_cons, beq_eq_false_iff_ne.mpr heq]
        rfl
      rw [if_neg heq, hother, Option.or_none]

/-- The tree has a file at the place; everything else is as before. -/
structure RewrittenAt (place : List Name) (data : Bytes) (tree tree' : Entry) : Prop where
  written : tree'.below? place = some (.file data)
  others : ∀ names, names ≠ place → (tree'.below? names).map kind = (tree.below? names).map kind

/-- The place is one where a file may be put: no directory stands there, and it is the top of the
tree or in a directory. -/
structure IsOpen (tree : Entry) (place : List Name) : Prop where
  noDirectory : ∀ entries, tree.below? place ≠ some (.directory entries)
  inDirectory : place ≠ [] → ∃ entries, tree.below? place.dropLast = some (.directory entries)

/-- Nothing is below what is no directory. -/
theorem below?_of_noDirectory {tree : Entry} {place rest : List Name}
    (h : ∀ entries, tree.below? place ≠ some (.directory entries)) (hrest : rest ≠ []) :
    tree.below? (place ++ rest) = none := by
  obtain ⟨n, rest, rfl⟩ := List.exists_cons_of_ne_nil hrest
  rw [below?_append, Option.bind_eq_none_iff]
  intro e he
  cases e with
  | file data => rfl
  | link target => rfl
  | directory entries => exact absurd he (h entries)

/-- A directory is rewritten at a place if the entry that leads there is. -/
theorem RewrittenAt.directory {entries : List (Name × Entry)} {n : Name} {rest : List Name}
    {data : Bytes} {child' : Entry} (hwritten : child'.below? rest = some (.file data))
    (hothers : ∀ names, names ≠ rest →
      (child'.below? names).map kind = ((Entry.directory entries).below? (n :: names)).map kind) :
    (Entry.directory entries).RewrittenAt (n :: rest) data (.directory (put entries n child')) := by
  refine ⟨?_, fun names hnames => ?_⟩
  · rw [below?_cons_directory, find?_put, if_pos rfl]
    exact hwritten
  · cases names with
    | nil => rfl
    | cons m names =>
      rw [below?_cons_directory, find?_put]
      split
      · next heq =>
        subst heq
        exact hothers names fun hsame => hnames (congrArg _ hsame)
      · rfl

/-- **A file is put where names lead to, and nowhere else.** -/
theorem putBelow_rewritten {tree : Entry} {place : List Name} (data : Bytes)
    (h : tree.IsOpen place) : tree.RewrittenAt place data (tree.putBelow (.file data) place) := by
  induction place generalizing tree with
  | nil =>
    have hput : tree.putBelow (.file data) [] = .file data := by cases tree <;> rfl
    rw [hput]
    refine ⟨rfl, fun names hnames => ?_⟩
    rw [← List.nil_append names, below?_of_noDirectory h.noDirectory hnames,
      below?_of_noDirectory (fun _ => by simp) hnames]
  | cons n rest ih =>
    obtain ⟨below, hbelow⟩ := h.inDirectory (List.cons_ne_nil n rest)
    cases rest with
    | nil =>
      obtain rfl : tree = .directory below := by simpa using hbelow
      refine RewrittenAt.directory (below?_nil _) fun names hnames => ?_
      rw [← List.nil_append names, below?_of_noDirectory (fun _ => by simp) hnames]
      exact congrArg _ (below?_of_noDirectory h.noDirectory hnames).symm
    | cons m rest =>
      rw [List.dropLast_cons_cons] at hbelow
      obtain ⟨entries, child, rfl, hfind, hchild⟩ := below?_cons_eq_some_iff.mp hbelow
      have hopen : child.IsOpen (m :: rest) := by
        refine ⟨fun entries' hdirectory => h.noDirectory entries' ?_, fun _ => ⟨below, hchild⟩⟩
        rw [below?_cons_directory, hfind]
        exact hdirectory
      have hput : (Entry.directory entries).putBelow (.file data) (n :: m :: rest) =
          .directory (put entries n (child.putBelow (.file data) (m :: rest))) := by
        simp [putBelow, hfind]
      obtain ⟨hwritten, hothers⟩ := ih hopen
      rw [hput]
      refine RewrittenAt.directory hwritten fun names hnames => ?_
      rw [hothers names hnames, below?_cons_directory, hfind]
      rfl

end Entry

/-! ## 2. The way to a place -/

namespace Disk

open Entry (kind)

/-- The steps ask for names that entries can have. -/
def AskNames (way : List Step) : Prop := ∀ n, .down n ∈ way → Path.isName n

theorem slash_notMem_of_mem_split {bytes part : List UInt8} (h : part ∈ Path.split bytes) :
    Path.slash ∉ part := by
  induction bytes generalizing part with
  | nil =>
    rw [Path.split, List.mem_singleton] at h
    subst h
    exact List.not_mem_nil
  | cons b rest ih =>
    obtain ⟨first, parts, hrest⟩ := List.exists_cons_of_ne_nil (Path.split_ne_nil rest)
    rw [Path.split, hrest] at h
    rw [hrest] at ih
    simp only at h
    split at h
    · rcases List.mem_cons.mp h with rfl | hmem
      · exact List.not_mem_nil
      · exact ih hmem
    · next hb =>
      rcases List.mem_cons.mp h with rfl | hmem
      · exact List.not_mem_cons_of_ne_of_not_mem (Ne.symm hb) (ih List.mem_cons_self)
      · exact ih (List.mem_cons_of_mem _ hmem)

/-- A step down that a path asks for is a step to a name. -/
theorem askNames_steps (p : Path) : AskNames (steps p) := by
  intro n hn
  rw [steps_eq] at hn
  rcases List.mem_append.mp hn with hmem | hlast
  · obtain ⟨part, hpart, hstep⟩ := List.mem_map.mp hmem
    obtain ⟨hsplit, hsome⟩ := List.mem_filter.mp hpart
    split at hstep
    · cases hstep
    · next hdot =>
      split at hstep
      · cases hstep
      · next hdots =>
        obtain rfl := Step.down.inj hstep
        exact Path.isName_iff.mpr ⟨of_decide_eq_true hsome, slash_notMem_of_mem_split hsplit,
          hdot, hdots⟩
  · split at hlast
    · cases List.mem_singleton.mp hlast
    · cases hlast

theorem AskNames.append {way rest : List Step} (h : AskNames way) (hrest : AskNames rest) :
    AskNames (way ++ rest) := by
  intro n hn
  rcases List.mem_append.mp hn with hmem | hmem
  · exact h n hmem
  · exact hrest n hmem

theorem AskNames.tail {step : Step} {way : List Step} (h : AskNames (step :: way)) : AskNames way :=
  fun n hn => h n (List.mem_cons_of_mem step hn)

/-- A place where a way may end: the top of the tree, or what a name leads to in a directory, unless
it is a link. -/
structure Landing (root : Entry) (place : List Name) : Prop where
  names : ∀ n ∈ place, Path.isName n
  inDirectory : place ≠ [] → ∃ entries, root.below? place.dropLast = some (.directory entries)
  noLink : place ≠ [] → ∀ target, root.below? place ≠ some (.link target)

section Ways

variable {root : Entry} (hs : root.isSound)

theorem landing_nil : Landing root [] where
  names _ h := absurd h List.not_mem_nil
  inDirectory h := absurd rfl h
  noLink h := absurd rfl h

/-- What stands anywhere but at the top stands in a directory. -/
theorem below?_dropLast {place : List Name} {e : Entry} (h : root.below? place = some e)
    (hne : place ≠ []) : ∃ entries, root.below? place.dropLast = some (.directory entries) := by
  rw [← List.dropLast_concat_getLast hne, Entry.below?_append] at h
  obtain ⟨above, habove, hlast⟩ := Option.bind_eq_some_iff.mp h
  obtain ⟨entries, _, rfl, -⟩ := Entry.below?_cons_eq_some_iff.mp hlast
  exact ⟨entries, habove⟩

include hs

theorem Landing.of_below {place : List Name} {e : Entry} (h : root.below? place = some e)
    (hlink : ∀ target, e ≠ .link target) : Landing root place where
  names := Entry.isName_of_below? hs h
  inDirectory := below?_dropLast h
  noLink _ target htarget := hlink target (Option.some.inj (h.symm.trans htarget))

/-- Above a directory is a directory. -/
theorem landing_dropLast {place : List Name} {entries : List (Name × Entry)}
    (h : root.below? place = some (.directory entries)) : Landing root place.dropLast := by
  by_cases hne : place = []
  · subst hne
    exact landing_nil
  · obtain ⟨above, habove⟩ := below?_dropLast h hne
    exact Landing.of_below hs habove fun _ => Entry.noConfusion

/-- A new name in a directory. -/
theorem landing_new {place : List Name} {entries : List (Name × Entry)} {n : Name}
    (h : root.below? place = some (.directory entries)) (hn : Path.isName n)
    (hnew : root.below? (place ++ [n]) = none) : Landing root (place ++ [n]) where
  names m hm := by
    rcases List.mem_append.mp hm with hmem | hlast
    · exact Entry.isName_of_below? hs h m hmem
    · rwa [List.mem_singleton.mp hlast]
  inDirectory _ := ⟨entries, by rwa [List.dropLast_concat]⟩
  noLink _ target htarget := by
    rw [hnew] at htarget
    cases htarget

/-- A way that may end at a new name ends at a landing. -/
theorem walk_landing {onLink : List Name → List Step → Except DiskFault (List Name)}
    (hlink : ∀ place way place', Landing root place → AskNames way → onLink place way = .ok place' →
      Landing root place') {place place' : List Name} {way : List Step}
      (hplace : Landing root place)
    (hway : AskNames way) (h : walk root true onLink place way = .ok place') :
    Landing root place' := by
  induction way generalizing place with
  | nil =>
    obtain rfl := Except.ok.inj h
    exact hplace
  | cons step way ih =>
    rw [walk] at h
    cases hbelow : root.below? place with
    | none => simp [hbelow] at h
    | some e =>
      cases e with
      | file data => simp [hbelow] at h
      | link target => simp [hbelow] at h
      | directory entries =>
        simp only [hbelow] at h
        cases step with
        | here => exact ih hplace hway.tail h
        | up => exact ih (landing_dropLast hs hbelow) hway.tail h
        | down n =>
          have hchild : root.below? (place ++ [n]) = Entry.find? entries n := by
            rw [Entry.below?_append, hbelow, Option.bind_some, ← Entry.find?_eq_below?]
          cases hfind : Entry.find? entries n with
          | none =>
            rw [hfind] at hchild
            simp only [hfind, Bool.true_and] at h
            split at h
            · obtain rfl := Except.ok.inj h
              exact landing_new hs hbelow (hway n List.mem_cons_self) hchild
            · cases h
          | some child =>
            rw [hfind] at hchild
            simp only [hfind] at h
            cases child with
            | file data =>
              exact ih (Landing.of_below hs hchild fun _ => Entry.noConfusion) hway.tail h
            | directory below =>
              exact ih (Landing.of_below hs hchild fun _ => Entry.noConfusion) hway.tail h
            | link target =>
              simp only at h
              split at h
              · cases h
              · refine hlink _ _ _ ?_ ((askNames_steps target).append hway.tail) h
                split
                · exact landing_nil
                · exact hplace

theorem follow_landing (links : Nat) {place place' : List Name} {way : List Step}
    (hplace : Landing root place) (hway : AskNames way)
    (h : follow root true links place way = .ok place') : Landing root place' := by
  induction links generalizing place place' way with
  | zero =>
    have hlink : ∀ place way place', Landing root place → AskNames way →
        (.error .tooManyLinks : Except DiskFault (List Name)) = .ok place' → Landing root place' :=
      fun _ _ _ _ _ hnone => nomatch hnone
    exact walk_landing hs hlink hplace hway h
  | succ links ih =>
    exact walk_landing hs (fun _ _ _ hplace hway h => ih hplace hway h) hplace hway h

end Ways

theorem locate_landing {d : Disk} {p : Path} {place : List Name} (h : d.locate true p = .ok place) :
    Landing d.root place := by
  unfold locate at h
  split at h
  · cases h
  · refine follow_landing d.sound linkLimit landing_nil (AskNames.append ?_ (askNames_steps p)) h
    split
    · exact fun _ hnone => absurd hnone List.not_mem_nil
    · exact askNames_steps d.workingDirectory

/-- A file may be put where a way ends, unless it ends at a directory. -/
theorem Landing.isOpen {root : Entry} {place : List Name} (h : Landing root place)
    (hnone : ∀ entries, root.below? place ≠ some (.directory entries)) : root.IsOpen place :=
  ⟨hnone, h.inDirectory⟩

/-! ## 3. The way afterwards -/

section Afterwards

variable {root root' : Entry} {place : List Name} {data : Bytes}
  (h : root.RewrittenAt place data root') (hopen : root.IsOpen place)
  (hlanding : Landing root place)

include h hopen in
/-- A directory stands where one stood. -/
theorem directory_rewritten {names : List Name} {entries : List (Name × Entry)}
    (hbelow : root.below? names = some (.directory entries)) :
    ∃ entries', root'.below? names = some (.directory entries') := by
  have hne : names ≠ place := fun heq => hopen.noDirectory entries (heq ▸ hbelow)
  have hkind := h.others names hne
  rw [hbelow] at hkind
  obtain ⟨e, he, hdirectory⟩ := Option.map_eq_some_iff.mp hkind
  cases e with
  | file data => cases hdirectory
  | link target => cases hdirectory
  | directory entries' => exact ⟨entries', he⟩

include h hopen hlanding in
/-- A way that ends at the place, where a file may be new, ends there when the file has been
written. -/
theorem walk_rewritten {onLink onLink' : List Name → List Step → Except DiskFault (List Name)}
    (hlink : ∀ start way, onLink start way = .ok place → onLink' start way = .ok place)
    {start : List Name} {way : List Step} (hway : walk root true onLink start way = .ok place) :
    walk root' false onLink' start way = .ok place := by
  induction way generalizing start with
  | nil => exact hway
  | cons step way ih =>
    rw [walk] at hway ⊢
    cases hbelow : root.below? start with
    | none => simp [hbelow] at hway
    | some e =>
      cases e with
      | file data => simp [hbelow] at hway
      | link target => simp [hbelow] at hway
      | directory entries =>
        obtain ⟨entries', hbelow'⟩ := directory_rewritten h hopen hbelow
        simp only [hbelow, hbelow'] at hway ⊢
        cases step with
        | here => exact ih hway
        | up => exact ih hway
        | down n =>
          have hchild : Entry.find? entries n = root.below? (start ++ [n]) := by
            rw [Entry.below?_append, hbelow, Option.bind_some, ← Entry.find?_eq_below?]
          have hchild' : Entry.find? entries' n = root'.below? (start ++ [n]) := by
            rw [Entry.below?_append, hbelow', Option.bind_some, ← Entry.find?_eq_below?]
          simp only [hchild, hchild'] at hway ⊢
          by_cases hend : start ++ [n] = place
          · -- The last step: a file stands there now, and no link did.
            rw [hend, h.written]
            rw [hend] at hway
            cases hold : root.below? place with
            | none =>
              simp only [hold, Bool.true_and] at hway
              split at hway
              · next hlast =>
                rw [List.isEmpty_iff.mp hlast]
                rfl
              · cases hway
            | some e =>
              rw [hold] at hway
              cases e with
              | file data => exact ih hway
              | link target =>
                exact absurd hold (hlanding.noLink (hend ▸ List.concat_ne_nil n start) target)
              | directory below => exact ih hway
          · rcases Entry.kind_cases (h.others _ hend) with ⟨hd, hd'⟩ | ⟨data, hd, hd'⟩ |
              ⟨target, hd, hd'⟩ |
              ⟨below, below', hd, hd'⟩
            · simp only [hd', Bool.true_and] at hway
              split at hway
              · exact absurd (Except.ok.inj hway) hend
              · cases hway
            · simp only [hd, hd'] at hway ⊢
              exact ih hway
            · simp only [hd, hd'] at hway ⊢
              split at hway
              · cases hway
              · next htarget =>
                rw [if_neg htarget]
                exact hlink _ _ hway
            · simp only [hd, hd'] at hway ⊢
              exact ih hway

include h hopen hlanding in
theorem follow_rewritten (links : Nat) {start : List Name} {way : List Step}
    (hway : follow root true links start way = .ok place) :
    follow root' false links start way = .ok place := by
  induction links generalizing start way with
  | zero => exact walk_rewritten h hopen hlanding (fun _ _ hnone => hnone) hway
  | succ links ih => exact walk_rewritten h hopen hlanding (fun _ _ => ih) hway

end Afterwards

/-- A file that is put is put where names lead to. -/
theorem root_put {d : Disk} {place : List Name} (data : Bytes)
    (hnames : ∀ n ∈ place, Path.isName n) :
    (d.put (.file data) place).root = d.root.putBelow (.file data) place ∧
      (d.put (.file data) place).workingDirectory = d.workingDirectory := by
  have hsound : (Entry.file data).isSound ∧ place.all Path.isName :=
    ⟨Entry.isSound_file data, List.all_eq_true.mpr hnames⟩
  rw [put, dif_pos hsound]
  exact ⟨rfl, rfl⟩

/-- A path may lead to where a file is written if it may be written there. -/
theorem locate_rewritten {d d' : Disk} {p : Path} {place : List Name} {data : Bytes}
    (hplace : d.locate true p = .ok place) (hdirectory : d'.workingDirectory = d.workingDirectory)
    (hopen : d.root.IsOpen place) (h : d.root.RewrittenAt place data d'.root) :
    d'.locate false p = .ok place := by
  have hlanding := locate_landing hplace
  unfold locate at hplace ⊢
  split at hplace
  · cases hplace
  · next hp =>
    rw [if_neg hp, hdirectory]
    exact follow_rewritten h hopen hlanding linkLimit hplace

/-- A file is written exactly if its path leads to a place that is no directory. -/
theorem writeFile_eq_ok_iff {d d' : Disk} {p : Path} {data : Bytes} : d.writeFile p data = .ok d' ↔
    ∃ place, d.locate true p = .ok place ∧
    (∀ entries, d.root.below? place ≠ some (.directory entries)) ∧
      d.put (.file data) place = d' := by
  unfold writeFile
  cases d.locate true p with
  | error fault => simp [bind, Except.bind]
  | ok place =>
    simp only [bind, Except.bind, Except.ok.injEq, exists_eq_left']
    split
    · next entries hdirectory =>
      refine iff_of_false (fun h => nomatch h) fun h => ?_
      exact h.1 entries hdirectory
    · next hother => exact ⟨fun h => ⟨hother, Except.ok.inj h⟩, fun h => congrArg Except.ok h.2⟩

/-- Whether a file cannot be written does not depend on what is to be in it. -/
theorem writeFile_eq_error_of {d : Disk} {p : Path} {data data' : Bytes} {fault : DiskFault}
    (h : d.writeFile p data = .error fault) : d.writeFile p data' = .error fault := by
  unfold writeFile at h ⊢
  cases hplace : d.locate true p with
  | error fault =>
    rw [hplace] at h
    exact h
  | ok place =>
    rw [hplace] at h
    simp only [bind, Except.bind] at h ⊢
    split at h
    · exact h
    · cases h

/-- What a path is read as stands where it leads to. -/
theorem contents_eq_ok_iff {d : Disk} {p : Path} {data : Bytes} : d.contents p = .ok data ↔
    ∃ place, d.locate false p = .ok place ∧ d.root.below? place = some (.file data) := by
  rw [← lookup_eq_ok_iff, contents]
  cases d.lookup p with
  | error fault => simp [bind, Except.bind]
  | ok e => cases e <;> simp [bind, Except.bind, pure, Except.pure, throw, throwThe,
      MonadExceptOf.throw]

/-- On the disk a file has been written at a path, and everything else is as before. -/
structure RewrittenBy (d : Disk) (p : Path) (data : Bytes) (d' : Disk) : Prop where
  sameDirectory : d'.workingDirectory = d.workingDirectory
  read : d'.contents p = .ok data
  atPlace : ∃ place, d.locate true p = .ok place ∧ d.root.RewrittenAt place data d'.root

/-- **A file is written where its path leads to, and nowhere else**, and is read there
afterwards. -/
theorem writeFile_rewritten {d d' : Disk} {p : Path} {data : Bytes}
    (h : d.writeFile p data = .ok d') : d.RewrittenBy p data d' := by
  obtain ⟨place, hplace, hnone, rfl⟩ := writeFile_eq_ok_iff.mp h
  have hlanding := locate_landing hplace
  have hopen := hlanding.isOpen hnone
  obtain ⟨hroot, hdirectory⟩ := root_put (d := d) data hlanding.names
  have hrewritten : d.root.RewrittenAt place data (d.put (.file data) place).root :=
    hroot ▸ Entry.putBelow_rewritten data hopen
  have hread : (d.put (.file data) place).contents p = .ok data :=
    contents_eq_ok_iff.mpr ⟨place, locate_rewritten hplace hdirectory hopen hrewritten,
      hrewritten.written⟩
  exact ⟨hdirectory, hread, place, hplace, hrewritten⟩

end Disk

end PrivacyAudit
