import PrivacyAudit.Proofs.Collecting

/-!
# Reading the files that are collected

A walk hands on what it finds below a directory; whoever reads a file later comes to it by its path,
from the start. The two agree (`contents_of_mem_collect`): the path of a collected file leads to a
file, and this has the contents that the walk found. On the way to the project links are followed as
before, and below it there are none (`walk_downs`); so the limit on links is not in the way either.

Following steps and then others is following all of them, with what is left of the links
(`follow_leadsOn`).
-/

namespace PrivacyAudit

/-! ## 1. The steps of a joined path -/

namespace Path

/-- In front of a name that is joined to it a path ends with a slash, and has the same parts. -/
theorem front_eq {p : Path} (hp : p.bytes ≠ []) :
    ∃ front, p.front = front ++ [slash] ∧
    (split p.bytes).filter (· ≠ []) = (split front).filter (· ≠ []) := by
  by_cases hslash : p.endsWithSlash = true
  · have hlast : p.bytes.getLast? = some slash := by simpa [endsWithSlash] using hslash
    obtain ⟨front, hfront⟩ := List.getLast?_eq_some_iff.mp hlast
    refine ⟨front, by rw [Path.front, if_pos (.inr hslash), hfront], ?_⟩
    rw [hfront, split_append, List.filter_append]
    simp [split]
  · exact ⟨p.bytes, by rw [Path.front, if_neg (not_or.mpr ⟨hp, hslash⟩)], rfl⟩

theorem endsWithSlash_joinAll {p : Path} {names : List Name} (hne : names ≠ [])
    (h : ∀ n ∈ names, isName n) : (p.joinAll names).endsWithSlash = false := by
  obtain ⟨above, n, rfl⟩ := (List.eq_nil_or_concat' names).resolve_left hne
  rw [joinAll, List.foldl_append]
  exact endsWithSlash_join (h n (by simp))

theorem isAbsolute_joinAll {p : Path} {names : List Name} (hp : p.bytes ≠ []) (hne : names ≠ [])
    (h : ∀ n ∈ names, isName n) : (p.joinAll names).isAbsolute = p.isAbsolute := by
  obtain ⟨b, bytes, hbytes⟩ := List.exists_cons_of_ne_nil hp
  have hfront : ∃ rest, p.front = b :: rest := by
    rw [front, hbytes]
    split
    · exact ⟨_, rfl⟩
    · exact ⟨_, rfl⟩
  obtain ⟨rest, hfront⟩ := hfront
  rw [isAbsolute, bytes_joinAll hne h, hfront, isAbsolute, hbytes]
  rfl

end Path

namespace Disk

open PrivacyAudit.Path (slash dot isName isName_iff split)

/-- The step that a part of a path asks for. -/
theorem steps_eq (p : Path) :
    steps p = ((split p.bytes).filter (· ≠ [])).map (fun part =>
      if part = [dot] then .here else if part = [dot, dot] then .up else .down part) ++
      (if p.endsWithSlash then [.here] else []) := rfl

/-- Names that are joined to a path are steps down; they take the place of the step that a slash at
the path's end asks for. -/
theorem steps_joinAll {p : Path} {names : List Name} (hp : p.bytes ≠ []) (hne : names ≠ [])
    (h : ∀ n ∈ names, isName n) :
    ∃ way last, steps p = way ++ last ∧ (last = [] ∨ last = [.here]) ∧
      steps (p.joinAll names) = way ++ names.map .down := by
  obtain ⟨front, hfront, hparts⟩ := Path.front_eq hp
  refine ⟨_, if p.endsWithSlash then [.here] else [], steps_eq p, ?_, ?_⟩
  · split
    · exact .inr rfl
    · exact .inl rfl
  · have hslash : ∀ n ∈ names, slash ∉ n := fun n hn => (isName_iff.mp (h n hn)).2.1
    have hnames : names.filter (· ≠ []) = names := by
      refine List.filter_eq_self.mpr fun n hn => ?_
      simpa using (isName_iff.mp (h n hn)).1
    have hbytes : (p.joinAll names).bytes = front ++ slash :: [slash].intercalate names := by
      rw [Path.bytes_joinAll hne h, hfront, List.append_assoc, List.singleton_append]
    rw [steps_eq, Path.endsWithSlash_joinAll hne h, hbytes, Path.split_append,
      Path.split_intercalate hne hslash, List.filter_append, hnames, ← hparts, List.map_append]
    simp only [Bool.false_eq_true, if_false, List.append_nil]
    refine congrArg _ (List.map_congr_left fun n hn => ?_)
    obtain ⟨-, -, hdot, hdots⟩ := isName_iff.mp (h n hn)
    rw [if_neg hdot, if_neg hdots]

/-! ## 2. Following steps, and then others -/

section Follow

variable {root : Entry}

/-- Going along steps leads nowhere, whatever follows; or it leads to a place from where what
follows is gone along, with some number of links left. -/
def LeadsOn (root : Entry) (go : List Name → List Step → Except DiskFault (List Name))
    (place : List Name) (way : List Step) : Prop :=
  (∃ fault, ∀ rest, go place (way ++ rest) = .error fault) ∨
    ∃ links place', ∀ rest, go place (way ++ rest) = follow root false links place' rest

theorem walk_leadsOn {onLink : List Name → List Step → Except DiskFault (List Name)} {links : Nat}
    (hwalk : follow root false links = walk root false onLink)
    (hlink : ∀ place way, LeadsOn root onLink place way) (place : List Name) (way : List Step) :
    LeadsOn root (walk root false onLink) place way := by
  induction way generalizing place with
  | nil => exact .inr ⟨links, place, fun rest => by rw [hwalk, List.nil_append]⟩
  | cons step way ih =>
    simp only [LeadsOn, List.cons_append, walk]
    cases hplace : root.below? place with
    | none => exact .inl ⟨_, fun rest => rfl⟩
    | some e =>
      cases e with
      | file data => exact .inl ⟨_, fun rest => rfl⟩
      | link target => exact .inl ⟨_, fun rest => rfl⟩
      | directory entries =>
        cases step with
        | here => exact ih place
        | up => exact ih place.dropLast
        | down n =>
          cases hfind : Entry.find? entries n with
          | none =>
            simp only [hfind]
            exact .inl ⟨.notFound, fun rest => rfl⟩
          | some child =>
            simp only [hfind]
            cases child with
            | file data => exact ih (place ++ [n])
            | directory below => exact ih (place ++ [n])
            | link target =>
              by_cases htarget : target.bytes = []
              · exact .inl ⟨.notFound, fun rest => if_pos htarget⟩
              · simp only [htarget, if_false, ← List.append_assoc]
                exact hlink _ _

/-- By induction on the links that may still be followed, and for each number of them on the
steps. -/
theorem follow_leadsOn (links : Nat) (place : List Name) (way : List Step) :
    LeadsOn root (follow root false links) place way := by
  induction links generalizing place way with
  | zero =>
    have hwalk : follow root false 0 = walk root false fun _ _ => .error .tooManyLinks := rfl
    rw [hwalk]
    exact walk_leadsOn hwalk (fun _ _ => .inl ⟨_, fun _ => rfl⟩) place way
  | succ links ih =>
    have hwalk : follow root false (links + 1) = walk root false (follow root false links) := rfl
    rw [hwalk]
    exact walk_leadsOn hwalk ih place way

/-- Names lead down to a file without a link on the way. -/
theorem walk_downs {onLink : List Name → List Step → Except DiskFault (List Name)}
    {place names : List Name} {e : Entry} {data : Bytes} (hplace : root.below? place = some e)
    (hnames : e.below? names = some (.file data)) :
    walk root false onLink place (names.map .down) = .ok (place ++ names) := by
  induction names generalizing place e with
  | nil => rw [List.map_nil, walk, List.append_nil]
  | cons n names ih =>
    obtain ⟨entries, child, rfl, hfind, hchild⟩ := Entry.below?_cons_eq_some_iff.mp hnames
    have hnext : root.below? (place ++ [n]) = some child := by
      rw [Entry.below?_append, hplace, Option.bind_some, ← Entry.find?_eq_below?, hfind]
    have hrest := ih hnext hchild
    rw [List.append_assoc, List.singleton_append] at hrest
    rw [List.map_cons, walk]
    simp only [hplace, hfind]
    cases child with
    | file data => exact hrest
    | directory below => exact hrest
    | link target => cases names <;> simp [Entry.below?] at hchild

theorem follow_downs {links : Nat} {place names : List Name} {e : Entry} {data : Bytes}
    (hplace : root.below? place = some e) (hnames : e.below? names = some (.file data)) :
    follow root false links place (names.map .down) = .ok (place ++ names) := by
  cases links with
  | zero => exact walk_downs hplace hnames
  | succ links => exact walk_downs hplace hnames

end Follow

/-! ## 3. Reading what was found -/

/-- A last step that stays does not change the place. -/
theorem follow_last {root : Entry} {links : Nat} {place place' : List Name} {last : List Step}
    (hlast : last = [] ∨ last = [.here]) (h : follow root false links place last = .ok place') :
    place' = place := by
  obtain ⟨onLink, hwalk⟩ : ∃ onLink, follow root false links = walk root false onLink := by
    cases links with
    | zero => exact ⟨_, rfl⟩
    | succ links => exact ⟨_, rfl⟩
  rw [hwalk] at h
  rcases hlast with rfl | rfl
  · exact (Except.ok.inj h).symm
  · rw [walk] at h
    split at h
    · cases h
    · cases h
    · cases h
    · exact (Except.ok.inj h).symm

/-- The path of a file below what a path leads to is read as this file. -/
theorem contents_joinAll {d : Disk} {p : Path} {e : Entry} {names : List Name} {data : Bytes}
    (he : d.lookup p = .ok e) (hne : names ≠ []) (hfile : e.below? names = some (.file data)) :
    d.contents (p.joinAll names) = .ok data := by
  have hnames := Entry.isName_of_below? (isSound_of_lookup he) hfile
  obtain ⟨place, hplace, hbelow⟩ := lookup_eq_ok_iff.mp he
  have hp : p.bytes ≠ [] := by
    intro hempty
    rw [locate, if_pos hempty] at hplace
    cases hplace
  have hjoined : (p.joinAll names).bytes ≠ [] := by
    obtain ⟨front, hfront, -⟩ := Path.front_eq hp
    rw [Path.bytes_joinAll hne hnames, hfront]
    simp
  obtain ⟨way, last, hsteps, hlast, hdown⟩ := steps_joinAll hp hne hnames
  rw [locate, if_neg hp, hsteps] at hplace
  simp only [← List.append_assoc] at hplace
  -- Behind the steps to the project the place is the project's own; from there names lead down.
  have hfound : d.locate false (p.joinAll names) = .ok (place ++ names) := by
    rw [locate, if_neg hjoined, Path.isAbsolute_joinAll hp hne hnames, hdown]
    simp only [← List.append_assoc]
    rcases @follow_leadsOn d.root linkLimit [] ((if p.isAbsolute = true then []
      else steps d.workingDirectory) ++ way)
      with ⟨fault, hfault⟩ | ⟨links, middle, hgo⟩
    · rw [hfault] at hplace
      cases hplace
    · rw [hgo] at hplace
      obtain rfl := follow_last hlast hplace
      rw [hgo]
      exact follow_downs hbelow hfile
  have hlookup : d.lookup (p.joinAll names) = .ok (.file data) :=
    lookup_eq_ok_iff.mpr ⟨_, hfound, by rw [Entry.below?_append, hbelow, Option.bind_some, hfile]⟩
  rw [contents, hlookup]
  rfl

end Disk

/-- **A collected file is read with the contents that the walk found.** -/
theorem contents_of_mem_collect {o : WalkOptions} {d : Disk} {project : Path} {f : SourceFile}
    (hf : f ∈ o.collect d project) : d.contents f.path = .ok f.data := by
  cases he : d.lookup (project.absolute d.workingDirectory) with
  | error fault =>
    rw [WalkOptions.collect_of_error he] at hf
    cases hf
  | ok e =>
    rw [WalkOptions.collect_of_ok he] at hf
    obtain ⟨below, hbelow, rfl⟩ := List.mem_map.mp hf
    have hmem := (WalkOptions.mem_eligibleBelow_iff (Disk.isSound_of_lookup he)).mp
      (List.mem_of_mem_take hbelow)
    exact Disk.contents_joinAll he hmem.below hmem.isFile

end PrivacyAudit
