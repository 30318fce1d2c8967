import PrivacyAudit.Proofs.Collecting
import PrivacyAudit.Proofs.Describing
import PrivacyAudit.Proofs.Mentioning
import PrivacyAudit.Proofs.Refusing

/-!
# Pruning by exclude patterns

A walk does not enter a directory that an exclude pattern describes. Where the last token of each
exclude pattern is two stars, this is not seen in the result: the same files are collected as if
exclude patterns were asked about files only (`WalkOptions.collect_eq_collectUnpruned`).

Three facts carry this. A glob whose last token is two stars accepts whatever begins with what it
accepts (`Glob.accepts_append`): the token cannot be inside braces, so the glob's tree ends in it.
The path of a file below a directory begins with the path of the directory and a slash. And a path
has a line feed, which no dot reads, only if a name on the way has one
(`Text.lineFeed_not_mem_decodeLossy`).
-/

namespace PrivacyAudit

/-! ## 1. Line feeds in names -/

namespace Text

/-- The byte of a line feed. -/
def lineFeed : UInt8 := 0x0A

theorem ofNat_ne_lineFeed {n : Nat} (h : n ≠ 0x0A) : '\n' ≠ Char.ofNat n := by
  intro heq
  by_cases hvalid : n.isValidChar
  · have hn : (Char.ofNat n).toNat = n := by
      rw [Char.ofNat, dif_pos hvalid]
      rfl
    rw [← heq] at hn
    exact h hn.symm
  · have hn : Char.ofNat n = '\x00' := dif_neg hvalid
    rw [hn] at heq
    exact absurd heq (by decide)

namespace DecoderState

/-- The character that was begun is no ASCII character, however it goes on. -/
def BeginsAboveAscii : DecoderState → Prop
  | .boundary => True
  | .inside bits owed least _ => 0x80 ≤ least ∧
      0x80 ≤ (bits * 64 + (least - 0x80)) * 64 ^ (owed - 1)

/-- Neither what a byte completes nor what it begins is a line feed. -/
def LacksLineFeed (result : List Char × DecoderState) : Prop := '\n' ∉ result.1 ∧
  result.2.BeginsAboveAscii

theorem lacksLineFeed_begin {b : Nat} (hb : b ≠ 0x0A) : LacksLineFeed (begin b) := by
  have hreplacement : LacksLineFeed ([replacementChar], .boundary) := ⟨by decide, trivial⟩
  unfold begin
  refine iteInduction (fun _ => ⟨by simpa using ofNat_ne_lineFeed hb, trivial⟩) fun _ => ?_
  refine iteInduction (fun _ => hreplacement) fun _ => ?_
  repeat' refine iteInduction (fun _ => ?_) fun _ => ?_
  on_goal 8 => exact hreplacement
  all_goals
    simp only [LacksLineFeed, BeginsAboveAscii, List.not_mem_nil, not_false_eq_true, true_and,
      Nat.reduceSub, Nat.reducePow]
    omega

theorem lacksLineFeed_step {state : DecoderState} (hstate : state.BeginsAboveAscii) {b : Nat}
    (hb : b ≠ 0x0A) : LacksLineFeed (state.step b) := by
  cases state with
  | boundary => exact lacksLineFeed_begin hb
  | inside bits owed least greatest =>
    obtain ⟨hleast, hbits⟩ := hstate
    rw [step]
    split
    · next hgoesOn =>
      have hmore : bits * 64 + (least - 0x80) ≤ bits * 64 + (b - 0x80) := by omega
      dsimp only
      split
      · next hlast =>
        have hpower : owed - 1 = 0 := by omega
        rw [hpower, Nat.pow_zero, Nat.mul_one] at hbits
        exact ⟨by simpa using ofNat_ne_lineFeed (by omega), trivial⟩
      · next howed =>
        obtain ⟨further, rfl⟩ : ∃ further, owed = further + 2 := ⟨owed - 2, by omega⟩
        refine ⟨by simp, Nat.le_refl _, ?_⟩
        calc 0x80 ≤ (bits * 64 + (least - 0x80)) * 64 ^ (further + 1) := hbits
          _ ≤ (bits * 64 + (b - 0x80)) * 64 ^ (further + 1) := Nat.mul_le_mul_right _ hmore
          _ = ((bits * 64 + (b - 0x80)) * 64 + (0x80 - 0x80)) * 64 ^ (further + 2 - 1 - 1) := by
            rw [Nat.pow_succ, Nat.add_zero, Nat.mul_comm (64 ^ further), Nat.mul_assoc]
            rfl
    · have hreplacement : '\n' ≠ replacementChar := by decide
      obtain ⟨hcs, hnext⟩ := lacksLineFeed_begin hb
      exact ⟨by simpa [hreplacement] using hcs, hnext⟩

end DecoderState

theorem lineFeed_not_mem_decodeFrom {state : DecoderState} (hstate : state.BeginsAboveAscii)
    {bytes : List UInt8} (h : lineFeed ∉ bytes) : '\n' ∉ decodeFrom state bytes := by
  induction bytes generalizing state with
  | nil => cases state <;> simp [decodeFrom, replacementChar]
  | cons b rest ih =>
    rw [List.mem_cons, not_or] at h
    have hb : b.toNat ≠ 0x0A := fun heq => h.1 (UInt8.toNat_inj.mp heq.symm)
    obtain ⟨hcs, hnext⟩ := DecoderState.lacksLineFeed_step hstate hb
    rw [decodeFrom_cons, List.mem_append, not_or]
    exact ⟨hcs, ih hnext h.2⟩

/-- A text has a line feed only if its bytes have one. -/
theorem lineFeed_not_mem_decodeLossy {bytes : List UInt8} (h : lineFeed ∉ bytes) :
    '\n' ∉ (decodeLossy bytes).toList := by
  have hboundary : DecoderState.boundary.BeginsAboveAscii := trivial
  rw [decodeLossy, String.toList_ofList]
  exact lineFeed_not_mem_decodeFrom hboundary h

end Text

/-! ## 2. Globs that end in two stars -/

namespace Glob

/-- A text continued by any other stands for the shape if it does. -/
def Shape.OpenEnded (s : Shape) : Prop := ∀ x y, s.Denotes x → s.Denotes (x ++ y)

theorem Shape.openEnded_andThen_anything (s : Shape) : (s.andThen .anything).OpenEnded := by
  intro x y h
  rw [denotes_andThen] at h ⊢
  obtain ⟨u, v, rfl, hu, -⟩ := h
  exact ⟨u, v ++ y, List.append_assoc .., hu, trivial⟩

theorem getLast?_of_cons {t : Token} {ts : List Token} (ht : t ≠ .anything)
    (h : (t :: ts).getLast? = some .anything) : ts.getLast? = some .anything := by
  cases ts with
  | nil => exact absurd (Option.some.inj h) ht
  | cons u ts => rwa [List.getLast?_cons_cons] at h

/-- If the last token is two stars, so is the last part of the tree. By induction on the text of the
glob, as its tokens are read from it. -/
theorem openEnded_of_getLast? {depth : Nat} {text : List Char} {current shape : Shape}
    {before : Option Shape} {outside : Shape.Outside} (hdepth : depth = outside.length)
    (hbefore : NoneOutside before outside)
    (hlast : (tokensFrom depth text).getLast? = some .anything)
    (h : Shape.ofTokensFrom current before outside (tokensFrom depth text) = some shape) :
    shape.OpenEnded := by
  induction depth, text using tokensFrom_induction generalizing current before outside with
  | nil depth => cases hlast
  | item depth written rest t s hs _ htokens ih =>
    rw [htokens] at hlast h
    rw [Shape.ofTokensFrom_cons hs] at h
    cases hrest : tokensFrom depth rest with
    | nil =>
      -- The item is the last one, and no brace is open in front of the end.
      rw [hrest] at hlast h
      obtain rfl : t = .anything := Option.some.inj hlast
      obtain rfl : Shape.anything = s := Option.some.inj hs
      cases outside with
      | nil =>
        obtain rfl : before = none := hbefore
        obtain rfl : current.andThen .anything = shape := Option.some.inj h
        exact current.openEnded_andThen_anything
      | cons around outside => cases h
    | cons u ts =>
      rw [hrest, List.getLast?_cons_cons, ← hrest] at hlast
      exact ih hdepth hbefore hlast h
  | opening depth rest ih =>
    have hinside :
        Shape.ofTokensFrom .nothing none ((current, before) :: outside)
          (tokensFrom (depth + 1) rest) =
        some shape := h
    have hnone : NoneOutside none ((current, before) :: outside) := hbefore
    exact ih (congrArg (· + 1) hdepth) hnone (getLast?_of_cons (by decide) hlast) hinside
  | closing depth rest ih =>
    rw [tokensFrom_closing] at hlast h
    cases outside with
    | nil => cases hdepth
    | cons around outside =>
      have hbehind :
          Shape.ofTokensFrom (around.1.andThen (.braces (Shape.orElse before current)))
            around.2 outside
          (tokensFrom depth rest) = some shape := h
      have hnone : NoneOutside around.2 outside := hbefore
      exact ih (Nat.succ.inj hdepth) hnone (getLast?_of_cons (by decide) hlast) hbehind
  | separator depth rest ih =>
    rw [tokensFrom_separator] at hlast h
    cases outside with
    | nil => cases hdepth
    | cons around outside =>
      have hnext : Shape.ofTokensFrom .nothing (some (Shape.orElse before current))
          (around :: outside)
          (tokensFrom (depth + 1) rest) = some shape := h
      have hnone : NoneOutside (some (Shape.orElse before current)) (around :: outside) := hbefore
      exact ih hdepth hnone (getLast?_of_cons (by decide) hlast) hnext

/-- **A glob whose last token is two stars accepts whatever begins with what it accepts**, up to a
line feed. -/
theorem accepts_append {text : String} {g : Glob} (h : ofText? text = .ok g)
    (hlast : (tokens text.toList).getLast? = some .anything) {path more : String}
    (hpath : '\n' ∉ path.toList) (hmore : '\n' ∉ more.toList) (haccepts : g.accepts path = true) :
    g.accepts (path ++ more) = true := by
  obtain ⟨shape, hshape, hdenotes⟩ := accepts_iff_shape h
  have hnone : NoneOutside none [] := rfl
  have hopen : shape.OpenEnded := openEnded_of_getLast? rfl hnone hlast hshape
  have hboth : '\n' ∉ (path ++ more).toList := by
    rw [String.toList_append, List.mem_append, not_or]
    exact ⟨hpath, hmore⟩
  rw [hdenotes _ hboth, String.toList_append]
  exact hopen _ _ ((hdenotes path hpath).mp haccepts)

end Glob

/-! ## 3. Names and paths in a tree -/

namespace Entry

/-- The names of all entries of a tree. -/
def names : Entry → List Name
  | .directory entries => namesOf entries
  | _ => []
where
  /-- The names of entries and of all that is below them. -/
  namesOf : List (Name × Entry) → List Name
    | [] => []
    | (n, e) :: rest => n :: (e.names ++ namesOf rest)

theorem mem_namesOf {entries : List (Name × Entry)} {n : Name} {e : Entry} (h : (n, e) ∈ entries) :
    n ∈ names.namesOf entries ∧ ∀ m ∈ e.names, m ∈ names.namesOf entries := by
  induction entries with
  | nil => cases h
  | cons p rest ih =>
    rw [names.namesOf]
    rcases List.mem_cons.mp h with rfl | h
    · exact ⟨List.mem_cons_self, fun m hm => List.mem_cons_of_mem _ (List.mem_append_left _ hm)⟩
    · obtain ⟨hn, hbelow⟩ := ih h
      exact ⟨List.mem_cons_of_mem _ (List.mem_append_right _ hn),
        fun m hm => List.mem_cons_of_mem _ (List.mem_append_right _ (hbelow m hm))⟩

/-- Names that lead to an entry are names of the tree. -/
theorem mem_names_of_below? {e found : Entry} {way : List Name} (h : e.below? way = some found) :
    ∀ n ∈ way, n ∈ e.names := by
  induction way generalizing e with
  | nil => simp
  | cons n way ih =>
    obtain ⟨entries, child, rfl, hfind, hbelow⟩ := below?_cons_eq_some_iff.mp h
    obtain ⟨hn, hchild⟩ := mem_namesOf (mem_of_find? hfind)
    rw [names, List.forall_mem_cons]
    exact ⟨hn, fun m hm => hchild m (ih hbelow m hm)⟩

end Entry

/-- What lies below a directory has the path of the directory and a slash in front. -/
theorem relativeText_append {above below : List Name} (habove : above ≠ []) (hbelow : below ≠ []) :
    relativeText (above ++ below) = relativeText above ++ "/" ++ relativeText below := by
  rw [relativeText, List.map_append]
  exact String.intercalate_append_of_ne_nil (by simpa using habove) (by simpa using hbelow)

theorem lineFeed_not_mem_relativeText {way : List Name} (h : ∀ n ∈ way, Text.lineFeed ∉ n) :
    '\n' ∉ (relativeText way).toList := by
  have hname (n : Name) (hn : Text.lineFeed ∉ n) : '\n' ∉ (relativeText [n]).toList := by
    simpa [relativeText] using Text.lineFeed_not_mem_decodeLossy hn
  induction way with
  | nil => simp [relativeText]
  | cons n way ih =>
    rw [List.forall_mem_cons] at h
    by_cases hlast : way = []
    · rw [hlast]
      exact hname n h.1
    · have hcons : relativeText ([n] ++ way) = relativeText [n] ++ "/" ++ relativeText way :=
        relativeText_append (List.cons_ne_nil n []) hlast
      rw [List.singleton_append] at hcons
      simp only [hcons, String.toList_append, List.mem_append, not_or]
      exact ⟨⟨hname n h.1, by decide⟩, ih h.2⟩

/-! ## 4. Walks with and without pruning -/

namespace WalkOptions

/-- The options without exclude patterns. -/
def withoutExcludes (o : WalkOptions) : WalkOptions := { o with excludes := [] }

/-- Without exclude patterns directories are left out for their names only. -/
theorem prunes_withoutExcludes (o : WalkOptions) (way : List Name) (n : Name) :
    o.withoutExcludes.prunes (way ++ [n]) = isSkippedDirectory (Text.decodeLossy n) := by
  simp [prunes, excludesDirectory, withoutExcludes, Glob.anyAccepts]

/-- What would be collected from the project at a path if exclude patterns were asked about files
only: the walk is the one without exclude patterns. -/
def collectUnpruned (o : WalkOptions) (d : Disk) (project : Path) : List SourceFile :=
  let project := project.absolute d.workingDirectory
  match d.lookup project with
  | .ok e => (o.gather o.maxFiles (o.withoutExcludes.walked e)).map (.ofBelow project)
  | .error _ => []

section Unpruned

variable {o : WalkOptions} {e : Entry}

/-- The exclude patterns accept whatever begins with what they accept, up to a line feed. -/
def ExcludesAreOpen (o : WalkOptions) : Prop :=
  ∀ g ∈ o.excludes, ∀ path more : String, '\n' ∉ path.toList → '\n' ∉ more.toList →
  g.accepts path = true → g.accepts (path ++ more) = true

/-- Where a file counts, no exclude pattern leaves out a directory on the way to it. -/
theorem notLeftOut_of_notExcluded (hopen : o.ExcludesAreOpen) {above below : List Name} {n : Name}
    (hne : below ≠ []) (hnames : ∀ m ∈ above ++ n :: below, Text.lineFeed ∉ m) {g : Glob}
    (hg : g ∈ o.excludes) (hfile : g.accepts (relativeText (above ++ n :: below)) = false) :
    g.accepts (relativeText (above ++ [n])) = false ∧
    g.accepts (relativeText (above ++ [n]) ++ "/") = false := by
  have hsplit : relativeText (above ++ n :: below) = relativeText (above ++ [n]) ++ "/" ++
      relativeText below := by
    rw [List.append_cons, relativeText_append (by simp) hne]
  have hdirectory : '\n' ∉ (relativeText (above ++ [n])).toList :=
    lineFeed_not_mem_relativeText fun m hm => hnames m (by
      rw [List.append_cons]
      exact List.mem_append_left below hm)
  have hbelow : '\n' ∉ (relativeText below).toList :=
    lineFeed_not_mem_relativeText fun m hm =>
    hnames m (List.mem_append_right above (List.mem_cons_of_mem n hm))
  rw [hsplit] at hfile
  constructor
  · by_contra haccepts
    have hmore : '\n' ∉ ("/" ++ relativeText below).toList := by simpa using hbelow
    have hlonger := hopen g hg _ _ hdirectory hmore (by simpa using haccepts)
    rw [← String.append_assoc, hfile] at hlonger
    cases hlonger
  · by_contra haccepts
    have hslash : '\n' ∉ (relativeText (above ++ [n]) ++ "/").toList := by simpa using hdirectory
    have hlonger := hopen g hg _ _ hslash hbelow (by simpa using haccepts)
    rw [hfile] at hlonger
    cases hlonger

/-- The walk without exclude patterns finds the same files that count. -/
theorem filter_walked_withoutExcludes (hs : e.isSound) (hopen : o.ExcludesAreOpen)
    (hnames : ∀ n ∈ e.names, Text.lineFeed ∉ n) :
    (o.withoutExcludes.walked e).filter (fun f => o.accepts (relativeText f.1)) =
      o.eligibleBelow e := by
  refine eq_of_ordered ((o.withoutExcludes.walked_ordered hs).filter _) (o.eligibleBelow_ordered hs)
    fun f => ?_
  rw [mem_eligibleBelow_iff hs, List.mem_filter, mem_walked_iff hs, accepts_iff]
  constructor
  · intro h
    obtain ⟨⟨hbelow, hfile, hentered⟩, hexcluded, hincluded⟩ := h
    have hway : ∀ n ∈ f.1, Text.lineFeed ∉ n :=
      fun n hn => hnames n (Entry.mem_names_of_below? hfile n hn)
    refine ⟨hbelow, hfile, fun way n rest heq hne => ?_, fun way n rest heq hne g hg => ?_,
      hexcluded, hincluded⟩
    · rw [← prunes_withoutExcludes o way n]
      exact hentered way n rest heq hne
    · rw [heq] at hway
      exact notLeftOut_of_notExcluded hopen hne hway hg (heq ▸ hexcluded g hg)
  · intro h
    refine ⟨⟨h.below, h.isFile, fun way n rest heq hne => ?_⟩, h.notExcluded, h.included⟩
    rw [List.nil_append, prunes_withoutExcludes]
    exact h.notSkipped way n rest heq hne

end Unpruned

theorem excludesAreOpen {includes excludes : List String} {maxFiles : Nat} {o : WalkOptions}
    (ho : WalkOptions.ofTexts? includes excludes maxFiles = .ok o)
    (hexcludes : ∀ text ∈ excludes, (Glob.tokens text.toList).getLast? = some .anything) :
    o.ExcludesAreOpen := by
  obtain ⟨-, hglobs, -⟩ := WalkOptions.ofTexts?_eq_ok_iff.mp ho
  intro g hg path more hpath hmore haccepts
  have hmem : Except.ok g ∈ excludes.map Glob.ofText? := by
    rw [Glob.ofTexts?_eq_ok_iff.mp hglobs]
    exact List.mem_map_of_mem hg
  obtain ⟨text, htext, hread⟩ := List.mem_map.mp hmem
  exact Glob.accepts_append hread (hexcludes text htext) hpath hmore haccepts

/-- **Pruning by exclude patterns that end in two stars is not seen.** Where no name in the project
has a line feed, the same files are collected as if exclude patterns were asked about files only and
kept the walk out of no directory. -/
theorem collect_eq_collectUnpruned {includes excludes : List String} {maxFiles : Nat}
    {o : WalkOptions} (ho : WalkOptions.ofTexts? includes excludes maxFiles = .ok o)
    (hexcludes : ∀ text ∈ excludes, (Glob.tokens text.toList).getLast? = some .anything) (d : Disk)
    (project : Path)
    (hnames : ∀ e, d.lookup (project.absolute d.workingDirectory) = .ok e → ∀ n ∈ e.names,
      Text.lineFeed ∉ n) :
    o.collect d project = o.collectUnpruned d project := by
  cases he : d.lookup (project.absolute d.workingDirectory) with
  | error fault => rw [collect_of_error he, collectUnpruned, he]
  | ok e =>
    have hsame :=
      filter_walked_withoutExcludes (Disk.isSound_of_lookup he) (excludesAreOpen ho hexcludes)
      (hnames e he)
    rw [collect_of_ok he, ← hsame, collectUnpruned, he]
    simp only [gather_eq_take]

/-- Two directories of generated files, of which an exclude pattern describes one. -/
def generated : Disk where
  root := .directory
    [(Text.encode "lib", .directory
      [(Text.encode "gen", .directory [(Text.encode "a.js", .file [])]),
        (Text.encode "b.js", .file [])]),
    (Text.encode "gen", .directory [(Text.encode "c.js", .file [])])]
  workingDirectory := .ofText "/"
  sound := by decide +kernel

theorem collect_eq_collectUnpruned_generated :
    ∃ o, WalkOptions.ofTexts? ["**/*.js"] ["{lib,src}/gen**"] 5 = .ok o ∧
      (Glob.tokens "{lib,src}/gen**".toList).getLast? = some .anything ∧
      o.collect generated (.ofText "/") = o.collectUnpruned generated (.ofText "/") ∧
      (o.collectUnpruned generated (.ofText "/")).map (·.relativePath) =
        ["gen/c.js", "lib/b.js"] := by
  have hlast : (Glob.tokens "{lib,src}/gen**".toList).getLast? = some .anything := by decide +kernel
  have hnames :
      (generated.lookup ((Path.ofText "/").absolute generated.workingDirectory)).toOption.all
      (fun e => decide (∀ n ∈ e.names, Text.lineFeed ∉ n)) = true := by
    decide +kernel
  have hpaths : (WalkOptions.ofTexts? ["**/*.js"] ["{lib,src}/gen**"] 5).toOption.map
      (fun o => (o.collectUnpruned generated (.ofText "/")).map (·.relativePath)) =
        some ["gen/c.js", "lib/b.js"] := by
    decide +kernel
  cases ho : WalkOptions.ofTexts? ["**/*.js"] ["{lib,src}/gen**"] 5 with
  | error refusal =>
    rw [ho] at hpaths
    cases hpaths
  | ok o =>
    rw [ho] at hpaths
    refine ⟨o, rfl, hlast, collect_eq_collectUnpruned ho (by simpa using hlast) _ _ fun e he => ?_,
      Option.some_inj.mp hpaths⟩
    rw [he] at hnames
    exact of_decide_eq_true hnames

end WalkOptions

end PrivacyAudit
