import PrivacyAudit.Glob.Basic
import PrivacyAudit.Proofs.Occurring
import PrivacyAudit.Proofs.Spelling
import Mathlib.Data.List.Forall2

/-!
# What the spelling of a glob describes

The written pattern of a glob is given a meaning like any other; here this meaning is compared with
what the glob's tree stands for. The two agree on paths without a line feed, which is the one
character that a dot does not read. So an accepted glob accepts what its tree stands for
(`accepts_iff_shape`).
-/

namespace PrivacyAudit

namespace CharSet

/-! ## 1. The sets of the spelling -/

theorem toNat_eq_iff {c d : Char} : d.toNat = c.toNat ↔ d = c :=
  ⟨fun h => Char.ext (UInt32.toNat_inj.mp h), congrArg Char.toNat⟩

theorem toNat_le_lastCodePoint (c : Char) : c.toNat ≤ lastCodePoint := by
  have hvalid : c.toNat.isValidChar := c.valid
  rcases hvalid with h | ⟨-, h⟩
  · exact Nat.le_of_lt (Nat.lt_trans h (by decide))
  · exact Nat.le_of_lt_succ h

theorem contains_single {c d : Char} : (single c).contains d ↔ d = c := by
  simp only [contains, single, range, Text.Ranges.holds, ← toNat_eq_iff]
  split
  · simp
    omega
  · simp
    omega

theorem contains_complement_single {c d : Char} : (single c).complement.contains d ↔ d ≠ c := by
  have hc := toNat_le_lastCodePoint c
  have hd := toNat_le_lastCodePoint d
  rw [Ne, ← toNat_eq_iff]
  simp only [contains, single, range, complement, gaps]
  split <;> split <;> simp [Text.Ranges.holds] <;> omega

end CharSet

namespace Pattern

/-! ## 2. Sequences and choices -/

variable {pre mid post : List Char}

theorem Spans.then_assoc {A B C : Spans} :
    (A.Then B).Then C pre mid post ↔ A.Then (B.Then C) pre mid post := by
  constructor
  · rintro ⟨_, z, rfl, ⟨x, y, rfl, ha, hb⟩, hc⟩
    exact ⟨x, y ++ z, by simp, by simpa using ha, y, z, rfl, hb, by simpa using hc⟩
  · rintro ⟨x, _, rfl, ha, y, z, rfl, hb, hc⟩
    exact ⟨x ++ y, z, by simp, ⟨x, y, rfl, by simpa using ha, hb⟩, by simpa using hc⟩

theorem matches_sequence_cons {p : Pattern} {ps : List Pattern} :
    (sequence (p :: ps)).Matches pre mid post ↔
    Spans.Then p.Matches (sequence ps).Matches pre mid post := by
  cases ps with
  | nil =>
    constructor
    · intro h
      exact ⟨mid, [], by simp, by simpa [sequence] using h, by simp [sequence]⟩
    · rintro ⟨mid₁, mid₂, rfl, hp, hempty⟩
      obtain rfl : mid₂ = [] := by simpa [sequence] using hempty
      simpa [sequence] using hp
  | cons q ps => exact matches_seq_iff

theorem matches_sequence_append {ps qs : List Pattern} :
    (sequence (ps ++ qs)).Matches pre mid post ↔
      Spans.Then (sequence ps).Matches (sequence qs).Matches pre mid post := by
  induction ps generalizing pre mid post with
  | nil =>
    constructor
    · intro h
      exact ⟨[], mid, rfl, by simp [sequence], by simpa using h⟩
    · rintro ⟨mid₁, mid₂, rfl, hempty, hq⟩
      obtain rfl : mid₁ = [] := by simpa [sequence] using hempty
      simpa using hq
  | cons p ps ih =>
    have hfirst : (sequence (p :: ps)).Matches = Spans.Then p.Matches (sequence ps).Matches := by
      funext pre mid post
      exact propext matches_sequence_cons
    have hrest : (sequence (ps ++ qs)).Matches =
        Spans.Then (sequence ps).Matches (sequence qs).Matches := by
      funext pre mid post
      exact propext ih
    rw [List.cons_append, matches_sequence_cons, hfirst, hrest, Spans.then_assoc]

theorem matches_choice_iff {ps : List Pattern} :
    (choice ps).Matches pre mid post ↔ ∃ p ∈ ps, p.Matches pre mid post := by
  induction ps with
  | nil => simp [choice, CharSet.contains, CharSet.none, Text.Ranges.holds]
  | cons p ps ih =>
    cases ps with
    | nil => simp [choice]
    | cons q ps =>
      rw [choice, matches_alt_iff, ih]
      · simp
      · simp

/-- A repetition of a set, any number of times, reads the spans of its characters. -/
theorem matches_many_set_iff {s : CharSet} {greedy : Bool} :
    Matches (.loop (.set s) 0 none greedy) pre mid post ↔ ∀ c ∈ mid, s.contains c = true := by
  induction mid generalizing pre with
  | nil => simpa using Matches.loopDone
  | cons c mid ih =>
    rw [matches_many_cons_iff, List.forall_mem_cons]
    constructor
    · rintro ⟨mid₁, mid₂, rfl, hset, hrest⟩
      obtain ⟨d, hd, heq⟩ := matches_set_iff.mp hset
      obtain ⟨rfl, rfl⟩ := List.cons.inj heq
      exact ⟨hd, ih.mp (by simpa using hrest)⟩
    · rintro ⟨hc, hmid⟩
      exact ⟨[], mid, rfl, .set hc, ih.mpr hmid⟩

theorem matches_optional_iff {p : Pattern} {greedy : Bool} :
    Matches (.loop p 0 (some 1) greedy) pre mid post ↔ mid = [] ∨ p.Matches pre mid post := by
  rw [matches_loop_iff]
  constructor
  · rintro (⟨-, rfl⟩ | ⟨-, mid₁, mid₂, rfl, hp, hrest⟩)
    · exact .inl rfl
    · rw [matches_loop_iff] at hrest
      obtain rfl : mid₂ = [] := by simpa using hrest
      exact .inr (by simpa using hp)
  · rintro (rfl | hp)
    · exact .inl ⟨rfl, rfl⟩
    · exact .inr ⟨by simp, mid, [], by simp, by simpa using hp, .loopDone⟩

/-! ## 3. Expressions that describe paths -/

/-- The initial modes of a glob's spelling. -/
def globModes : Modes := .initial false

/-- The expression describes the spans of a set, as long as they have no line feed. -/
def Means (e : Expr) (L : List Char → Prop) : Prop :=
  ∃ p, e.meaning globModes = .ok (p, globModes) ∧
    ∀ pre mid post, '\n' ∉ mid → (p.Matches pre mid post ↔ L mid)

/-- The patterns that expressions describe one by one. -/
def HaveMeaning (es : List Expr) (ps : List Pattern) : Prop :=
  List.Forall₂ (fun e p => e.meaning globModes = .ok (p, globModes)) es ps

theorem meanings_eq {es : List Expr} {ps : List Pattern} (h : HaveMeaning es ps) :
    Expr.meaning.meanings globModes es = .ok (ps, globModes) := by
  induction h with
  | nil => rfl
  | cons he _ ih =>
    rw [Expr.meaning.meanings, he]
    simp only [bind, Except.bind, ih, pure, Except.pure]

theorem HaveMeaning.append {es es' : List Expr} {ps ps' : List Pattern} (h : HaveMeaning es ps)
    (h' : HaveMeaning es' ps') : HaveMeaning (es ++ es') (ps ++ ps') := List.rel_append h h'

theorem HaveMeaning.ofParts {es : List Expr} {ps : List Pattern} (h : HaveMeaning es ps) :
    (Expr.ofParts es).meaning globModes = .ok (Pattern.sequence ps, globModes) := by
  have hmeaning := meanings_eq h
  match h with
  | .nil => rfl
  | .cons he .nil => exact he
  | .cons _ (.cons _ _) =>
    rw [Expr.ofParts, Expr.meaning, hmeaning]
    · rfl
    all_goals simp

theorem HaveMeaning.choice {es : List Expr} {ps : List Pattern} (h : HaveMeaning es ps) :
    (Expr.choice es).meaning globModes = .ok (Pattern.choice ps, globModes) := by
  rw [Expr.meaning, meanings_eq h]
  rfl

theorem HaveMeaning.choiceOf {es : List Expr} {ps : List Pattern} (h : HaveMeaning es ps) :
    (Glob.choiceOf es).meaning globModes = .ok (Pattern.choice ps, globModes) := by
  unfold Glob.choiceOf
  split
  · match h with
    | .cons he .nil => exact he
  · exact h.choice

theorem meaning_group {e : Expr} {p : Pattern} (h : e.meaning globModes = .ok (p, globModes)) :
    (Expr.group none .empty e).meaning globModes = .ok (p, globModes) := by
  have hmodes : globModes.apply .empty = globModes := rfl
  rw [Expr.meaning, hmodes, h]
  rfl

/-- The expressions describe the spans of a set one after the other. -/
def InSequence (es : List Expr) (L : List Char → Prop) : Prop :=
  ∃ ps, HaveMeaning es ps ∧
    ∀ pre mid post, '\n' ∉ mid → ((sequence ps).Matches pre mid post ↔ L mid)

/-- The expressions describe the spans of a set as alternatives. -/
def AsChoices (es : List Expr) (L : List Char → Prop) : Prop :=
  ∃ ps, HaveMeaning es ps ∧
    ∀ pre mid post, '\n' ∉ mid → ((choice ps).Matches pre mid post ↔ L mid)

variable {e : Expr} {es es' : List Expr} {L L' : List Char → Prop}

theorem Means.inSequence (h : Means e L) : InSequence [e] L := by
  obtain ⟨p, he, hp⟩ := h
  exact ⟨[p], .cons he .nil, hp⟩

theorem Means.asChoices (h : Means e L) : AsChoices [e] L := by
  obtain ⟨p, he, hp⟩ := h
  exact ⟨[p], .cons he .nil, hp⟩

theorem inSequence_nil : InSequence [] (· = []) :=
  ⟨[], .nil, fun _ _ _ _ => by simp [sequence]⟩

theorem InSequence.append (h : InSequence es L) (h' : InSequence es' L') :
    InSequence (es ++ es') fun w => ∃ x y, w = x ++ y ∧ L x ∧ L' y := by
  obtain ⟨ps, hps, hL⟩ := h
  obtain ⟨qs, hqs, hL'⟩ := h'
  refine ⟨ps ++ qs, hps.append hqs, fun pre mid post hmid => ?_⟩
  rw [matches_sequence_append]
  constructor
  · rintro ⟨x, y, rfl, hx, hy⟩
    rw [List.mem_append, not_or] at hmid
    exact ⟨x, y, rfl, (hL _ _ _ hmid.1).mp hx, (hL' _ _ _ hmid.2).mp hy⟩
  · rintro ⟨x, y, rfl, hx, hy⟩
    rw [List.mem_append, not_or] at hmid
    exact ⟨x, y, rfl, (hL _ _ _ hmid.1).mpr hx, (hL' _ _ _ hmid.2).mpr hy⟩

theorem AsChoices.append (h : AsChoices es L) (h' : AsChoices es' L') :
    AsChoices (es ++ es') fun w => L w ∨ L' w := by
  obtain ⟨ps, hps, hL⟩ := h
  obtain ⟨qs, hqs, hL'⟩ := h'
  refine ⟨ps ++ qs, hps.append hqs, fun pre mid post hmid => ?_⟩
  show _ ↔ L mid ∨ L' mid
  rw [← hL pre mid post hmid, ← hL' pre mid post hmid]
  simp only [matches_choice_iff, List.mem_append, or_and_right, exists_or]

theorem InSequence.ofParts (h : InSequence es L) : Means (.ofParts es) L := by
  obtain ⟨ps, hps, hL⟩ := h
  exact ⟨_, hps.ofParts, hL⟩

theorem AsChoices.choice (h : AsChoices es L) : Means (.choice es) L := by
  obtain ⟨ps, hps, hL⟩ := h
  exact ⟨_, hps.choice, hL⟩

theorem AsChoices.choiceOf (h : AsChoices es L) : Means (Glob.choiceOf es) L := by
  obtain ⟨ps, hps, hL⟩ := h
  exact ⟨_, hps.choiceOf, hL⟩

theorem Means.group (h : Means e L) : Means (.group none .empty e) L := by
  obtain ⟨p, he, hp⟩ := h
  exact ⟨p, meaning_group he, hp⟩

/-! ## 4. The parts of a spelling -/

theorem means_literal (c : Char) : Means (.literal c false) (· = [c]) := by
  refine ⟨.set (.single c), rfl, fun pre mid post _ => ?_⟩
  rw [matches_set_iff]
  constructor
  · rintro ⟨d, hd, rfl⟩
    rw [CharSet.contains_single.mp hd]
  · rintro rfl
    exact ⟨c, CharSet.contains_single.mpr rfl, rfl⟩

theorem means_segmentChar : Means segmentChar fun w => ∃ c, c ≠ '/' ∧ w = [c] := by
  refine ⟨.set (CharSet.single '/').complement, rfl, fun pre mid post _ => ?_⟩
  simp only [matches_set_iff, CharSet.contains_complement_single]

theorem means_segmentChars : Means (.repeated segmentChar 0 none true) fun w => '/' ∉ w := by
  refine ⟨.loop (.set (CharSet.single '/').complement) 0 none true, rfl, fun pre mid post _ => ?_⟩
  simp only [matches_many_set_iff, CharSet.contains_complement_single]
  exact ⟨fun h hmem => h _ hmem rfl, fun h c hc heq => h (heq ▸ hc)⟩

theorem means_dots : Means (.repeated .dot 0 none true) fun _ => True := by
  refine ⟨.loop (.set (CharSet.single '\n').complement) 0 none true, rfl,
    fun pre mid post hmid => ?_⟩
  simp only [matches_many_set_iff, CharSet.contains_complement_single, iff_true]
  exact fun c hc heq => hmid (heq ▸ hc)

theorem means_anyDirectories : Means anyDirectories fun w => w = [] ∨ ∃ above,
    w = above ++ ['/'] := by
  have hinside := (means_dots.inSequence.append (means_literal '/').inSequence).ofParts.group
  obtain ⟨p, hp, hL⟩ := hinside
  have hgroup :
      (Expr.group none .empty (.sequence [.repeated .dot 0 none true, .literal '/' false])).meaning
      globModes = .ok (p, globModes) := hp
  refine ⟨.loop p 0 (some 1) true, ?_, fun pre mid post hmid => ?_⟩
  · rw [anyDirectories, Expr.meaning, hgroup]
    rfl
  · rw [matches_optional_iff, hL pre mid post hmid]
    simp

/-- A text that spells out a pattern is read, and what is read has this pattern for its meaning. -/
theorem ofText?_eq_ok {ignoreCase : Bool} {text : String} {p : Pattern}
    (h : ofText? ignoreCase text = .ok p) :
    ∃ expr modes, Expr.read text.toList = .ok expr ∧
    expr.meaning (.initial ignoreCase) = .ok (p, modes) := by
  unfold ofText? ofExpr? at h
  cases hexpr : Expr.read text.toList with
  | error fault =>
    rw [hexpr] at h
    cases h
  | ok expr =>
    cases hmeaning : expr.meaning (.initial ignoreCase) with
    | error fault =>
      simp only [hexpr, hmeaning, bind, Except.bind] at h
      cases h
    | ok result =>
      obtain ⟨q, modes⟩ := result
      simp only [hexpr, hmeaning, bind, Except.bind, pure, Except.pure] at h
      split at h
      · cases h
      · obtain rfl := Except.ok.inj h
        exact ⟨expr, modes, rfl, hmeaning⟩

end Pattern

/-! ## 5. The spelling of a whole glob -/

namespace Glob

open Pattern (InSequence AsChoices HaveMeaning globModes)

theorem written_sequence {parts : List Pattern.Expr} {L : List Char → Prop}
    (h : InSequence parts L) :
    InSequence (Written.sequence parts).parts L ∧ AsChoices (Written.sequence parts).choices L :=
  ⟨h, h.ofParts.asChoices⟩

/-- What a shape is written as describes what the shape stands for, as a sequence and as
alternatives. -/
theorem written_denotes (shape : Shape) :
    InSequence shape.written.parts shape.Denotes ∧
    AsChoices shape.written.choices shape.Denotes := by
  induction shape with
  | nothing => exact written_sequence Pattern.inSequence_nil
  | literal c => exact written_sequence (Pattern.means_literal c).inSequence
  | oneInSegment => exact written_sequence Pattern.means_segmentChar.inSequence
  | withinSegment => exact written_sequence Pattern.means_segmentChars.inSequence
  | anything => exact written_sequence Pattern.means_dots.inSequence
  | directories => exact written_sequence Pattern.means_anyDirectories.inSequence
  | both a b iha ihb => exact written_sequence (iha.1.append ihb.1)
  | either a b iha ihb =>
    have hchoices := iha.2.append ihb.1.ofParts.asChoices
    exact ⟨hchoices.choice.inSequence, hchoices⟩
  | braces a ih => exact written_sequence ih.2.choiceOf.group.inSequence

/-- Between its anchors the written pattern describes whole texts only. -/
theorem occurs_between_anchors_iff {ps : List Pattern} {text : List Char} :
    (Pattern.sequence ([.look .textStart] ++ (ps ++ [.look .textEnd]))).Occurs text ↔
      (Pattern.sequence ps).Matches [] text [] := by
  constructor
  · rintro ⟨pre, mid, post, rfl, h⟩
    obtain ⟨start, rest, rfl, hstart, hrest⟩ := Pattern.matches_sequence_append.mp h
    obtain ⟨inside, stop, rfl, hinside, hstop⟩ := Pattern.matches_sequence_append.mp hrest
    obtain ⟨hpre, rfl⟩ := Pattern.matches_look_iff.mp hstart
    obtain ⟨hpost, rfl⟩ := Pattern.matches_look_iff.mp hstop
    obtain rfl : pre = [] := by simpa [Look.holds] using hpre
    obtain rfl : post = [] := by simpa [Look.holds] using hpost
    simpa using hinside
  · intro h
    refine ⟨[], text,
      [], by simp, Pattern.matches_sequence_append.mpr ⟨[], text, rfl, .look rfl, ?_⟩⟩
    exact Pattern.matches_sequence_append.mpr ⟨text, [], by simp, by simpa using h, .look rfl⟩

/-- The written pattern of a whole glob describes the parts of its tree between the ends of the
text. -/
theorem meaning_anchored {shape : Shape} {ps : List Pattern}
    (h : HaveMeaning shape.written.parts ps) :
    shape.anchored.meaning globModes =
      .ok (Pattern.sequence ([.look .textStart] ++ (ps ++ [.look .textEnd])), globModes) := by
  have hstart : HaveMeaning [.anchor .lineStart] [.look .textStart] := .cons rfl .nil
  have hstop : HaveMeaning [.anchor .lineEnd] [.look .textEnd] := .cons rfl .nil
  have hall := hstart.append (h.append hstop)
  have hparts : shape.anchored =
      .sequence ([.anchor .lineStart] ++ (shape.written.parts ++ [.anchor .lineEnd])) := by
    simp [Shape.anchored]
  rw [hparts, Pattern.Expr.meaning, Pattern.meanings_eq hall]
  rfl

theorem ofText?_eq_ok_iff {text : String} {g : Glob} :
    ofText? text = .ok g ↔
      Pattern.ofText? false (String.ofList (spelling (tokens text.toList))) = .ok g.pattern := by
  unfold ofText?
  cases hp : Pattern.ofText? false (String.ofList (spelling (tokens text.toList))) with
  | error kind => simp [hp]
  | ok p =>
    simp only [hp, Except.ok.injEq]
    exact ⟨congrArg Glob.pattern, congrArg Glob.mk⟩

/-- The tree of an accepted glob is not nested too deeply, and the glob's pattern is what the tree
is written as. -/
theorem exists_shape {text : String} {g : Glob} (h : ofText? text = .ok g) :
    ∃ shape, Shape.ofTokens? (tokens text.toList) = some shape ∧
      shape.anchored.depth ≤ Pattern.nestingLimit ∧
      ∃ modes, shape.anchored.meaning globModes = .ok (g.pattern, modes) := by
  obtain ⟨expr, modes, hexpr, hmeaning⟩ := Pattern.ofText?_eq_ok (ofText?_eq_ok_iff.mp h)
  rw [String.toList_ofList, read_spelling] at hexpr
  cases hshape : Shape.ofTokens? (tokens text.toList) with
  | none =>
    rw [hshape] at hexpr
    cases hexpr
  | some shape =>
    rw [hshape] at hexpr
    simp only at hexpr
    split at hexpr
    · cases hexpr
    · next hdepth =>
      obtain rfl : shape.anchored = expr := Except.ok.inj hexpr
      exact ⟨shape, rfl, Nat.le_of_not_lt hdepth, modes, hmeaning⟩

/-- A glob accepts the paths that the parts of its tree match from end to end. -/
theorem accepts_iff_matches {shape : Shape} {g : Glob} {modes : Pattern.Modes} {ps : List Pattern}
    (hmeaning : shape.anchored.meaning globModes = .ok (g.pattern, modes))
    (hps : HaveMeaning shape.written.parts ps) {path : String} :
    g.accepts path ↔ (Pattern.sequence ps).Matches [] path.toList [] := by
  have hpattern : g.pattern = Pattern.sequence ([.look .textStart] ++ (ps ++ [.look .textEnd])) :=
    (Prod.ext_iff.mp (Except.ok.inj (hmeaning.symm.trans (meaning_anchored hps)))).1
  rw [accepts, Pattern.occurs_iff, hpattern, occurs_between_anchors_iff]

/-- An accepted glob accepts what its tree stands for, among paths without a line feed. -/
theorem accepts_iff_shape {text : String} {g : Glob} (h : ofText? text = .ok g) :
    ∃ shape, Shape.ofTokens? (tokens text.toList) = some shape ∧
      ∀ path : String, '\n' ∉ path.toList → (g.accepts path ↔ shape.Denotes path.toList) := by
  obtain ⟨shape, hshape, -, modes, hmeaning⟩ := exists_shape h
  obtain ⟨ps, hps, hL⟩ := (written_denotes shape).1
  refine ⟨shape, hshape, fun path hpath => ?_⟩
  rw [accepts_iff_matches hmeaning hps, hL [] path.toList [] hpath]

end Glob

end PrivacyAudit
