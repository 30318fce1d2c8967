import PrivacyAudit.Proofs.Denotation

/-!
# Globs below any directory

Two stars and a slash in front of a glob let it describe its paths below any directory, and where
they are as well. `accepts_at_any_depth` says this without exception for every glob and every path:
what the longer glob accepts is what the glob accepts, at the top or below a way down. A way down is
any text without a line feed, since its spelling is a dot, and this is the one character that a dot
does not read (`line_feed_hides_directory`).

Two facts about spellings carry this. The longer glob is written as the glob, with one part in front
(`parts_directories`). And the parts of a spelling match what they match wherever it stands
(`written_anywhere`): so it makes no difference to the glob that there is a way down in front of it.
-/

namespace PrivacyAudit

namespace Pattern

/-! ## 1. Patterns that ask for no position -/

/-- Whether the pattern describes a span is not a matter of what stands before the span and behind
it. -/
def Anywhere (p : Pattern) : Prop :=
  ∀ pre mid post, p.Matches pre mid post → ∀ pre' post', p.Matches pre' mid post'

theorem anywhere_empty : Anywhere .empty := fun _ _ _ h _ _ =>
  matches_empty_iff.mpr (matches_empty_iff.mp h)

theorem anywhere_set (s : CharSet) : Anywhere (.set s) := fun _ _ _ h _ _ =>
  matches_set_iff.mpr (matches_set_iff.mp h)

namespace Anywhere

theorem loop {p : Pattern} (hp : p.Anywhere) (least : Nat) (most : Option Nat) (greedy : Bool) :
    Anywhere (.loop p least most greedy) := by
  intro pre mid post h pre' post'
  -- By induction on the rounds, each of which may stand anywhere.
  generalize hloop : Pattern.loop p least most greedy = loop at h
  induction h generalizing least most pre' post' with
  | empty | set | look | mark | seq | altFirst | altSecond => cases hloop
  | loopDone =>
    cases hloop
    exact .loopDone
  | loopMore hmost hround hrest _ ih =>
    cases hloop
    exact .loopMore hmost (hp _ _ _ hround _ _) (ih _ _ _ _ rfl)

theorem sequence {ps : List Pattern} (h : ∀ p ∈ ps, p.Anywhere) :
    (Pattern.sequence ps).Anywhere := by
  induction ps with
  | nil => exact anywhere_empty
  | cons p ps ih =>
    obtain ⟨hp, hps⟩ := List.forall_mem_cons.mp h
    intro pre mid post hm pre' post'
    obtain ⟨mid₁, mid₂, rfl, hfirst, hrest⟩ := matches_sequence_cons.mp hm
    exact matches_sequence_cons.mpr ⟨mid₁, mid₂, rfl, hp _ _ _ hfirst _ _, ih hps _ _ _ hrest _ _⟩

theorem choice {ps : List Pattern} (h : ∀ p ∈ ps, p.Anywhere) : (Pattern.choice ps).Anywhere := by
  intro pre mid post hm pre' post'
  obtain ⟨p, hmem, hp⟩ := matches_choice_iff.mp hm
  exact matches_choice_iff.mpr ⟨p, hmem, h p hmem _ _ _ hp _ _⟩

end Anywhere

/-- The expressions describe, one by one, patterns that ask for no position. -/
def MeanAnywhere (es : List Expr) : Prop := ∃ ps, HaveMeaning es ps ∧ ∀ p ∈ ps, p.Anywhere

theorem meanAnywhere_nil : MeanAnywhere [] := ⟨[], .nil, by simp⟩

theorem meanAnywhere_singleton {e : Expr} {p : Pattern}
    (he : e.meaning globModes = .ok (p, globModes)) (hp : p.Anywhere) : MeanAnywhere [e] :=
  ⟨[p], .cons he .nil, by simpa using hp⟩

namespace MeanAnywhere

variable {e : Expr} {es es' : List Expr}

theorem append (h : MeanAnywhere es) (h' : MeanAnywhere es') : MeanAnywhere (es ++ es') := by
  obtain ⟨ps, hps, hany⟩ := h
  obtain ⟨qs, hqs, hany'⟩ := h'
  refine ⟨ps ++ qs, hps.append hqs, fun p hp => ?_⟩
  rcases List.mem_append.mp hp with hp | hp
  · exact hany p hp
  · exact hany' p hp

theorem ofParts (h : MeanAnywhere es) : MeanAnywhere [.ofParts es] := by
  obtain ⟨ps, hps, hany⟩ := h
  exact meanAnywhere_singleton hps.ofParts (.sequence hany)

theorem choice (h : MeanAnywhere es) : MeanAnywhere [.choice es] := by
  obtain ⟨ps, hps, hany⟩ := h
  exact meanAnywhere_singleton hps.choice (.choice hany)

theorem groupOfChoices (h : MeanAnywhere es) :
    MeanAnywhere [.group none .empty (Glob.choiceOf es)] := by
  obtain ⟨ps, hps, hany⟩ := h
  exact meanAnywhere_singleton (meaning_group hps.choiceOf) (.choice hany)

end MeanAnywhere

end Pattern

/-! ## 2. The spelling of a glob asks for no position -/

namespace Glob

open Pattern (Expr Anywhere MeanAnywhere HaveMeaning anyDirectories globModes)

/-- The pattern of a way down. -/
def wayDown : Pattern :=
  .loop (.sequence [.loop (.set (CharSet.single '\n').complement) 0 none true,
    .set (.single '/')]) 0 (some 1) true

theorem meaning_anyDirectories : anyDirectories.meaning globModes = .ok (wayDown, globModes) := rfl

theorem wayDown_anywhere : wayDown.Anywhere := by
  refine .loop (.sequence fun p hp => ?_) 0 (some 1) true
  rcases List.mem_pair.mp hp with rfl | rfl
  · exact (Pattern.anywhere_set _).loop 0 none true
  · exact Pattern.anywhere_set _

theorem written_sequence_anywhere {parts : List Expr} (h : MeanAnywhere parts) :
    MeanAnywhere (Written.sequence parts).parts ∧ MeanAnywhere (Written.sequence parts).choices :=
  ⟨h, h.ofParts⟩

/-- What a shape is written as matches what it matches wherever that stands. -/
theorem written_anywhere (shape : Shape) :
    MeanAnywhere shape.written.parts ∧ MeanAnywhere shape.written.choices := by
  have hset (s : CharSet) : (Pattern.set s).Anywhere := Pattern.anywhere_set s
  induction shape with
  | nothing => exact written_sequence_anywhere Pattern.meanAnywhere_nil
  | literal c => exact written_sequence_anywhere (Pattern.meanAnywhere_singleton rfl (hset _))
  | oneInSegment => exact written_sequence_anywhere (Pattern.meanAnywhere_singleton rfl (hset _))
  | withinSegment =>
    exact written_sequence_anywhere (Pattern.meanAnywhere_singleton rfl ((hset _).loop 0 none true))
  | anything =>
    exact written_sequence_anywhere (Pattern.meanAnywhere_singleton rfl ((hset _).loop 0 none true))
  | directories =>
    exact written_sequence_anywhere
      (Pattern.meanAnywhere_singleton meaning_anyDirectories wayDown_anywhere)
  | both a b iha ihb => exact written_sequence_anywhere (iha.1.append ihb.1)
  | either a b iha ihb =>
    have hchoices := iha.2.append ihb.1.ofParts
    exact ⟨hchoices.choice, hchoices⟩
  | braces a ih => exact written_sequence_anywhere ih.2.groupOfChoices

/-! ## 3. One part in front -/

open Shape (Outside ofTokensFrom orElse)

/-- Two places in the tokens of one text, which differ in the outermost sequence only: there the
first has `lead` in front of the parts of the second. -/
inductive Leads (lead : List Expr) :
    (current' current : Shape) → (before : Option Shape) → (outside' outside : Outside) → Prop
  | outermost {current' current : Shape} (h : current'.written.parts = lead ++
      current.written.parts) :
      Leads lead current' current none [] []
  | inside {sequence' sequence current : Shape} {around before : Option Shape}
      {outside' outside : Outside}
      (h : Leads lead sequence' sequence around outside' outside) :
      Leads lead current current before ((sequence', around) :: outside')
        ((sequence, around) :: outside)

variable {lead : List Expr} {current' current : Shape} {before : Option Shape}
  {outside' outside : Outside}

theorem Leads.andThen (h : Leads lead current' current before outside' outside) (item : Shape) :
    Leads lead (current'.andThen item) (current.andThen item) before outside' outside := by
  cases h with
  | outermost h =>
    refine .outermost ?_
    rw [Shape.parts_andThen, Shape.parts_andThen, h, List.append_assoc]
  | inside h => exact .inside h

/-- The parts of two shapes differ by a part in front, if there are shapes at all. -/
def SameBehind (lead : List Expr) : (found' found : Option Shape) → Prop :=
  Option.Rel fun shape' shape => shape'.written.parts = lead ++ shape.written.parts

/-- Putting tokens together leaves in front what is there. By induction on the text of the glob, as
its tokens are read from it. -/
theorem ofTokensFrom_leads {depth : Nat} {text : List Char} (hdepth : depth = outside.length)
    (h : Leads lead current' current before outside' outside) :
    SameBehind lead (ofTokensFrom current' before outside' (tokensFrom depth text))
      (ofTokensFrom current before outside (tokensFrom depth text)) := by
  induction depth,
    text using tokensFrom_induction generalizing current' current before outside' outside with
  | nil depth =>
    cases h with
    | outermost h => exact .some h
    | inside h => exact .none
  | item depth written rest t s hs _ htokens ih =>
    rw [htokens, Shape.ofTokensFrom_cons hs, Shape.ofTokensFrom_cons hs]
    exact ih hdepth (h.andThen s)
  | opening depth rest ih => exact ih (congrArg (· + 1) hdepth) (.inside h)
  | closing depth rest ih =>
    cases h with
    | outermost h => cases hdepth
    | inside h =>
      rw [tokensFrom_closing]
      exact ih (Nat.succ.inj hdepth) (h.andThen _)
  | separator depth rest ih =>
    cases h with
    | outermost h => cases hdepth
    | inside h =>
      rw [tokensFrom_separator]
      exact ih hdepth (.inside h)

/-- With two stars and a slash in front, a glob is written as before with one part in front. -/
theorem parts_directories (text : List Char) :
    SameBehind [anyDirectories] (Shape.ofTokens? (tokens ('*' :: '*' :: '/' :: text)))
      (Shape.ofTokens? (tokens text)) := by
  have h : Leads [anyDirectories] .directories .nothing none [] [] := .outermost rfl
  exact ofTokensFrom_leads rfl h

/-! ## 4. What the longer glob accepts -/

theorem matches_wayDown_iff {pre mid post : List Char} :
    wayDown.Matches pre mid post ↔ mid = [] ∨ ∃ above, mid = above ++ ['/'] ∧ '\n' ∉ above := by
  rw [wayDown, Pattern.matches_optional_iff, Pattern.matches_sequence_cons]
  refine or_congr_right ?_
  simp only [Pattern.Spans.Then, Pattern.matches_many_set_iff, Pattern.sequence,
    Pattern.matches_set_iff, CharSet.contains_single, CharSet.contains_complement_single]
  constructor
  · rintro ⟨above, _, rfl, habove, _, rfl, rfl⟩
    exact ⟨above, rfl, fun hmem => habove _ hmem rfl⟩
  · rintro ⟨above, rfl, habove⟩
    exact ⟨above, ['/'], rfl, fun c hc heq => habove (heq ▸ hc), '/', rfl, rfl⟩

/-- A tree with a way down in front is nested no deeper than the limit allows if it was not before:
the way down has four levels of its own. -/
theorem depth_anchored_le {shape' shape : Shape}
    (hparts : shape'.written.parts = [anyDirectories] ++ shape.written.parts)
    (h : shape.anchored.depth ≤ Pattern.nestingLimit) :
    shape'.anchored.depth ≤ Pattern.nestingLimit := by
  have hlimit : 5 ≤ Pattern.nestingLimit := by decide
  have hway : anyDirectories.depth = 4 := rfl
  simp only [Shape.anchored, hparts, Expr.depth, Expr.depth.depths, List.cons_append,
    List.nil_append, hway] at h ⊢
  omega

/-- What is not nested too deeply is read, and its size is looked at then. -/
theorem patternOfText?_of_shape {text : String} {shape : Shape} {p : Pattern}
    {modes : Pattern.Modes} (hshape : Shape.ofTokens? (tokens text.toList) = some shape)
    (hdepth : shape.anchored.depth ≤ Pattern.nestingLimit)
    (hmeaning : shape.anchored.meaning globModes = .ok (p, modes)) :
    Pattern.ofText? false (String.ofList (spelling (tokens text.toList))) =
      if p.size > Pattern.sizeLimit then .error .tooLarge else .ok p := by
  have hread : Expr.read (spelling (tokens text.toList)) = .ok shape.anchored := by
    rw [read_spelling, hshape]
    exact if_neg (Nat.not_lt.mpr hdepth)
  have hinitial : shape.anchored.meaning (.initial false) = .ok (p, modes) := hmeaning
  unfold Pattern.ofText? Pattern.ofExpr?
  rw [String.toList_ofList, hread]
  simp only [bind, Except.bind, hinitial]
  split <;> rfl

/-- What is not nested too deeply is refused for its size only. -/
theorem ofText?_of_shape {text : String} {shape : Shape} {p : Pattern} {modes : Pattern.Modes}
    (hshape : Shape.ofTokens? (tokens text.toList) = some shape)
    (hdepth : shape.anchored.depth ≤ Pattern.nestingLimit)
    (hmeaning : shape.anchored.meaning globModes = .ok (p, modes)) :
    (∃ refusal, ofText? text = .error refusal ∧ refusal.reason = .tooLarge) ∨
      ∃ g, ofText? text = .ok g ∧ shape.anchored.meaning globModes = .ok (g.pattern, modes) := by
  have hpattern := patternOfText?_of_shape hshape hdepth hmeaning
  by_cases hsize : p.size > Pattern.sizeLimit
  · rw [if_pos hsize] at hpattern
    refine .inl ⟨⟨text, .tooLarge⟩, ?_, rfl⟩
    simp only [ofText?, hpattern]
    rfl
  · rw [if_neg hsize] at hpattern
    exact .inr ⟨⟨p⟩, ofText?_eq_ok_iff.mpr hpattern, hmeaning⟩

/-- Behind a way down the parts match what they match at the start of a text. -/
theorem matches_wayDown_cons_iff {ps : List Pattern} (hany : ∀ p ∈ ps, p.Anywhere)
    {path : List Char} : (Pattern.sequence (wayDown :: ps)).Matches [] path [] ↔
      (Pattern.sequence ps).Matches [] path [] ∨ ∃ above below, path = above ++ '/' :: below ∧
      '\n' ∉ above ∧ (Pattern.sequence ps).Matches [] below [] := by
  have hplace := Anywhere.sequence hany
  rw [Pattern.matches_sequence_cons]
  constructor
  · rintro ⟨way, below, rfl, hway, hbelow⟩
    have hstart : (Pattern.sequence ps).Matches [] below [] := hplace _ _ _ hbelow _ _
    rcases matches_wayDown_iff.mp hway with rfl | ⟨above, rfl, habove⟩
    · exact .inl hstart
    · exact .inr ⟨above, below, List.append_assoc .., habove, hstart⟩
  · rintro (h | ⟨above, below, rfl, habove, h⟩)
    · exact ⟨[], path, rfl, matches_wayDown_iff.mpr (.inl rfl), h⟩
    · exact ⟨above ++ ['/'], below, List.append_cons ..,
        matches_wayDown_iff.mpr (.inr ⟨above, rfl, habove⟩), hplace _ _ _ h _ _⟩

/-- **A glob with two stars and a slash in front accepts what the glob accepts, where it is and
below any directory** whose path has no line feed, and nothing else. It is refused only if it has
become too large. -/
theorem accepts_at_any_depth {text : String} {g : Glob} (h : ofText? text = .ok g) :
    (∃ refusal, ofText? ("**/" ++ text) = .error refusal ∧ refusal.reason = .tooLarge) ∨
    ∃ g', ofText? ("**/" ++ text) = .ok g' ∧ ∀ path : String, g'.accepts path = true ↔
      g.accepts path = true ∨
        ∃ above below : String, path = above ++ "/" ++ below ∧ '\n' ∉ above.toList ∧
        g.accepts below = true := by
  obtain ⟨shape, hshape, hdepth, modes, hmeaning⟩ := exists_shape h
  obtain ⟨ps, hps, hany⟩ := (written_anywhere shape).1
  have hrel := parts_directories text.toList
  rw [hshape] at hrel
  generalize hshape' : Shape.ofTokens? (tokens ('*' :: '*' :: '/' :: text.toList)) = found at hrel
  cases hrel with
  | @some shape' _ hparts =>
    have hps' : HaveMeaning shape'.written.parts (wayDown :: ps) := by
      rw [hparts]
      exact .cons meaning_anyDirectories hps
    have htext : ("**/" ++ text).toList = '*' :: '*' :: '/' :: text.toList := by simp
    rcases ofText?_of_shape (htext ▸ hshape') (depth_anchored_le hparts hdepth)
      (meaning_anchored hps') with
      hrefused | ⟨g', hg', hmeaning'⟩
    · exact .inl hrefused
    · refine .inr ⟨g', hg', fun path => ?_⟩
      rw [accepts_iff_matches hmeaning' hps', matches_wayDown_cons_iff hany,
        ← accepts_iff_matches hmeaning hps]
      refine or_congr_right ?_
      constructor
      · rintro ⟨above, below, hpath, habove, hbelow⟩
        refine ⟨.ofList above, .ofList below, ?_, by simpa using habove, ?_⟩
        · rw [← String.toList_inj, hpath]
          simp
        · rw [accepts_iff_matches hmeaning hps, String.toList_ofList]
          exact hbelow
      · rintro ⟨above, below, rfl, habove, hbelow⟩
        exact ⟨above.toList,
          below.toList, by simp, habove, (accepts_iff_matches hmeaning hps).mp hbelow⟩

/-- Scripts of two kinds, two directories down. -/
theorem accepts_at_any_depth_scripts :
    ∃ g g', ofText? "*.{js,ts}" = .ok g ∧ ofText? "**/*.{js,ts}" = .ok g' ∧
    g.accepts "a\n.ts" = true ∧ g'.accepts "src/web/a\n.ts" = true := by
  have hg : (ofText? "*.{js,ts}").toOption.any (·.accepts "a\n.ts") = true := by decide +kernel
  have hsome : (ofText? ("**/" ++ "*.{js,ts}")).toOption.isSome = true := by decide +kernel
  cases h : ofText? "*.{js,ts}" with
  | error refusal =>
    rw [h] at hg
    cases hg
  | ok g =>
    rw [h] at hg
    rcases accepts_at_any_depth h with ⟨refusal, hrefused, -⟩ | ⟨g', hg', haccepts⟩
    · rw [hrefused] at hsome
      cases hsome
    · exact ⟨g, g', rfl, hg', hg, (haccepts _).mpr (.inr ⟨"src/web", "a\n.ts", rfl, by decide, hg⟩)⟩

/-- A directory whose name has a line feed hides what the longer glob should find in it. -/
theorem line_feed_hides_directory :
    ∃ g g', ofText? "Podfile" = .ok g ∧ ofText? "**/Podfile" = .ok g' ∧ g.accepts "Podfile" = true ∧
      g'.accepts "Podfile" = true ∧ g'.accepts ("a\nb" ++ "/" ++ "Podfile") = false := by
  have hg : (ofText? "Podfile").toOption.any (·.accepts "Podfile") = true := by decide +kernel
  have hg' : (ofText? "**/Podfile").toOption.any
      (fun g' => g'.accepts "Podfile" && !g'.accepts ("a\nb" ++ "/" ++ "Podfile")) = true := by
    decide +kernel
  cases h : ofText? "Podfile" with
  | error refusal =>
    rw [h] at hg
    cases hg
  | ok g =>
    cases h' : ofText? "**/Podfile" with
    | error refusal =>
      rw [h'] at hg'
      cases hg'
    | ok g' =>
      rw [h] at hg
      rw [h'] at hg'
      obtain ⟨htop, hbelow⟩ := Bool.and_eq_true_iff.mp hg'
      exact ⟨g, g', rfl, rfl, hg, htop, by simpa using hbelow⟩

end Glob

end PrivacyAudit
