import PrivacyAudit.Glob.Shape
import PrivacyAudit.Pattern.Reader
import Mathlib.Data.List.Basic

/-!
# Reading the spelling of a glob

A glob is spelt as a regular expression, token by token. Read back, the spelling gives the tree of
the glob and nothing else (`read_spelling`): a character that stands for itself is read as that
character whatever it means in regular expressions, and the anchors stand around everything, not in
an alternative.

A text is gone along by the items of its sequences, its braces and the commas inside them
(`tokensFrom_induction`). The reader's state follows the state in which the tokens are put together
(`stateOf`); the two are compared token by token (`readsAs_tokensFrom`).
-/

namespace PrivacyAudit

namespace Pattern

/-! ## 1. Reading the parts of a spelling -/

/-- The state of a reader that has met neither flags nor groups with a number. -/
def plainState (level : Level) (openGroups : List OpenGroup) : ReadState :=
  ⟨false, 0, [], level, openGroups⟩

/-- The class of the characters other than the slash. -/
def segmentChar : Expr := .bracketed true (.literal '/' false)

/-- What is read at the start of a way down: nothing, or anything that ends with a slash. -/
def anyDirectories : Expr :=
  .repeated (.group none .empty (.sequence [.repeated .dot 0 none true, .literal '/' false])) 0
    (some 1) true

variable {level : Level} {openGroups : List OpenGroup} {rest : Rest} {fuel : Nat}

theorem readTokens_cons {level' : Level} {openGroups' : List OpenGroup} {c : Char} {rest' : Rest}
    (h : readToken (plainState level openGroups) (c :: rest) =
      .ok (plainState level' openGroups', rest')) :
    readTokens (fuel + 1) (plainState level openGroups) (c :: rest) =
      readTokens fuel (plainState level' openGroups') rest' := by
  rw [readTokens]
  simp only [skip, plainState, Bool.false_eq_true, if_false]
  simp only [plainState] at h
  rw [h]

theorem readToken_plain {c : Char} (hc : isMeta c = false) :
    readToken (plainState level openGroups) (c :: rest) =
      .ok (plainState (level.push (.literal c false)) openGroups, rest) := by
  have hread : readPrimitive false (c :: rest) = .ok (.literal c false, rest) := by
    unfold readPrimitive
    split
    all_goals try (next heq => obtain ⟨rfl, -⟩ := List.cons.inj heq; exact absurd hc (by decide))
    · next heq => cases heq
    · next heq => obtain ⟨rfl, rfl⟩ := List.cons.inj heq; rfl
  unfold readToken
  split
  all_goals try (next heq => obtain ⟨rfl, -⟩ := List.cons.inj heq; exact absurd hc (by decide))
  · next heq => cases heq
  · rw [show (plainState level openGroups).verbose = false from rfl, hread]
    rfl

theorem readToken_escaped {c : Char} (hc : isMeta c = true) :
    readToken (plainState level openGroups) ('\\' :: c :: rest) =
      .ok (plainState (level.push (.literal c false)) openGroups, rest) := by
  have hdigit : c.isDigit = false := by
    have hall : "\\.+*?()|[]\x7b\x7d^$#&-~".toList.all (fun c => !c.isDigit) = true := by decide
    have hmem : c ∈ "\\.+*?()|[]\x7b\x7d^$#&-~".toList := List.contains_iff_mem.mp hc
    simpa using List.all_eq_true.mp hall c hmem
  have hescape : isPlainEscape c = true := by simp [isPlainEscape, hc]
  have hread : readEscape false (c :: rest) = .ok (.literal c false, rest) :=
    (if_neg (by simp [hdigit])).trans (if_pos hescape)
  show (readEscape false (c :: rest)).bind
    (fun read => .ok (plainState (level.push read.1) openGroups, read.2)) = _
  rw [hread]
  rfl

theorem readToken_class :
    readToken (plainState level openGroups) ('[' :: '^' :: '/' :: ']' :: rest) =
      .ok (plainState (level.push segmentChar) openGroups, rest) := rfl

theorem readToken_dot :
    readToken (plainState level openGroups) ('.' :: rest) =
      .ok (plainState (level.push .dot) openGroups, rest) := rfl

theorem readToken_separator :
    readToken (plainState level openGroups) ('|' :: rest) =
      .ok (plainState ⟨level.current :: level.choices, []⟩ openGroups, rest) := rfl

theorem readToken_opening :
    readToken (plainState level openGroups) ('(' :: '?' :: ':' :: rest) =
      .ok (plainState ⟨[], []⟩ (⟨level, none, .empty, false⟩ :: openGroups), rest) := rfl

theorem readToken_closing {around : Level} :
    readToken (plainState level (⟨around, none, .empty, false⟩ :: openGroups)) (')' :: rest) =
      .ok (plainState (around.push (.group none .empty level.close)) openGroups, rest) := rfl

/-- A sign that repeats the part before it, where no question mark follows. -/
theorem readUncounted_push (level : Level) (openGroups : List OpenGroup) (part : Expr)
    (hpop : (level.push part).popPart = .ok (part, level)) (hrest : rest.head? ≠ some '?')
    (least : Nat) (most : Option Nat) :
    readUncounted (plainState (level.push part) openGroups) least most rest =
      .ok (plainState (level.push (.repeated part least most true)) openGroups, rest) := by
  have hgreedy : readReluctance rest = (true, rest) := by
    unfold readReluctance
    split
    · simp at hrest
    · rfl
  show (level.push part).popPart.bind (fun popped => .ok (plainState (popped.2.push
    (.repeated popped.1 least most (readReluctance rest).1)) openGroups,
      (readReluctance rest).2)) = _
  rw [hpop, hgreedy]
  rfl

theorem readTokens_segmentChar :
    readTokens (fuel + 1) (plainState level openGroups) ("[^/]".toList ++ rest) =
      readTokens fuel (plainState (level.push segmentChar) openGroups) rest :=
  readTokens_cons readToken_class

theorem readTokens_segmentChars (hrest : rest.head? ≠ some '?') :
    readTokens (fuel + 2) (plainState level openGroups) ("[^/]*".toList ++ rest) =
      readTokens fuel (plainState (level.push (.repeated segmentChar 0 none true)) openGroups)
        rest := by
  have hstar := readUncounted_push level openGroups segmentChar rfl hrest 0 none
  exact (readTokens_cons readToken_class).trans (readTokens_cons hstar)

theorem readTokens_dots (hrest : rest.head? ≠ some '?') :
    readTokens (fuel + 2) (plainState level openGroups) (".*".toList ++ rest) =
      readTokens fuel (plainState (level.push (.repeated .dot 0 none true)) openGroups) rest := by
  have hstar := readUncounted_push level openGroups .dot rfl hrest 0 none
  exact (readTokens_cons readToken_dot).trans (readTokens_cons hstar)

theorem readTokens_anyDirectories (hrest : rest.head? ≠ some '?') :
    readTokens (fuel + 6) (plainState level openGroups) ("(?:.*/)?".toList ++ rest) =
      readTokens fuel (plainState (level.push anyDirectories) openGroups) rest := by
  have hslash : isMeta '/' = false := by decide
  have hmark := readUncounted_push level openGroups
    (.group none .empty (.sequence [.repeated .dot 0 none true, .literal '/' false])) rfl hrest 0
      (some 1)
  calc readTokens (fuel + 6) (plainState level openGroups) ("(?:.*/)?".toList ++ rest)
      = readTokens (fuel + 5) _ (".*".toList ++ ("/)?".toList ++ rest)) :=
      readTokens_cons readToken_opening
    _ = readTokens (fuel + 3) _ ("/)?".toList ++ rest) := readTokens_dots (by simp)
    _ = readTokens (fuel + 2) _ (")?".toList ++ rest) := readTokens_cons (readToken_plain hslash)
    _ = readTokens (fuel + 1) _ ("?".toList ++ rest) := readTokens_cons readToken_closing
    _ = readTokens fuel _ rest := readTokens_cons hmark

theorem readTokens_literal (c : Char) :
    readTokens (fuel + 1) (plainState level openGroups) (escaped c ++ rest) =
      readTokens fuel (plainState (level.push (.literal c false)) openGroups) rest := by
  rw [escaped]
  split
  · next hc => exact readTokens_cons (readToken_escaped hc)
  · next hc => exact readTokens_cons (readToken_plain (by simpa using hc))

theorem head?_escaped (c : Char) (rest : List Char) : (escaped c ++ rest).head? ≠ some '?' := by
  rw [escaped]
  by_cases hc : isMeta c = true
  · rw [if_pos hc]
    simp
  · have hmark : isMeta '?' = true := by decide
    rw [if_neg hc]
    intro h
    have hc' : c = '?' := by simpa using h
    exact hc (hc' ▸ hmark)

end Pattern

namespace Glob

open Pattern (Expr Level OpenGroup ReadState plainState segmentChar anyDirectories readTokens)

/-! ## 2. The written pattern of a shape -/

/-- One alternative by itself, or a choice among several. -/
def choiceOf : List Expr → Expr
  | [only] => only
  | several => .choice several

theorem close_eq_choiceOf (level : Level) :
    level.close = choiceOf (level.current :: level.choices).reverse := by
  unfold Level.close
  split
  · next h => rw [h]; rfl
  · next h =>
    obtain ⟨first, rest, hchoices⟩ := List.exists_cons_of_ne_nil h
    rw [hchoices]
    unfold choiceOf
    split
    · next heq =>
      have hlength := congrArg List.length heq
      simp at hlength
    · rfl

/-- What a shape is written as: the parts of a sequence, or alternatives. -/
structure Written where
  parts : List Expr
  choices : List Expr

/-- A sequence of parts, the only alternative. -/
def Written.sequence (parts : List Expr) : Written := ⟨parts, [.ofParts parts]⟩

namespace Shape

/-- What the shape is written as. -/
def written : Shape → Written
  | .nothing => .sequence []
  | .literal c => .sequence [.literal c false]
  | .oneInSegment => .sequence [segmentChar]
  | .withinSegment => .sequence [.repeated segmentChar 0 none true]
  | .anything => .sequence [.repeated .dot 0 none true]
  | .directories => .sequence [anyDirectories]
  | .both a b => .sequence (a.written.parts ++ b.written.parts)
  | .either a b =>
    let alternatives := a.written.choices ++ [.ofParts b.written.parts]
    ⟨[.choice alternatives], alternatives⟩
  | .braces a => .sequence [.group none .empty (choiceOf a.written.choices)]

/-- The written pattern of a whole glob, between its anchors. -/
def anchored (shape : Shape) : Expr :=
  .sequence (.anchor .lineStart :: shape.written.parts ++ [.anchor .lineEnd])

theorem parts_andThen (a b : Shape) :
    (a.andThen b).written.parts = a.written.parts ++ b.written.parts := by
  cases a <;> rfl

theorem isEither_andThen {a b : Shape} (h : b.isEither = false) :
    (a.andThen b).isEither = false := by
  cases a <;> first | exact h | rfl

theorem choices_of_not_either {shape : Shape} (h : shape.isEither = false) :
    shape.written.choices = [.ofParts shape.written.parts] := by
  cases shape <;> first | rfl | cases h

/-- The alternatives before the sequence being read. -/
def choicesBefore (before : Option Shape) : List Expr := before.elim [] fun b => b.written.choices

theorem choices_orElse {before : Option Shape} {current : Shape} (h : current.isEither = false) :
    (orElse before current).written.choices =
      choicesBefore before ++ [.ofParts current.written.parts] := by
  cases before with
  | none => exact choices_of_not_either h
  | some b => rfl

end Shape

/-! ## 3. The tokens of a text -/

/-- The tree of a token that stands for an item of a sequence: all but braces and the commas inside
them. -/
def Token.shape? : Token → Option Shape
  | .literal c => some (.literal c)
  | .oneInSegment => some .oneInSegment
  | .withinSegment => some .withinSegment
  | .anything => some .anything
  | .directories => some .directories
  | .opening | .separator | .closing => none

theorem Shape.ofTokensFrom_cons {t : Token} {s : Shape} (h : t.shape? = some s) (current : Shape)
    (before : Option Shape) (outside : Outside) (ts : List Token) :
    ofTokensFrom current before outside (t :: ts) =
      ofTokensFrom (current.andThen s) before outside ts := by
  cases t <;> cases h <;> rfl

theorem Token.isEither_of_shape? {t : Token} {s : Shape} (h : t.shape? = some s) :
    s.isEither = false := by
  cases t <;> cases h <;> rfl

theorem tokensFrom_closing (depth : Nat) (rest : List Char) :
    tokensFrom (depth + 1) ('}' :: rest) = .closing :: tokensFrom depth rest := by
  rw [tokensFrom, if_neg (Nat.succ_ne_zero depth), Nat.add_sub_cancel]

theorem tokensFrom_separator (depth : Nat) (rest : List Char) :
    tokensFrom (depth + 1) (',' :: rest) = .separator :: tokensFrom (depth + 1) rest := by
  rw [tokensFrom, if_neg (Nat.succ_ne_zero depth)]

/-- What holds of the empty text, and is passed on by an item, by an opening brace, and inside of
braces by a closing brace and a comma, holds of every text. -/
@[elab_as_elim]
theorem tokensFrom_induction {motive : (depth : Nat) → (text : List Char) → Prop}
    (nil : ∀ depth, motive depth [])
    (item : ∀ depth written rest t s, Token.shape? t = some s →
      (∀ c ∈ written, c ≠ '{' ∧ (c = '}' → depth = 0)) →
      tokensFrom depth (written ++ rest) = t :: tokensFrom depth rest → motive depth rest →
      motive depth (written ++ rest))
    (opening : ∀ depth rest, motive (depth + 1) rest → motive depth ('{' :: rest))
    (closing : ∀ depth rest, motive depth rest → motive (depth + 1) ('}' :: rest))
    (separator : ∀ depth rest, motive (depth + 1) rest → motive (depth + 1) (',' :: rest))
    (depth : Nat) (text : List Char) : motive depth text := by
  induction depth, text using tokensFrom.induct with
  | case1 depth => exact nil depth
  | case2 depth rest ih => exact item depth ['*', '*', '/'] rest .directories _ rfl (by simp) rfl ih
  | case3 depth rest hslash ih =>
    refine item depth ['*', '*'] rest .anything _ rfl (by simp) ?_ ih
    rw [List.cons_append, List.cons_append, List.nil_append, tokensFrom]
    exact hslash
  | case4 depth rest hslash hstar ih =>
    refine item depth ['*'] rest .withinSegment _ rfl (by simp) ?_ ih
    rw [List.singleton_append, tokensFrom]
    all_goals assumption
  | case5 depth rest ih => exact item depth ['?'] rest .oneInSegment _ rfl (by simp) rfl ih
  | case6 depth rest ih => exact opening depth rest ih
  | case7 rest ih => exact item 0 ['}'] rest (.literal '}') _ rfl (by simp) rfl ih
  | case8 depth rest hpos ih =>
    obtain ⟨depth, rfl⟩ := Nat.exists_eq_succ_of_ne_zero hpos
    exact closing depth rest ih
  | case9 depth rest ih =>
    cases depth with
    | zero => exact item 0 [','] rest (.literal ',') _ rfl (by simp) rfl ih
    | succ depth => exact separator depth rest ih
  | case10 depth c rest hdirectories hanything hstar hone hopen hclose hcomma ih =>
    refine item depth [c] rest (.literal c) _ rfl ?_ ?_ ih
    · simpa using ⟨hopen, fun h => absurd h hclose⟩
    · rw [List.singleton_append, tokensFrom]
      all_goals assumption

/-! ## 4. The reader beside the tokens -/

open Shape (Outside ofTokensFrom orElse choicesBefore)

/-- The parts in front of a sequence: outside all braces, the first anchor. -/
def leadOf (outside : Outside) : List Expr := if outside.isEmpty then [.anchor .lineStart] else []

/-- The level of the reader at a sequence and the alternatives before it. -/
def levelOf (outside : Outside) (current : Shape) (before : Option Shape) : Level :=
  ⟨(choicesBefore before).reverse, (leadOf outside ++ current.written.parts).reverse⟩

/-- The groups of the reader that are open inside braces. -/
def groupsOf : Outside → List OpenGroup
  | [] => []
  | (current, before) :: outside => ⟨levelOf outside current before, none, .empty, false⟩ ::
      groupsOf outside

/-- The state of the reader where tokens are put together. -/
def stateOf (current : Shape) (before : Option Shape) (outside : Outside) : ReadState :=
  plainState (levelOf outside current before) (groupsOf outside)

theorem levelOf_push {outside : Outside} {current : Shape} {before : Option Shape} {part : Expr}
    (item : Shape) (h : item.written.parts = [part]) :
    (levelOf outside current before).push part = levelOf outside (current.andThen item) before := by
  rw [levelOf, levelOf, Level.push, Shape.parts_andThen, h, ← List.append_assoc,
    List.reverse_concat]

/-- The spelling of tokens up to the end of a glob. -/
def spelledOut (ts : List Token) : List Char := ts.flatMap Token.spelling ++ ['$']

theorem spelledOut_cons (t : Token) (ts : List Token) :
    spelledOut (t :: ts) = t.spelling ++ spelledOut ts := by
  rw [spelledOut, List.flatMap_cons, List.append_assoc]
  rfl

/-- No spelling begins with a question mark, which would change the repetition in front of it. -/
theorem head?_spelledOut (ts : List Token) : (spelledOut ts).head? ≠ some '?' := by
  cases ts with
  | nil => decide
  | cons t ts =>
    rw [spelledOut_cons]
    cases t with
    | literal c => exact Pattern.head?_escaped c _
    | oneInSegment | withinSegment | anything | directories | opening | separator | closing =>
      exact fun h => absurd (Option.some.inj h) (by decide)

/-- The outcome of reading the spelling of tokens that form a shape, or none. -/
def outcome : Option Shape → Except Pattern.Fault Expr
  | some shape => .ok shape.anchored
  | none => .error .groupUnclosed

/-- Reading the spelling of the tokens leads where putting the tokens together leads. -/
def ReadsAs (current : Shape) (before : Option Shape) (outside : Outside)
    (ts : List Token) : Prop :=
  ∀ fuel, (spelledOut ts).length < fuel →
    readTokens fuel (stateOf current before outside) (spelledOut ts) =
      outcome (ofTokensFrom current before outside ts)

/-- A token that is read in `steps` steps leads on if the reader's state behind it is the tokens'
state. -/
theorem readsAs_cons {current current' : Shape} {before before' : Option Shape}
    {outside outside' : Outside} {t : Token} {ts : List Token} (steps : Nat)
    (hsteps : steps ≤ t.spelling.length)
    (hread : ∀ fuel,
      readTokens (fuel + steps) (stateOf current before outside) (t.spelling ++ spelledOut ts) =
        readTokens fuel (stateOf current' before' outside') (spelledOut ts))
    (hof : ofTokensFrom current before outside (t :: ts) =
      ofTokensFrom current' before' outside' ts)
    (h : ReadsAs current' before' outside' ts) : ReadsAs current before outside (t :: ts) := by
  intro fuel hfuel
  rw [spelledOut_cons, List.length_append] at hfuel
  obtain ⟨fuel, rfl⟩ : ∃ fuel', fuel = fuel' + steps := ⟨fuel - steps, by omega⟩
  rw [spelledOut_cons, hread, hof]
  exact h fuel (by omega)

/-- A token that stands for an item of a sequence. -/
theorem readsAs_item {current : Shape} {before : Option Shape} {outside : Outside} {t : Token}
    {ts : List Token} (item : Shape) (part : Expr) (steps : Nat)
    (hsteps : steps ≤ t.spelling.length)
    (hread : ∀ fuel level groups,
      readTokens (fuel + steps) (plainState level groups) (t.spelling ++ spelledOut ts) =
        readTokens fuel (plainState (level.push part) groups) (spelledOut ts))
    (hpart : item.written.parts = [part])
    (hof : ofTokensFrom current before outside (t :: ts) =
      ofTokensFrom (current.andThen item) before outside ts)
    (h : ReadsAs (current.andThen item) before outside ts) :
    ReadsAs current before outside (t :: ts) := by
  refine readsAs_cons steps hsteps (fun fuel => ?_) hof h
  rw [stateOf, hread, levelOf_push item hpart]
  rfl

/-- An item is read as its tree. -/
theorem readsAs_of_shape? {t : Token} {s : Shape} (hs : t.shape? = some s) {current : Shape}
    {before : Option Shape} {outside : Outside} {ts : List Token}
    (h : ReadsAs (current.andThen s) before outside ts) :
    ReadsAs current before outside (t :: ts) := by
  have hof := Shape.ofTokensFrom_cons hs current before outside ts
  cases t with
  | opening | separator | closing => cases hs
  | literal c =>
    obtain rfl := Option.some.inj hs
    have hlength : 1 ≤ (Pattern.escaped c).length := by
      rw [Pattern.escaped]
      split <;> simp
    exact readsAs_item (.literal c) (.literal c false) 1 hlength (fun _ _ _ =>
      Pattern.readTokens_literal c) rfl hof h
  | oneInSegment =>
    obtain rfl := Option.some.inj hs
    exact readsAs_item .oneInSegment segmentChar 1
      (by decide) (fun _ _ _ => Pattern.readTokens_segmentChar) rfl hof h
  | withinSegment =>
    obtain rfl := Option.some.inj hs
    exact readsAs_item .withinSegment (.repeated segmentChar 0 none true) 2 (by decide)
      (fun _ _ _ => Pattern.readTokens_segmentChars (head?_spelledOut _)) rfl hof h
  | anything =>
    obtain rfl := Option.some.inj hs
    exact readsAs_item .anything (.repeated .dot 0 none true) 2 (by decide)
      (fun _ _ _ => Pattern.readTokens_dots (head?_spelledOut _)) rfl hof h
  | directories =>
    obtain rfl := Option.some.inj hs
    exact readsAs_item .directories anyDirectories 6 (by decide)
      (fun _ _ _ => Pattern.readTokens_anyDirectories (head?_spelledOut _)) rfl hof h

/-- Outside all braces there are no alternatives. -/
def NoneOutside (before : Option Shape) : Outside → Prop
  | [] => before = none
  | (_, around) :: outside => NoneOutside around outside

/-- The end of the spelling ends the reading: well if no brace is open. -/
theorem readsAs_nil {current : Shape} {before : Option Shape} {outside : Outside}
    (hbefore : NoneOutside before outside) : ReadsAs current before outside [] := by
  intro fuel hfuel
  obtain ⟨fuel, rfl⟩ : ∃ fuel', fuel = fuel' + 2 := ⟨fuel - 2, by simp [spelledOut] at hfuel; omega⟩
  have hend : readTokens (fuel + 2) (stateOf current before outside) (spelledOut []) =
      (plainState ((levelOf outside current before).push (.anchor .lineEnd))
        (groupsOf outside)).finish := rfl
  rw [hend]
  cases outside with
  | nil =>
    obtain rfl : before = none := hbefore
    have hparts : ((levelOf [] current none).push (.anchor .lineEnd)).parts.reverse =
        .anchor .lineStart :: (current.written.parts ++ [.anchor .lineEnd]) := by
      simp [levelOf, Level.push, leadOf]
    show Except.ok
      (Expr.ofParts ((levelOf [] current none).push (.anchor .lineEnd)).parts.reverse) = _
    rw [hparts]
    show _ = Except.ok current.anchored
    rw [Shape.anchored]
    cases current.written.parts <;> rfl
  | cons around outside => rfl

theorem current_levelOf {around : Shape × Option Shape} {outside : Outside} {current : Shape}
    {before : Option Shape} :
    (levelOf (around :: outside) current before).current = .ofParts current.written.parts := by
  simp [levelOf, Level.current, leadOf]

theorem close_levelOf {around : Shape × Option Shape} {outside : Outside} {current : Shape}
    {before : Option Shape} (hcurrent : current.isEither = false) :
    (levelOf (around :: outside) current before).close =
      choiceOf (orElse before current).written.choices := by
  rw [close_eq_choiceOf, current_levelOf, Shape.choices_orElse hcurrent]
  simp [levelOf]

theorem readsAs_closing {current sequence : Shape} {before alternatives : Option Shape}
    {outside : Outside} {ts : List Token} (hcurrent : current.isEither = false)
    (h : ReadsAs (sequence.andThen (.braces (orElse before current))) alternatives outside ts) :
    ReadsAs current before ((sequence, alternatives) :: outside) (.closing :: ts) := by
  refine readsAs_cons 1 (Nat.le_refl 1) (fun fuel => ?_) rfl h
  refine (Pattern.readTokens_cons Pattern.readToken_closing).trans ?_
  rw [close_levelOf hcurrent, levelOf_push (.braces (orElse before current)) rfl]
  rfl

theorem readsAs_separator {current : Shape} {before : Option Shape} {around : Shape × Option Shape}
    {outside : Outside} {ts : List Token} (hcurrent : current.isEither = false)
    (h : ReadsAs .nothing (some (orElse before current)) (around :: outside) ts) :
    ReadsAs current before (around :: outside) (.separator :: ts) := by
  refine readsAs_cons 1 (Nat.le_refl 1) (fun fuel => ?_) rfl h
  refine (Pattern.readTokens_cons Pattern.readToken_separator).trans ?_
  have hlevel : levelOf (around :: outside) .nothing (some (orElse before current)) =
      ⟨(levelOf (around :: outside) current before).current ::
        (levelOf (around :: outside) current before).choices, []⟩ := by
    rw [current_levelOf, levelOf, choicesBefore, Option.elim_some, Shape.choices_orElse hcurrent,
      List.reverse_concat]
    rfl
  rw [stateOf, hlevel]
  rfl

/-- The reader goes along the spelling of a glob as the tokens are put together. By induction on the
text of the glob, as its tokens are read from it. -/
theorem readsAs_tokensFrom {depth : Nat} {text : List Char} {current : Shape}
    {before : Option Shape} {outside : Outside} (hdepth : depth = outside.length)
    (hcurrent : current.isEither = false) (hbefore : NoneOutside before outside) :
    ReadsAs current before outside (tokensFrom depth text) := by
  induction depth, text using tokensFrom_induction generalizing current before outside with
  | nil depth => exact readsAs_nil hbefore
  | item depth written rest t s hs _ htokens ih =>
    rw [htokens]
    exact readsAs_of_shape? hs
      (ih hdepth (Shape.isEither_andThen (Token.isEither_of_shape? hs)) hbefore)
  | opening depth rest ih =>
    have hinside :
        ReadsAs .nothing none ((current, before) :: outside) (tokensFrom (depth + 1) rest) :=
      ih (congrArg (· + 1) hdepth) rfl hbefore
    refine readsAs_cons 1 (by decide) (fun fuel => ?_) rfl hinside
    exact Pattern.readTokens_cons Pattern.readToken_opening
  | closing depth rest ih =>
    cases outside with
    | nil => cases hdepth
    | cons around outside =>
      rw [tokensFrom_closing]
      exact readsAs_closing hcurrent (ih (Nat.succ.inj hdepth) (Shape.isEither_andThen rfl) hbefore)
  | separator depth rest ih =>
    cases outside with
    | nil => cases hdepth
    | cons around outside =>
      rw [tokensFrom_separator]
      exact readsAs_separator hcurrent (ih hdepth rfl hbefore)

/-- The tokens of the spelling are read as the tree of the glob between the two anchors, unless a
brace has no partner. -/
theorem readTokens_spelling (text : List Char) :
    readTokens ((spelling (tokens text)).length + 1) .start (spelling (tokens text)) =
      outcome (Shape.ofTokens? (tokens text)) := by
  have hreads : ReadsAs .nothing none [] (tokensFrom 0 text) := readsAs_tokensFrom rfl rfl rfl
  have hread := hreads ((spelling (tokens text)).length) (by simp [spelledOut, spelling, tokens])
  exact (@Pattern.readTokens_cons ⟨[], []⟩ [] _ _ _ _ _ _ rfl).trans hread

/-- Read as a regular expression, the spelling of a glob is the tree of the glob between the two
anchors; it is refused if a brace has no partner, or if the tree is nested too deeply. -/
theorem read_spelling (text : List Char) :
    Expr.read (spelling (tokens text)) =
      match Shape.ofTokens? (tokens text) with
      | some shape => if shape.anchored.depth > Pattern.nestingLimit then .error .nestingTooDeep
        else .ok shape.anchored
      | none => .error .groupUnclosed := by
  rw [Expr.read, readTokens_spelling]
  cases Shape.ofTokens? (tokens text) with
  | none => rfl
  | some shape =>
    simp only [outcome, bind, Except.bind, pure, Except.pure]
    split <;> rfl

end Glob

end PrivacyAudit
