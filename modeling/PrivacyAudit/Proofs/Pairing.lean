import PrivacyAudit.Proofs.AnyDepth
import PrivacyAudit.Proofs.Refusing

/-!
# Which globs are accepted

A glob is spelled as a regular expression, and it is left to the reader of these to refuse the
spelling. What it refuses can be said of the glob's own text: a brace without a partner (`Paired`).
All other characters, and those of regular expressions among them, are spelled so that they stand
for themselves, and an empty part is none to the reader. So up to the limits on nesting and on size,
a glob is accepted exactly if each of its braces has a partner (`acceptance`).

Partners are found by going along the text and counting the open braces (`openBehind`): each brace
has its partner if none is open in the end (`paired_iff`).
-/

namespace PrivacyAudit

namespace Glob

/-! ## 1. The braces of a text -/

/-- If `opened` braces and one in front of them are open before the text, it has the partner of that
one: a closing brace in front of which `opened` braces more are closed than opened. -/
def Closes (opened : Nat) (text : List Char) : Prop :=
  ∃ inside rest, text = inside ++ '}' :: rest ∧ inside.count '{' + opened = inside.count '}'

/-- Each opening brace of the text has a partner: a closing brace behind it, with as many opening as
closing braces in between. A closing brace needs none. -/
def Paired (text : List Char) : Prop := ∀ before after, text = before ++ '{' :: after →
  Closes 0 after

/-- The number of braces that are open behind a text if `opened` are open in front of it. -/
def openBehind : (opened : Nat) → (text : List Char) → Nat
  | opened, [] => opened
  | opened, c :: rest =>
    openBehind (if c = '{' then opened + 1 else if c = '}' then opened - 1 else opened) rest

section Braces

variable {opened : Nat} {c : Char} {text rest : List Char}

theorem openBehind_opening : openBehind opened ('{' :: rest) = openBehind (opened + 1) rest := rfl

theorem openBehind_closing : openBehind opened ('}' :: rest) = openBehind (opened - 1) rest := rfl

theorem openBehind_other (hopen : c ≠ '{') (hclose : c ≠ '}') :
    openBehind opened (c :: rest) = openBehind opened rest := by
  rw [openBehind, if_neg hopen, if_neg hclose]

/-- An item has neither an opening brace nor a closing one that has a partner. -/
theorem openBehind_item {written : List Char}
    (h : ∀ c ∈ written, c ≠ '{' ∧ (c = '}' → opened = 0)) :
    openBehind opened (written ++ rest) = openBehind opened rest := by
  induction written with
  | nil => rfl
  | cons c written ih =>
    rw [List.forall_mem_cons] at h
    obtain ⟨⟨hopen, hclose⟩, hwritten⟩ := h
    rw [List.cons_append, openBehind, if_neg hopen, ← ih hwritten]
    split
    · next heq => rw [hclose heq]
    · rfl

theorem openBehind_append (opened : Nat) (first second : List Char) :
    openBehind opened (first ++ second) = openBehind (openBehind opened first) second := by
  induction first generalizing opened with
  | nil => rfl
  | cons c first ih => exact ih _

theorem openBehind_mono {fewer : Nat} (h : fewer ≤ opened) (text : List Char) :
    openBehind fewer text ≤ openBehind opened text := by
  induction text generalizing fewer opened with
  | nil => exact h
  | cons c rest ih =>
    refine ih ?_
    split_ifs <;> omega

theorem not_closes_nil : ¬ Closes opened [] := by
  intro h
  obtain ⟨inside, rest, htext, -⟩ := h
  simp at htext

theorem closes_cons_iff : Closes opened (c :: rest) ↔
    c = '}' ∧ opened = 0 ∨ ∃ inside rest', rest = inside ++ '}' :: rest' ∧
      (c :: inside).count '{' + opened = (c :: inside).count '}' := by
  constructor
  · intro h
    obtain ⟨inside, rest', htext, hcount⟩ := h
    cases inside with
    | nil =>
      obtain ⟨rfl, rfl⟩ := List.cons.inj htext
      exact .inl ⟨rfl, by simpa using hcount⟩
    | cons d inside =>
      obtain ⟨rfl, rfl⟩ := List.cons.inj htext
      exact .inr ⟨inside, rest', rfl, hcount⟩
  · intro h
    rcases h with ⟨rfl, rfl⟩ | ⟨inside, rest', rfl, hcount⟩
    · exact ⟨[], rest, rfl, rfl⟩
    · exact ⟨c :: inside, rest', rfl, hcount⟩

theorem closes_opening : Closes opened ('{' :: rest) ↔ Closes (opened + 1) rest := by
  rw [closes_cons_iff, Closes]
  simp [Nat.add_assoc, Nat.add_comm 1]

theorem closes_closing : Closes opened ('}' :: rest) ↔ opened = 0 ∨ Closes (opened - 1) rest := by
  cases opened with
  | zero => simp [closes_cons_iff]
  | succ opened =>
    rw [closes_cons_iff, Closes]
    simp [← Nat.add_assoc]

theorem closes_other (hopen : c ≠ '{') (hclose : c ≠ '}') :
    Closes opened (c :: rest) ↔ Closes opened rest := by
  rw [closes_cons_iff, Closes]
  simp [hopen, hclose]

/-- A text that does not close a brace leaves it open. -/
theorem closes_of_openBehind (h : openBehind (opened + 1) text = 0) : Closes opened text := by
  induction text generalizing opened with
  | nil => cases h
  | cons c rest ih =>
    by_cases hopen : c = '{'
    · subst hopen
      exact closes_opening.mpr (ih h)
    by_cases hclose : c = '}'
    · subst hclose
      rw [closes_closing]
      cases opened with
      | zero => exact .inl rfl
      | succ opened => exact .inr (ih h)
    · rw [openBehind_other hopen hclose] at h
      exact (closes_other hopen hclose).mpr (ih h)

/-- Behind the brace that a text closes it goes on as if it began there. -/
theorem Closes.exists_suffix (h : Closes opened text) :
    ∃ rest, rest <:+ text ∧ openBehind (opened + 1) text = openBehind 0 rest := by
  induction text generalizing opened with
  | nil => exact absurd h not_closes_nil
  | cons c rest ih =>
    have hmore {opened' : Nat} (hstep : openBehind (opened + 1) (c :: rest) =
        openBehind (opened' + 1) rest)
        (h' : Closes opened' rest) :
        ∃ rest', rest' <:+ c :: rest ∧
        openBehind (opened + 1) (c :: rest) = openBehind 0 rest' := by
      obtain ⟨rest', hsuffix, hrest'⟩ := ih h'
      exact ⟨rest', hsuffix.trans (List.suffix_cons c rest), hstep.trans hrest'⟩
    by_cases hopen : c = '{'
    · subst hopen
      exact hmore openBehind_opening (closes_opening.mp h)
    by_cases hclose : c = '}'
    · subst hclose
      rcases closes_closing.mp h with rfl | h
      · exact ⟨rest, List.suffix_cons _ rest, rfl⟩
      · cases opened with
        | zero => exact ⟨rest, List.suffix_cons _ rest, rfl⟩
        | succ opened => exact hmore openBehind_closing h
    · exact hmore (openBehind_other hopen hclose) ((closes_other hopen hclose).mp h)

theorem Paired.of_suffix (h : Paired text) (hsuffix : rest <:+ text) : Paired rest := by
  obtain ⟨front, rfl⟩ := hsuffix
  intro before after hrest
  exact h (front ++ before) after (by rw [hrest, List.append_assoc])

/-- **Each brace has its partner if none is open in the end.** -/
theorem paired_iff (text : List Char) : Paired text ↔ openBehind 0 text = 0 := by
  constructor
  · intro h
    induction hlength : text.length using Nat.strongRecOn generalizing text with
    | ind n ih =>
      subst hlength
      cases text with
      | nil => rfl
      | cons c rest =>
        have hrest :=
          ih rest.length (Nat.lt_succ_self _) rest (h.of_suffix (List.suffix_cons c rest)) rfl
        by_cases hopen : c = '{'
        · subst hopen
          obtain ⟨behind, hsuffix, hbehind⟩ := (h [] rest rfl).exists_suffix
          rw [openBehind_opening, hbehind]
          exact ih behind.length (Nat.lt_succ_of_le hsuffix.length_le) behind
            (h.of_suffix (hsuffix.trans (List.suffix_cons _ rest))) rfl
        by_cases hclose : c = '}'
        · subst hclose
          exact hrest
        · rw [openBehind_other hopen hclose]
          exact hrest
  · intro h before after htext
    subst htext
    rw [openBehind_append, openBehind_opening] at h
    have hless : openBehind 1 after ≤ 0 := h ▸ openBehind_mono (Nat.le_add_left 1 _) after
    exact closes_of_openBehind (Nat.le_zero.mp hless)

instance (text : List Char) : Decidable (Paired text) := decidable_of_iff _ (paired_iff text).symm

end Braces

/-! ## 2. The tree of a text -/

/-- The tokens of a text form a tree if no brace is open in the end. By induction on the text, as
its tokens are read from it. -/
theorem isSome_ofTokensFrom_iff {depth : Nat} {text : List Char} {current : Shape}
    {before : Option Shape} {outside : Shape.Outside} (hdepth : depth = outside.length) :
    (Shape.ofTokensFrom current before outside (tokensFrom depth text)).isSome ↔
    openBehind depth text = 0 := by
  induction depth, text using tokensFrom_induction generalizing current before outside with
  | nil depth =>
    subst hdepth
    cases outside <;> simp [tokensFrom, Shape.ofTokensFrom, openBehind]
  | item depth written rest t s hs hwritten htokens ih =>
    rw [htokens, Shape.ofTokensFrom_cons hs, openBehind_item hwritten]
    exact ih hdepth
  | opening depth rest ih => exact ih (congrArg (· + 1) hdepth)
  | closing depth rest ih =>
    cases outside with
    | nil => cases hdepth
    | cons around outside =>
      rw [tokensFrom_closing]
      exact ih (Nat.succ.inj hdepth)
  | separator depth rest ih =>
    rw [tokensFrom_separator]
    exact ih hdepth

/-- The tokens of a text form a tree if each brace of the text has its partner. -/
theorem isSome_ofTokens?_iff (text : List Char) : (Shape.ofTokens? (tokens text)).isSome ↔
    Paired text :=
  (isSome_ofTokensFrom_iff rfl).trans (paired_iff text).symm

end Glob

/-! ## 3. The limits -/

/-- Whether what a text is read as, if it can be read as a pattern, stays within the limits on
nesting and on size. -/
def Pattern.withinLimits (written : List Char) : Bool :=
  (readTokens (written.length + 1) .start written).toOption.all fun expr =>
    decide (expr.depth ≤ nestingLimit) &&
      (expr.meaning (.initial false)).toOption.all fun result => decide (result.1.size ≤ sizeLimit)

namespace Glob

/-- The spelling of the glob stays within the limits on patterns. -/
def WithinLimits (text : String) : Prop := Pattern.withinLimits (spelling (tokens text.toList))

instance (text : String) : Decidable (WithinLimits text) := inferInstanceAs (Decidable (_ = true))

theorem WithinLimits.of_shape {text : String} (h : WithinLimits text) {shape : Shape}
    (hshape : Shape.ofTokens? (tokens text.toList) = some shape) :
    shape.anchored.depth ≤ Pattern.nestingLimit ∧
      ∀ p modes, shape.anchored.meaning Pattern.globModes = .ok (p, modes) →
      p.size ≤ Pattern.sizeLimit := by
  rw [WithinLimits, Pattern.withinLimits, readTokens_spelling, hshape] at h
  simp only [outcome, Except.toOption, Option.all_some, Bool.and_eq_true, decide_eq_true_eq] at h
  refine ⟨h.1, fun p modes hmeaning => ?_⟩
  have hinitial : shape.anchored.meaning (.initial false) = .ok (p, modes) := hmeaning
  have hsize := h.2
  rw [hinitial] at hsize
  exact of_decide_eq_true hsize

/-! ## 4. Acceptance -/

/-- A text with a brace that has no partner is refused, and the refusal names the text. -/
theorem refused_of_not_paired {text : String} (h : ¬ Paired text.toList) :
    ofText? text = .error ⟨text, reason (tokens text.toList) .groupUnclosed⟩ := by
  have hnone : Shape.ofTokens? (tokens text.toList) = none := by
    rwa [← isSome_ofTokens?_iff, Option.not_isSome_iff_eq_none] at h
  have hread : Pattern.Expr.read (spelling (tokens text.toList)) = .error .groupUnclosed := by
    rw [read_spelling, hnone]
  have hpattern : Pattern.ofText? false (String.ofList (spelling (tokens text.toList))) =
      .error .groupUnclosed := by
    rw [Pattern.ofText?, String.toList_ofList, hread]
    rfl
  simp only [ofText?, hpattern]

/-- Within the limits a text is accepted if each of its braces has a partner. -/
theorem accepted_of_paired {text : String} (hlimits : WithinLimits text) (h : Paired text.toList) :
    ∃ g, ofText? text = .ok g := by
  obtain ⟨shape, hshape⟩ := Option.isSome_iff_exists.mp ((isSome_ofTokens?_iff text.toList).mpr h)
  obtain ⟨ps, hps, -⟩ := (written_denotes shape).1
  obtain ⟨hdepth, hsize⟩ := hlimits.of_shape hshape
  have hmeaning := meaning_anchored hps
  have hpattern := patternOfText?_of_shape hshape hdepth hmeaning
  rw [if_neg (Nat.not_lt.mpr (hsize _ _ hmeaning))] at hpattern
  exact ⟨⟨_⟩, ofText?_eq_ok_iff.mpr hpattern⟩

theorem exists_ok_iff {ε α : Type} {result : Except ε α} : (∃ a, result = .ok a) ↔ ¬∃ e,
    result = .error e := by
  cases result <;> simp

/-- Nothing is refused first where nothing is refused. -/
theorem not_exists_firstRefused_iff {texts : List String} :
    (¬∃ refusal, FirstRefused texts refusal) ↔ ∀ text ∈ texts, ∃ g, ofText? text = .ok g := by
  simp only [exists_firstRefused_iff, exists_ok_iff, not_exists, not_and]

/-- **A glob is accepted exactly if each of its braces has a partner**, as long as its spelling
stays within the limits on patterns; otherwise it is refused by its text. Several globs are accepted
if each of them is, and options for a walk as well; otherwise the first refused one is reported, the
include patterns before the exclude patterns. -/
theorem acceptance :
    (∀ text, WithinLimits text →
      ((∃ g, ofText? text = .ok g) ↔ Paired text.toList) ∧
      (¬Paired text.toList →
        ofText? text = .error ⟨text, reason (tokens text.toList) .groupUnclosed⟩)) ∧
    (∀ texts,
      ((∃ gs, ofTexts? texts = .ok gs) ↔ ∀ text ∈ texts, ∃ g, ofText? text = .ok g) ∧
      ∀ refusal, ofTexts? texts = .error refusal ↔ FirstRefused texts refusal) ∧
    ∀ includes excludes maxFiles,
      ((∃ o, WalkOptions.ofTexts? includes excludes maxFiles = .ok o) ↔
        ∀ text ∈ includes ++ excludes, ∃ g, ofText? text = .ok g) ∧
      ∀ refusal, WalkOptions.ofTexts? includes excludes maxFiles = .error refusal ↔
        FirstRefused (includes ++ excludes) refusal := by
  refine ⟨fun text hlimits => ⟨⟨fun haccepted => ?_, accepted_of_paired hlimits⟩,
    refused_of_not_paired⟩, fun texts => ⟨?_, fun refusal => ofTexts?_eq_error_iff⟩,
    fun includes excludes maxFiles => ⟨?_, fun refusal => WalkOptions.ofTexts?_eq_error_iff⟩⟩
  · obtain ⟨g, hg⟩ := haccepted
    by_contra hunpaired
    rw [refused_of_not_paired hunpaired] at hg
    cases hg
  · rw [exists_ok_iff, ← not_exists_firstRefused_iff]
    simp only [ofTexts?_eq_error_iff]
  · rw [exists_ok_iff, ← not_exists_firstRefused_iff]
    simp only [WalkOptions.ofTexts?_eq_error_iff]

/-- Signs of regular expressions, an empty alternative and a closing brace too many are accepted; of
two exclude patterns with an open brace the first is reported. -/
theorem acceptance_of_stray_brace :
    WithinLimits "a.(b|[c]\x7b,d\x7b\\e\x7d\x7d\x7d+$" ∧
    (∃ g, ofText? "a.(b|[c]\x7b,d\x7b\\e\x7d\x7d\x7d+$" = .ok g) ∧
      ∃ why, WalkOptions.ofTexts? ["**/*.js"] ["\x7d\x7b", "\x7ba"] 10 =
        .error ⟨"\x7d\x7b", why⟩ := by
  have hlimits : WithinLimits "a.(b|[c]\x7b,d\x7b\\e\x7d\x7d\x7d+$" := by decide +kernel
  have hfirst : WithinLimits "\x7d\x7b" := by decide +kernel
  obtain ⟨hone, -, hoptions⟩ := acceptance
  obtain ⟨g, hg⟩ : ∃ g, ofText? "**/*.js" = .ok g :=
    (hone "**/*.js" (by decide +kernel)).1.mpr (by decide +kernel)
  refine ⟨hlimits, (hone _ hlimits).1.mpr (by decide +kernel), _, ((hoptions _ _ 10).2 _).mpr
    ⟨["**/*.js"], ["\x7ba"], rfl, fun text htext => ?_,
      (hone "\x7d\x7b" hfirst).2 (by decide +kernel)⟩⟩
  rw [List.mem_singleton.mp htext]
  exact ⟨g, hg⟩

end Glob

end PrivacyAudit
