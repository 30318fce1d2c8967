import PrivacyAudit.Catalog.Basic
import PrivacyAudit.Proofs.Sizing
import PrivacyAudit.Proofs.Surrounding

/-!
# Plain patterns

Catalogs are written with few means: characters in whatever case, word boundaries, white space, any
characters of a line, choices, and groups in which the case counts. What is written so
(`Expr.isPlain`)

* has a meaning, and the flags in force behind it are those in front of it;
* asks for nothing but what lines begin and end with;
* and takes memory in proportion to its length (`Expr.weight`), so it is accepted if it is not too
  long.

`Expr.meaning_of_plain` says this by recursion on the written pattern, and
`CatalogText.compile_of_plain` of a whole catalog.
-/

namespace PrivacyAudit

namespace Pattern

/-! ## 1. What is plain -/

/-- Whether a condition on positions asks for words only. -/
def Anchor.isPlain : Anchor → Bool
  | .lineStart | .lineEnd | .textStart | .textEnd => false
  | _ => true

/-- Whether a change of flags says that the case counts, and nothing else. -/
def FlagChange.countsCase (change : FlagChange) : Bool := change == ⟨[], [.ignoreCase]⟩

/-- Whether a written pattern is plain; ranges of characters are so only where the case counts. -/
def Expr.isPlain (ignoreCase : Bool) : Expr → Bool
  | .literal _ _ | .dot | .shorthand .blank false => true
  | .anchor kind => kind.isPlain
  | .bracketed false (.range _ _ _ _) => !ignoreCase
  | .repeated body 0 none _ => body.isPlain ignoreCase
  | .group none change body => change.countsCase && body.isPlain false
  | .sequence parts | .choice parts => arePlain ignoreCase parts
  | _ => false
where
  /-- Whether all parts are plain. -/
  arePlain (ignoreCase : Bool) : List Expr → Bool
    | [] => true
    | part :: parts => part.isPlain ignoreCase && arePlain ignoreCase parts

/-- The length of a plain pattern: a range counts for as many characters as are in it. -/
def Expr.weight : Expr → Nat
  | .bracketed _ (.range first _ last _) => (last.toNat + 1 - first.toNat) + 1
  | .repeated body _ _ _ => body.weight + 1
  | .group _ _ body => body.weight
  | .sequence parts | .choice parts => weights parts + 1
  | _ => 1
where
  /-- The lengths of all parts together. -/
  weights : List Expr → Nat
    | [] => 0
    | part :: parts => part.weight + weights parts

/-! ## 2. Memory -/

/-- The memory that a character takes at most, in whatever case, with what it may take to choose
it. -/
def unitSize : Nat := 40000

/-- The pattern takes no more memory than so many characters. -/
def Fits (p : Pattern) (weight : Nat) : Prop := ∀ direction, bodySize direction p + 72 ≤
  unitSize * weight

theorem foldingShifts_length_le : Text.foldingShifts.length ≤ 230 := by decide +kernel

theorem fits_literal {modes : Modes} (hunicode : modes.unicode = true) (c : Char) (byte : Bool) :
    ∃ s, modes.literal c byte = .ok (.set s) ∧ Fits (.set s) 1 := by
  have hruns := foldingShifts_length_le
  have hvariants := CharSet.spread_caseVariants_le c
  refine ⟨if modes.ignoreCase then .caseVariants c
    else .single c, by rw [Modes.literal, if_pos hunicode], ?_⟩
  intro direction
  have hsingle : (CharSet.single c).spread = 1 := by
    simp only [CharSet.spread, CharSet.single, CharSet.range, CharSet.spreadOf, List.map_cons,
      List.map_nil, List.sum_cons, List.sum_nil]
    omega
  have hset := setSize_le direction (if modes.ignoreCase then .caseVariants c else .single c)
  have hspread : (if modes.ignoreCase then CharSet.caseVariants c else .single c).spread ≤ 231 := by
    split <;> omega
  show setSize direction _ + 72 ≤ _
  simp only [unitSize]
  omega

/-- A range of characters takes no more memory than the characters in it. -/
theorem fits_range (first last : Char) :
    Fits (.set (.range first.toNat last.toNat)) ((last.toNat + 1 - first.toNat) + 1) := by
  intro direction
  have hset := setSize_le direction (.range first.toNat last.toNat)
  have hspread : (CharSet.range first.toNat last.toNat).spread = last.toNat + 1 - first.toNat := by
    simp only [CharSet.spread, CharSet.range, CharSet.spreadOf, List.map_cons, List.map_nil,
      List.sum_cons, List.sum_nil, Nat.add_zero]
  show setSize direction _ + 72 ≤ _
  simp only [unitSize]
  omega

theorem fits_dot : Fits (.set (CharSet.single '\n').complement) 1 := by
  intro direction
  cases direction <;> decide +kernel

theorem fits_blank : Fits (.set ⟨Text.blankRanges⟩) 1 := by
  intro direction
  cases direction <;> decide +kernel

theorem fits_look (l : Look) : Fits (.look l) 1 := by
  intro direction
  show stateSize + 72 ≤ _
  decide

/-- The memory of the parts of a sequence. -/
theorem bodySize_sequence_le (direction : Direction) (ps : List Pattern) :
    bodySize direction (.sequence ps) ≤ (ps.map fun p => bodySize direction p + 72).sum +
    stateSize := by
  induction ps with
  | nil => exact Nat.le_refl _
  | cons p ps ih =>
    cases ps with
    | nil =>
      simp only [sequence, List.map_cons, List.map_nil, List.sum_cons, List.sum_nil]
      omega
    | cons q ps =>
      simp only [sequence, bodySize]
      rw [List.map_cons, List.sum_cons]
      omega

/-- The memory of the members of a choice, each with what it takes to choose it. -/
theorem bodySize_choice_le (direction : Direction) (ps : List Pattern) :
    bodySize direction (.choice ps) ≤ (ps.map fun p => bodySize direction p + 72).sum + 128 := by
  induction ps with
  | nil => exact setSize_le direction .none
  | cons p ps ih =>
    cases ps with
    | nil =>
      simp only [choice, List.map_cons, List.map_nil, List.sum_cons, List.sum_nil]
      omega
    | cons q ps =>
      rw [List.map_cons, List.sum_cons]
      simp only [choice, bodySize, alternativeSize, stateSize]
      split <;> omega

/-! ## 3. The meaning of plain patterns -/

theorem keepsLines_sequence {ps : List Pattern} (h : ∀ p ∈ ps, p.keepsLines = true) :
    (sequence ps).keepsLines = true := by
  induction ps with
  | nil => rfl
  | cons p ps ih =>
    have hp := h p List.mem_cons_self
    have hps := ih fun q hq => h q (List.mem_cons_of_mem p hq)
    cases ps with
    | nil => exact hp
    | cons q ps => exact Bool.and_eq_true_iff.mpr ⟨hp, hps⟩

theorem keepsLines_choice {ps : List Pattern} (h : ∀ p ∈ ps, p.keepsLines = true) :
    (choice ps).keepsLines = true := by
  induction ps with
  | nil => rfl
  | cons p ps ih =>
    have hp := h p List.mem_cons_self
    have hps := ih fun q hq => h q (List.mem_cons_of_mem p hq)
    cases ps with
    | nil => exact hp
    | cons q ps => exact Bool.and_eq_true_iff.mpr ⟨hp, hps⟩

/-- The modes of plain patterns: only whether the case counts is ever changed. -/
theorem initial_apply_countsCase {change : FlagChange} (h : change.countsCase = true)
    (ignoreCase : Bool) : (Modes.initial ignoreCase).apply change = .initial false := by
  have hchange : change = ⟨[], [.ignoreCase]⟩ := by simpa [FlagChange.countsCase] using h
  subst hchange
  cases ignoreCase <;> rfl

theorem keepsLines_anchor {kind : Anchor} (h : kind.isPlain = true) (modes : Modes) :
    (modes.anchor kind).keepsLines = true := by
  cases kind with
  | lineStart | lineEnd | textStart | textEnd => cases h
  | _ => rfl

/-- What is said of a plain pattern: its meaning leaves the modes alone, keeps lines and fits. -/
structure PlainMeaning (ignoreCase : Bool) (weight : Nat) (meaning : Except Fault (Pattern × Modes))
    (p : Pattern) : Prop where
  meaning : meaning = .ok (p, .initial ignoreCase)
  keepsLines : p.keepsLines = true
  fits : Fits p weight

/-- The same of several parts. -/
structure PlainMeanings (ignoreCase : Bool) (weight : Nat)
    (meanings : Except Fault (List Pattern × Modes)) (ps : List Pattern) : Prop where
  meanings : meanings = .ok (ps, .initial ignoreCase)
  keepsLines : ∀ p ∈ ps, p.keepsLines = true
  fits : ∀ direction, (ps.map fun p => bodySize direction p + 72).sum ≤ unitSize * weight

section Meaning

variable {ignoreCase : Bool}

theorem plainMeaning_literal (c : Char) (byte : Bool) :
    ∃ p, PlainMeaning ignoreCase 1 ((Expr.literal c byte).meaning (.initial ignoreCase)) p := by
  obtain ⟨s, hs, hfits⟩ := @fits_literal (.initial ignoreCase) rfl c byte
  refine ⟨.set s, ?_, rfl, hfits⟩
  rw [Expr.meaning, hs]
  rfl

theorem PlainMeanings.sequence {weight : Nat} {parts : List Expr} {ps : List Pattern}
    (h : PlainMeanings ignoreCase weight (Expr.meaning.meanings (.initial ignoreCase) parts) ps) :
    PlainMeaning ignoreCase (weight + 1) ((Expr.sequence parts).meaning (.initial ignoreCase))
      (.sequence ps) where
  meaning := by
    rw [Expr.meaning, h.meanings]
    rfl
  keepsLines := keepsLines_sequence h.keepsLines
  fits direction := by
    have hparts := h.fits direction
    have hsize := bodySize_sequence_le direction ps
    simp only [unitSize, stateSize] at hparts hsize ⊢
    omega

theorem PlainMeanings.choice {weight : Nat} {parts : List Expr} {ps : List Pattern}
    (h : PlainMeanings ignoreCase weight (Expr.meaning.meanings (.initial ignoreCase) parts) ps) :
    PlainMeaning ignoreCase (weight + 1) ((Expr.choice parts).meaning (.initial ignoreCase))
      (.choice ps) where
  meaning := by
    rw [Expr.meaning, h.meanings]
    rfl
  keepsLines := keepsLines_choice h.keepsLines
  fits direction := by
    have hparts := h.fits direction
    have hsize := bodySize_choice_le direction ps
    simp only [unitSize] at hparts ⊢
    omega

theorem PlainMeaning.repeated {weight : Nat} {body : Expr} {p : Pattern}
    (h : PlainMeaning ignoreCase weight (body.meaning (.initial ignoreCase)) p) (greedy : Bool) :
    PlainMeaning ignoreCase (weight + 1)
      ((Expr.repeated body 0 none greedy).meaning (.initial ignoreCase))
      (.loop p 0 none greedy) where
  meaning := by
    rw [Expr.meaning, h.meaning]
    cases greedy <;> rfl
  keepsLines := h.keepsLines
  fits direction := by
    have hbody := h.fits direction
    have hloop : bodySize direction (.loop p 0 none greedy) = bodySize direction p + 40 := by
      simp [bodySize, stateSize, alternativeSize]
    rw [hloop]
    simp only [unitSize] at hbody ⊢
    omega

theorem PlainMeaning.group {weight : Nat} {change : FlagChange} {body : Expr} {p : Pattern}
    (hchange : change.countsCase = true)
    (h : PlainMeaning false weight (body.meaning (.initial false)) p) :
    PlainMeaning ignoreCase weight
      ((Expr.group none change body).meaning (.initial ignoreCase)) p where
  meaning := by
    rw [Expr.meaning, initial_apply_countsCase hchange, h.meaning]
    rfl
  keepsLines := h.keepsLines
  fits := h.fits

theorem PlainMeaning.cons {weight weights : Nat} {part : Expr} {parts : List Expr} {p : Pattern}
    {ps : List Pattern} (h : PlainMeaning ignoreCase weight (part.meaning (.initial ignoreCase)) p)
    (hs : PlainMeanings ignoreCase weights (Expr.meaning.meanings (.initial ignoreCase) parts) ps) :
    PlainMeanings ignoreCase (weight + weights)
      (Expr.meaning.meanings (.initial ignoreCase) (part :: parts))
      (p :: ps) where
  meanings := by
    rw [Expr.meaning.meanings, h.meaning]
    show (Expr.meaning.meanings (.initial ignoreCase) parts >>= fun x => pure (p :: x.1, x.2)) = _
    rw [hs.meanings]
    rfl
  keepsLines q hq := by
    rcases List.mem_cons.mp hq with rfl | hq
    · exact h.keepsLines
    · exact hs.keepsLines q hq
  fits direction := by
    rw [List.map_cons, List.sum_cons, Nat.mul_add]
    exact Nat.add_le_add (h.fits direction) (hs.fits direction)

end Meaning

mutual

/-- **A plain pattern has a meaning** that keeps lines, and takes memory in proportion to its
length. -/
theorem Expr.meaning_of_plain (ignoreCase : Bool) (e : Expr) (h : e.isPlain ignoreCase = true) :
    ∃ p, PlainMeaning ignoreCase e.weight (e.meaning (.initial ignoreCase)) p := by
  match e with
  | .literal c byte => exact plainMeaning_literal c byte
  | .dot => exact ⟨_, rfl, rfl, fits_dot⟩
  | .shorthand .blank false => exact ⟨_, rfl, rfl, fits_blank⟩
  | .anchor kind => exact ⟨_, rfl, keepsLines_anchor h _, fits_look _⟩
  | .bracketed false (.range first _ last _) =>
    obtain rfl : ignoreCase = false := by simpa [Expr.isPlain] using h
    exact ⟨_, rfl, rfl, fits_range first last⟩
  | .repeated body 0 none greedy =>
    obtain ⟨p, hp⟩ := Expr.meaning_of_plain ignoreCase body h
    exact ⟨_, hp.repeated greedy⟩
  | .group none change body =>
    obtain ⟨hchange, hbody⟩ := Bool.and_eq_true_iff.mp h
    obtain ⟨p, hp⟩ := Expr.meaning_of_plain false body hbody
    exact ⟨p, hp.group hchange⟩
  | .sequence parts =>
    obtain ⟨ps, hps⟩ := Expr.meanings_of_plain ignoreCase parts h
    exact ⟨_, hps.sequence⟩
  | .choice parts =>
    obtain ⟨ps, hps⟩ := Expr.meanings_of_plain ignoreCase parts h
    exact ⟨_, hps.choice⟩

/-- The same of the parts of a plain pattern, one after the other. -/
theorem Expr.meanings_of_plain (ignoreCase : Bool) (parts : List Expr)
    (h : Expr.isPlain.arePlain ignoreCase parts = true) :
    ∃ ps, PlainMeanings ignoreCase (Expr.weight.weights parts)
      (Expr.meaning.meanings (.initial ignoreCase) parts)
      ps := by
  match parts with
  | [] => exact ⟨[], rfl, fun _ hnone => absurd hnone List.not_mem_nil, fun _ => Nat.zero_le _⟩
  | part :: parts =>
    obtain ⟨hpart, hparts⟩ := Bool.and_eq_true_iff.mp h
    obtain ⟨p, hp⟩ := Expr.meaning_of_plain ignoreCase part hpart
    obtain ⟨ps, hps⟩ := Expr.meanings_of_plain ignoreCase parts hparts
    exact ⟨_, hp.cons hps⟩

end

/-- The greatest length up to which plain patterns are accepted whatever their characters. -/
def plainLimit : Nat := 260

/-- **A plain pattern that is not too long is accepted.** -/
theorem ofExpr?_of_plain {ignoreCase : Bool} {e : Expr} (h : e.isPlain ignoreCase = true)
    (hlength : e.weight ≤ plainLimit) :
    ∃ p, ofExpr? ignoreCase e = .ok p ∧ p.keepsLines = true := by
  obtain ⟨p, hp⟩ := Expr.meaning_of_plain ignoreCase e h
  have hforwards := hp.fits .forwards
  have hbackwards := hp.fits .backwards
  have hsize : ¬ p.size > sizeLimit := by
    simp only [unitSize, plainLimit] at hforwards hbackwards hlength
    simp only [size, stateSize, alternativeSize, sizeLimit]
    omega
  refine ⟨p, ?_, hp.keepsLines⟩
  rw [ofExpr?, hp.meaning]
  show (if p.size > sizeLimit then _ else _ : Except Fault Pattern) = _
  rw [if_neg hsize]
  rfl

/-- Whether characters spell out a plain pattern that is not too long. -/
def spellsPlain (text : List Char) : Bool :=
  match Expr.read text with
  | .ok e => e.isPlain true && decide (e.weight ≤ plainLimit)
  | .error _ => false

/-- A text that is written as the list of its characters is read from this list, and not from its
bytes. -/
theorem spellsPlain_toList {text : String} {chars : List Char} (htext : text = String.ofList chars)
    (h : spellsPlain chars = true) : spellsPlain text.toList = true := by
  rw [htext, String.toList_ofList]
  exact h

theorem ofText?_of_plain {text : String} (h : spellsPlain text.toList = true) :
    ∃ p, ofText? true text = .ok p ∧ p.keepsLines = true := by
  unfold spellsPlain at h
  cases hread : Expr.read text.toList with
  | error fault =>
    rw [hread] at h
    cases h
  | ok e =>
    rw [hread] at h
    obtain ⟨hplain, hlength⟩ := Bool.and_eq_true_iff.mp h
    obtain ⟨p, hp, hkeeps⟩ := ofExpr?_of_plain hplain (of_decide_eq_true hlength)
    refine ⟨p, ?_, hkeeps⟩
    rw [ofText?, hread]
    exact hp

end Pattern

/-! ## 4. Catalogs -/

/-- All patterns of a catalog are plain and not too long. -/
def CatalogText.IsPlain (c : CatalogText) : Prop := ∀ r ∈ c.rules,
  Pattern.spellsPlain r.pattern.toList = true

/-- The rules are those that are written, each with the pattern that its text spells out. -/
theorem compileRules_of_plain (catalog : String) {rs : List RuleText}
    (h : ∀ r ∈ rs, Pattern.spellsPlain r.pattern.toList = true) :
    ∃ rules, compileRules catalog rs = .ok rules ∧
    (∀ rule ∈ rules, rule.pattern.keepsLines = true) ∧
      ∀ r ∈ rs, ∃ p, Pattern.ofText? true r.pattern = .ok p ∧
      ⟨r.category, r.tag, p, r.onlyIn?⟩ ∈ rules := by
  induction rs with
  | nil => exact ⟨[], rfl, fun _ hnone => absurd hnone List.not_mem_nil,
      fun _ hnone => absurd hnone List.not_mem_nil⟩
  | cons r rs ih =>
    obtain ⟨p, hp, hkeeps⟩ := Pattern.ofText?_of_plain (h r List.mem_cons_self)
    obtain ⟨rules, hrules, hall, heach⟩ := ih fun r' hr' => h r' (List.mem_cons_of_mem r hr')
    have hrule : r.compile catalog = .ok ⟨r.category, r.tag, p, r.onlyIn?⟩ := by
      rw [RuleText.compile, hp]
    refine ⟨⟨r.category, r.tag, p, r.onlyIn?⟩ :: rules, ?_, fun rule hmem => ?_, fun r' hmem => ?_⟩
    · rw [compileRules, hrule, hrules]
      rfl
    · rcases List.mem_cons.mp hmem with rfl | hmem
      · exact hkeeps
      · exact hall rule hmem
    · rcases List.mem_cons.mp hmem with rfl | hmem
      · exact ⟨p, hp, List.mem_cons_self⟩
      · obtain ⟨p', hp', hmem'⟩ := heach r' hmem
        exact ⟨p', hp', List.mem_cons_of_mem _ hmem'⟩

/-- **A plain catalog is accepted**, and none of its patterns asks where the text ends. -/
theorem CatalogText.compile_of_plain {c : CatalogText} (h : c.IsPlain) :
    ∃ cat, c.compile = .ok cat ∧ cat.KeepsLines ∧
      ∀ r ∈ c.rules, ∃ p, Pattern.ofText? true r.pattern = .ok p ∧
      ⟨r.category, r.tag, p, r.onlyIn?⟩ ∈ cat.rules := by
  obtain ⟨rules, hrules, hall, heach⟩ := compileRules_of_plain c.name h
  refine ⟨⟨c.name, c.extensions.map Text.lower, rules⟩, ?_, hall, heach⟩
  rw [compile, hrules]
  rfl

end PrivacyAudit
