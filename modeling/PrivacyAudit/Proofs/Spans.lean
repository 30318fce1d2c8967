import PrivacyAudit.Pattern.Basic
import Mathlib.Data.List.Basic

/-!
# Spans

What a pattern describes is a set of spans: of a text `pre ++ mid ++ post`, the part `mid` between
what stands before it and behind it. A sequence describes spans of the first part followed by spans
of the second (`Spans.Then`), so each kind of pattern has an equation for what it describes
(`matches_seq_iff` and so on). For a repetition the equation peels off one round; a round that reads
nothing can be left out when the number of rounds is not bounded (`matches_many_cons_iff`).
-/

namespace PrivacyAudit.Pattern

/-- A set of spans, each with the text before it and behind it. -/
abbrev Spans := (pre mid post : List Char) → Prop

namespace Spans

/-- A span of the first set followed by one of the second. -/
def Then (A B : Spans) : Spans := fun pre mid post =>
  ∃ mid₁ mid₂, mid = mid₁ ++ mid₂ ∧ A pre mid₁ (mid₂ ++ post) ∧ B (pre ++ mid₁) mid₂ post

variable {A B : Spans} {pre mid post : List Char} {c : Char}

theorem then_nil_iff : A.Then B pre [] post ↔ A pre [] post ∧ B pre [] post := by
  constructor
  · rintro ⟨mid₁, mid₂, heq, ha, hb⟩
    obtain ⟨rfl, rfl⟩ := List.append_eq_nil_iff.mp heq.symm
    exact ⟨ha, by simpa using hb⟩
  · rintro ⟨ha, hb⟩
    exact ⟨[], [], rfl, ha, by simpa using hb⟩

/-- The first character of a sequence belongs to its first part, unless that is empty. -/
theorem then_cons_iff :
    A.Then B pre (c :: mid) post ↔
      (A pre [] (c :: mid ++ post) ∧ B pre (c :: mid) post) ∨
        ∃ mid₁ mid₂, mid = mid₁ ++ mid₂ ∧ A pre (c :: mid₁) (mid₂ ++ post) ∧
          B (pre ++ c :: mid₁) mid₂ post := by
  constructor
  · rintro ⟨mid₁, mid₂, heq, ha, hb⟩
    cases mid₁ with
    | nil =>
      obtain rfl : c :: mid = mid₂ := heq
      exact .inl ⟨ha, by simpa using hb⟩
    | cons d mid₁ =>
      obtain ⟨rfl, rfl⟩ := List.cons.inj heq
      exact .inr ⟨mid₁, mid₂, rfl, ha, hb⟩
  · rintro (⟨ha, hb⟩ | ⟨mid₁, mid₂, rfl, ha, hb⟩)
    · exact ⟨[], c :: mid, rfl, ha, by simpa using hb⟩
    · exact ⟨c :: mid₁, mid₂, rfl, ha, hb⟩

end Spans

/-! ## What each kind of pattern describes -/

variable {p q : Pattern} {pre mid post : List Char}

@[simp] theorem matches_empty_iff : Matches .empty pre mid post ↔ mid = [] := by
  constructor
  · rintro ⟨⟩
    rfl
  · rintro rfl
    exact .empty

@[simp] theorem matches_set_iff {s : CharSet} :
    Matches (.set s) pre mid post ↔ ∃ c, s.contains c = true ∧ mid = [c] := by
  constructor
  · intro h
    cases h with
    | set hc => exact ⟨_, hc, rfl⟩
  · rintro ⟨c, hc, rfl⟩
    exact .set hc

@[simp] theorem matches_look_iff {l : Look} :
    Matches (.look l) pre mid post ↔ l.holds pre.getLast? post.head? = true ∧ mid = [] := by
  constructor
  · intro h
    cases h with
    | look hl => exact ⟨hl, rfl⟩
  · rintro ⟨hl, rfl⟩
    exact .look hl

@[simp] theorem matches_mark_iff {slot : Nat} : Matches (.mark slot) pre mid post ↔ mid = [] := by
  constructor
  · rintro ⟨⟩
    rfl
  · rintro rfl
    exact .mark

theorem matches_seq_iff :
    Matches (.seq p q) pre mid post ↔ Spans.Then p.Matches q.Matches pre mid post := by
  constructor
  · intro h
    cases h with
    | seq hp hq => exact ⟨_, _, rfl, hp, hq⟩
  · rintro ⟨mid₁, mid₂, rfl, hp, hq⟩
    exact .seq hp hq

theorem matches_alt_iff :
    Matches (.alt p q) pre mid post ↔ p.Matches pre mid post ∨ q.Matches pre mid post := by
  constructor
  · intro h
    cases h with
    | altFirst hp => exact .inl hp
    | altSecond hq => exact .inr hq
  · rintro (hp | hq)
    · exact .altFirst hp
    · exact .altSecond hq

/-- A repetition is over if no round is owed, or makes one more round if one is allowed. -/
theorem matches_loop_iff {least : Nat} {most : Option Nat} {greedy : Bool} :
    Matches (.loop p least most greedy) pre mid post ↔
      (least = 0 ∧ mid = []) ∨ (most ≠ some 0 ∧
        Spans.Then p.Matches (Matches (.loop p (least - 1) (most.map (· - 1)) greedy))
          pre mid post) := by
  constructor
  · intro h
    cases h with
    | loopDone => exact .inl ⟨rfl, rfl⟩
    | loopMore hmost hp hrest => exact .inr ⟨hmost, _, _, rfl, hp, hrest⟩
  · rintro (⟨rfl, rfl⟩ | ⟨hmost, mid₁, mid₂, rfl, hp, hrest⟩)
    · exact .loopDone
    · exact .loopMore hmost hp hrest

/-- An unbounded repetition that reads something has a first round that reads something. -/
theorem matches_many_cons_iff {greedy : Bool} {c : Char} :
    Matches (.loop p 0 none greedy) pre (c :: mid) post ↔
      ∃ mid₁ mid₂, mid = mid₁ ++ mid₂ ∧ p.Matches pre (c :: mid₁) (mid₂ ++ post) ∧
        Matches (.loop p 0 none greedy) (pre ++ c :: mid₁) mid₂ post := by
  constructor
  · intro h
    -- By induction on the rounds: those that read nothing are passed over.
    generalize hloop : Pattern.loop p 0 none greedy = loop at h
    generalize hmid : c :: mid = whole at h
    induction h with
    | empty | set | look | mark => cases hloop
    | seq | altFirst | altSecond => cases hloop
    | loopDone => cases hmid
    | @loopMore p' least most greedy' pre mid₁ mid₂ post _ hp hrest _ ihrest =>
      cases hloop
      cases mid₁ with
      | nil =>
        have hround := ihrest rfl (by simpa using hmid)
        simpa using hround
      | cons d mid₁ =>
        obtain ⟨rfl, rfl⟩ := List.cons.inj hmid
        exact ⟨mid₁, mid₂, rfl, hp, hrest⟩
  · rintro ⟨mid₁, mid₂, rfl, hp, hrest⟩
    exact .loopMore (by simp) hp hrest

end PrivacyAudit.Pattern
