import PrivacyAudit.Pattern.Occurrence
import PrivacyAudit.Proofs.Spans

/-!
# The test for occurrence is exact

`Pattern.occurs` reads a text once and keeps the places inside the pattern that have been reached.
What such places are good for is what can be read from them on before the pattern is left:
`Pattern.Leaves`. It is the invariant of the reading: `out` tells whether something empty is enough
(`out_iff`), and behind one step the places leave the pattern with what they left it with before,
less the character read (`leaves_step_iff`). So the test answers whether a span is described
somewhere (`occurs_iff`).
-/

namespace PrivacyAudit

namespace Places

@[simp] theorem first_join (p q : Places) : (p.join q).first = p := by
  cases p <;> cases q <;> rfl

@[simp] theorem second_join (p q : Places) : (p.join q).second = q := by
  cases p <;> cases q <;> rfl

theorem isNone_iff {p : Places} : p.isNone ↔ p = .none := by
  cases p <;> simp [isNone]

end Places

namespace Pattern

/-! ## 1. What can be read from places on -/

/-- The bound of a repetition of which `rounds` rounds are told apart. -/
def bound (endless : Bool) (rounds : Nat) : Option Nat := if endless then none else some rounds

theorem bound_rounds (least : Nat) (most : Option Nat) :
    bound most.isNone (rounds least most) = most := by
  cases most <;> rfl

/-- The spans with which a repetition is left whose body is left with `inside`. What is behind the
body's round is described by the repetition without this round. -/
def LeavesRounds (body : Pattern) (greedy : Bool) (inside : Places → Spans) (endless : Bool) :
    (owed rounds : Nat) → Places → Spans
  | _, 0, places => if endless then (inside places).Then (Matches (.loop body 0 none greedy))
    else fun _ _ _ => False
  | owed, rounds + 1, places => fun pre mid post =>
    (inside places.first).Then
      (Matches (.loop body (owed - 1) (bound endless rounds) greedy)) pre mid post ∨
      LeavesRounds body greedy inside endless (owed - 1) rounds places.second pre mid post

/-- The spans with which the pattern is left from places inside it. -/
def Leaves : Pattern → Places → Spans
  | .empty, _ => fun _ _ _ => False
  | .set _, places => fun _ mid _ => mid = [] ∧ places.isNone = false
  | .look _, _ => fun _ _ _ => False
  | .mark _, _ => fun _ _ _ => False
  | .seq p q, places => fun pre mid post =>
    (p.Leaves places.first).Then q.Matches pre mid post ∨ q.Leaves places.second pre mid post
  | .alt p q, places => fun pre mid post =>
    p.Leaves places.first pre mid post ∨ q.Leaves places.second pre mid post
  | .loop p least most greedy, places =>
    LeavesRounds p greedy p.Leaves most.isNone least (rounds least most) places

variable {pre mid post : List Char}

theorem not_leavesRounds_none {p : Pattern} {greedy : Bool}
    (h : ∀ pre mid post, ¬ p.Leaves .none pre mid post) (endless : Bool) (owed rounds : Nat) :
    ¬ LeavesRounds p greedy p.Leaves endless owed rounds .none pre mid post := by
  induction rounds generalizing owed with
  | zero =>
    cases endless with
    | false => exact id
    | true =>
      rintro ⟨_, _, _, hp, _⟩
      exact h _ _ _ hp
  | succ rounds ih =>
    rintro (⟨_, _, _, hp, _⟩ | hlater)
    · exact h _ _ _ hp
    · exact ih (owed - 1) hlater

/-- Where no place is reached, nothing leads out. -/
theorem not_leaves_none (p : Pattern) : ∀ pre mid post, ¬ p.Leaves .none pre mid post := by
  induction p with
  | empty | look l | mark k => exact fun _ _ _ => id
  | set s =>
    rintro pre mid post ⟨-, h⟩
    cases h
  | seq p q ihp ihq =>
    rintro pre mid post (⟨_, _, _, hp, _⟩ | hq)
    · exact ihp _ _ _ hp
    · exact ihq _ _ _ hq
  | alt p q ihp ihq =>
    rintro pre mid post (hp | hq)
    · exact ihp _ _ _ hp
    · exact ihq _ _ _ hq
  | loop p least most greedy ih => exact fun pre mid post => not_leavesRounds_none ih _ _ _

/-! ## 2. Ways out -/

/-- A way leaves the pattern with the span: one that enters it here, or one inside. -/
def WayOut (p : Pattern) (entering : Bool) (places : Places) : Spans := fun pre mid post =>
  (entering = true ∧ p.Matches pre mid post) ∨ p.Leaves places pre mid post

/-- A way leaves a repetition with the span: one that enters it here, or one inside. -/
def WayOutRounds (p : Pattern) (greedy endless : Bool) (owed rounds : Nat) (entering : Bool)
    (places : Places) : Spans := fun pre mid post =>
  (entering = true ∧ Matches (.loop p owed (bound endless rounds) greedy) pre mid post) ∨
    LeavesRounds p greedy p.Leaves endless owed rounds places pre mid post

theorem not_wayOut_of_none {p : Pattern} {entering : Bool} {places : Places}
    (h : (!entering && places.isNone) = true) : ¬ p.WayOut entering places pre mid post := by
  rw [Bool.and_eq_true, Bool.not_eq_true', Places.isNone_iff] at h
  obtain ⟨rfl, rfl⟩ := h
  rintro (⟨h, -⟩ | h)
  · cases h
  · exact not_leaves_none p _ _ _ h

theorem not_wayOutRounds_of_none {p : Pattern} {greedy endless entering : Bool} {owed rounds : Nat}
    {places : Places} (h : (!entering && places.isNone) = true) :
    ¬ WayOutRounds p greedy endless owed rounds entering places pre mid post := by
  rw [Bool.and_eq_true, Bool.not_eq_true', Places.isNone_iff] at h
  obtain ⟨rfl, rfl⟩ := h
  rintro (⟨h, -⟩ | h)
  · cases h
  · exact not_leavesRounds_none (not_leaves_none p) _ _ _ h

/-- A sequence that a way out of `p` begins. -/
theorem wayOut_then_iff {p : Pattern} {B : Spans} {entering : Bool} {places : Places} :
    (p.WayOut entering places).Then B pre mid post ↔
      (entering = true ∧ Spans.Then p.Matches B pre mid post) ∨
      (p.Leaves places).Then B pre mid post := by
  constructor
  · rintro ⟨mid₁, mid₂, rfl, ⟨he, hp⟩ | hp, hb⟩
    · exact .inl ⟨he, mid₁, mid₂, rfl, hp, hb⟩
    · exact .inr ⟨mid₁, mid₂, rfl, hp, hb⟩
  · rintro (⟨he, mid₁, mid₂, rfl, hp, hb⟩ | ⟨mid₁, mid₂, rfl, hp, hb⟩)
    · exact ⟨mid₁, mid₂, rfl, .inl ⟨he, hp⟩, hb⟩
    · exact ⟨mid₁, mid₂, rfl, .inr hp, hb⟩

theorem wayOut_seq_iff {p q : Pattern} {entering : Bool} {places : Places} :
    (seq p q).WayOut entering places pre mid post ↔
      (p.WayOut entering places.first).Then q.Matches pre mid post ∨
        q.Leaves places.second pre mid post := by
  rw [wayOut_then_iff, ← matches_seq_iff, or_assoc]
  exact Iff.rfl

theorem wayOut_alt_iff {p q : Pattern} {entering : Bool} {places : Places} :
    (alt p q).WayOut entering places pre mid post ↔
      p.WayOut entering places.first pre mid post ∨
      q.WayOut entering places.second pre mid post := by
  simp only [WayOut, Leaves, matches_alt_iff]
  tauto

theorem wayOut_loop {p : Pattern} {least : Nat} {most : Option Nat} {greedy entering : Bool}
    {places : Places} : (loop p least most greedy).WayOut entering places =
      WayOutRounds p greedy most.isNone least (rounds least most) entering places := by
  funext pre mid post
  rw [WayOut, WayOutRounds, bound_rounds]
  rfl

theorem wayOutRounds_zero_iff {p : Pattern} {greedy entering : Bool} {owed : Nat}
    {places : Places} :
    WayOutRounds p greedy false owed 0 entering places pre mid post ↔
      entering = true ∧ owed = 0 ∧ mid = [] := by
  rw [WayOutRounds, matches_loop_iff]
  simp [LeavesRounds, bound]

theorem wayOutRounds_endless_iff {p : Pattern} {greedy entering : Bool} {places : Places} :
    WayOutRounds p greedy true 0 0 entering places pre mid post ↔
      (entering = true ∧ Matches (.loop p 0 none greedy) pre mid post) ∨
        (p.Leaves places).Then (Matches (.loop p 0 none greedy)) pre mid post := Iff.rfl

theorem wayOutRounds_succ_iff {p : Pattern} {greedy endless entering : Bool} {owed rounds : Nat}
    {places : Places} :
    WayOutRounds p greedy endless owed (rounds + 1) entering places pre mid post ↔
      (entering = true ∧ owed = 0 ∧ mid = []) ∨
        (p.WayOut entering places.first).Then
          (Matches (.loop p (owed - 1) (bound endless rounds) greedy)) pre mid post ∨
        LeavesRounds p greedy p.Leaves endless (owed - 1) rounds places.second pre mid post := by
  have hmost : bound endless (rounds + 1) ≠ some 0 := by cases endless <;> simp [bound]
  have hless : (bound endless (rounds + 1)).map (· - 1) = bound endless rounds := by
    cases endless <;> simp [bound]
  rw [WayOutRounds, matches_loop_iff, hless, wayOut_then_iff, LeavesRounds]
  tauto

/-! ## 3. Leaving without reading -/

theorem outRounds_iff {p : Pattern} (greedy : Bool) {pre post : List Char}
    (hp : ∀ entering places,
      p.out pre.getLast? post.head? entering places ↔ p.WayOut entering places pre [] post)
    {endless : Bool} {owed rounds : Nat} (howed : endless → owed ≤ rounds) (entering : Bool)
    (places : Places) :
    outRounds (p.out pre.getLast? post.head?) endless owed rounds entering places ↔
      WayOutRounds p greedy endless owed rounds entering places pre [] post := by
  induction rounds generalizing owed entering places with
  | zero =>
    rw [outRounds]
    cases endless with
    | false => simp [wayOutRounds_zero_iff]
    | true =>
      obtain rfl : owed = 0 := Nat.le_zero.mp (howed rfl)
      have hdone : Matches (.loop p 0 none greedy) pre [] post := .loopDone
      have hbody : p.out pre.getLast? post.head? false places ↔ p.Leaves places pre [] post := by
        simpa [WayOut] using hp false places
      simp [wayOutRounds_endless_iff, Spans.then_nil_iff, hbody, hdone]
  | succ rounds ih =>
    rw [outRounds]
    split
    · next hnone => simpa using not_wayOutRounds_of_none hnone
    · have hlater := ih (fun h => Nat.sub_le_of_le_add (howed h))
        (p.out pre.getLast? post.head? entering places.first) places.second
      rw [Bool.or_eq_true, hlater, wayOutRounds_succ_iff, Spans.then_nil_iff, WayOutRounds,
        hp entering places.first]
      simp

/-- Whether a way leads out without reading. -/
theorem out_iff (p : Pattern) (entering : Bool) (places : Places) :
    p.out pre.getLast? post.head? entering places ↔ p.WayOut entering places pre [] post := by
  induction p generalizing entering places with
  | empty => simp [out, WayOut, Leaves]
  | set s => simp [out, WayOut, Leaves]
  | look l => simp [out, WayOut, Leaves]
  | mark k => simp [out, WayOut, Leaves]
  | seq p q ihp ihq =>
    rw [out]
    split
    · next hnone => simpa using not_wayOut_of_none hnone
    · rw [ihq, wayOut_seq_iff, Spans.then_nil_iff, ← ihp]
      rfl
  | alt p q ihp ihq =>
    rw [out]
    split
    · next hnone => simpa using not_wayOut_of_none hnone
    · rw [Bool.or_eq_true, ihp, ihq, wayOut_alt_iff]
  | loop p least most greedy ih =>
    rw [out, wayOut_loop]
    refine outRounds_iff greedy ih (fun h => ?_) _ _
    obtain rfl : most = none := Option.isNone_iff_eq_none.mp h
    exact Nat.le_refl least

/-! ## 4. Reading one character -/

theorem step_out_iff (pre : List Char) (c : Char) (p : Pattern) (entering : Bool) (places : Places)
    (rest : List Char) :
    (p.step pre.getLast? c entering places).out ↔ p.WayOut entering places pre [] (c :: rest) := by
  rw [step_out]
  exact @out_iff pre (c :: rest) p entering places

/-- The spans that remain of a set of spans behind one character, followed by others. -/
theorem then_after_iff {A A' : Spans} {c : Char}
    (h : ∀ mid post, A' (pre ++ [c]) mid post ↔ A pre (c :: mid) post) (B : Spans)
    (mid post : List Char) :
    A'.Then B (pre ++ [c]) mid post ↔
      ∃ mid₁ mid₂, mid = mid₁ ++ mid₂ ∧ A pre (c :: mid₁) (mid₂ ++ post) ∧
        B (pre ++ c :: mid₁) mid₂ post := by
  simp only [Spans.Then, h, List.append_assoc, List.singleton_append]

theorem leaves_stepRounds_iff {p : Pattern} (greedy : Bool) {pre : List Char} {c : Char}
    (hp : ∀ entering places mid post,
      p.Leaves (p.step pre.getLast? c entering places).places (pre ++ [c]) mid post ↔
      p.WayOut entering places pre (c :: mid) post)
    {endless : Bool} {owed rounds : Nat} (howed : endless → owed ≤ rounds) (entering : Bool)
    (places : Places) :
    LeavesRounds p greedy p.Leaves endless owed rounds
        (stepRounds (p.out pre.getLast? (some c)) (p.step pre.getLast? c) endless owed
          rounds entering
          places).places (pre ++ [c]) mid post ↔
      WayOutRounds p greedy endless owed rounds entering places pre (c :: mid) post := by
  induction rounds generalizing owed entering places with
  | zero =>
    rw [stepRounds]
    cases endless with
    | false => simp [LeavesRounds, wayOutRounds_zero_iff]
    | true =>
      obtain rfl : owed = 0 := Nat.le_zero.mp (howed rfl)
      have hagain : p.out pre.getLast? (some c) false places ↔
          p.Leaves places pre [] (c :: (mid ++ post)) := by
        have h := @out_iff pre (c :: (mid ++ post)) p false places
        simpa [WayOut] using h
      have hbody :=
        then_after_iff (hp (entering || p.out pre.getLast? (some c) false places) places)
        (Matches (.loop p 0 none greedy)) mid post
      simp only [LeavesRounds, if_true]
      rw [hbody, wayOutRounds_endless_iff, Spans.then_cons_iff, List.cons_append, ← hagain]
      constructor
      · rintro ⟨mid₁, mid₂, rfl, ⟨hin, hround⟩ | hround, hrest⟩
        · have hmany := matches_many_cons_iff.mpr ⟨mid₁, mid₂, rfl, hround, hrest⟩
          rcases (Bool.or_eq_true _ _).mp hin with he | ho
          · exact .inl ⟨he, hmany⟩
          · exact .inr (.inl ⟨ho, hmany⟩)
        · exact .inr (.inr ⟨mid₁, mid₂, rfl, hround, hrest⟩)
      · rintro (⟨he, hmany⟩ | ⟨ho, hmany⟩ | ⟨mid₁, mid₂, rfl, hround, hrest⟩)
        · obtain ⟨mid₁, mid₂, rfl, hround, hrest⟩ := matches_many_cons_iff.mp hmany
          exact ⟨mid₁, mid₂, rfl, .inl ⟨by simp [he], hround⟩, hrest⟩
        · obtain ⟨mid₁, mid₂, rfl, hround, hrest⟩ := matches_many_cons_iff.mp hmany
          exact ⟨mid₁, mid₂, rfl, .inl ⟨by simp [ho], hround⟩, hrest⟩
        · exact ⟨mid₁, mid₂, rfl, .inr hround, hrest⟩
  | succ rounds ih =>
    rw [stepRounds]
    split
    · next hnone =>
      simpa [not_wayOutRounds_of_none hnone] using not_leavesRounds_none (not_leaves_none p) _ _ _
    · have hfirst := then_after_iff (hp entering places.first)
        (Matches (.loop p (owed - 1) (bound endless rounds) greedy)) mid post
      have hin := step_out_iff pre c p entering places.first (mid ++ post)
      have hlater := ih (fun h => Nat.sub_le_of_le_add (howed h))
        (p.step pre.getLast? c entering places.first).out places.second
      simp only [LeavesRounds, Places.first_join, Places.second_join]
      rw [hfirst, hlater, wayOutRounds_succ_iff, Spans.then_cons_iff, WayOutRounds, hin,
        List.cons_append, or_left_comm, or_assoc]
      simp only [reduceCtorEq, and_false, false_or]

/-- Behind a character the places lead out with what they led out with before, less the
character. -/
theorem leaves_step_iff (p : Pattern) (c : Char) (entering : Bool) (places : Places) :
    p.Leaves (p.step pre.getLast? c entering places).places (pre ++ [c]) mid post ↔
      p.WayOut entering places pre (c :: mid) post := by
  induction p generalizing entering places mid post with
  | empty => simp [WayOut, Leaves]
  | set s =>
    simp only [step, WayOut, Leaves]
    cases entering <;> cases hc : s.contains c <;> simp_all [Places.isNone]
  | look l => simp [WayOut, Leaves]
  | mark k => simp [WayOut, Leaves]
  | seq p q ihp ihq =>
    rw [step]
    split
    · next hnone => simpa [not_wayOut_of_none hnone] using not_leaves_none _ _ _ _
    · have hfirst := then_after_iff (fun mid post => ihp entering places.first) q.Matches mid post
      have hin := step_out_iff pre c p entering places.first (mid ++ post)
      simp only [Leaves, Places.first_join, Places.second_join]
      rw [hfirst, ihq (p.step pre.getLast? c entering places.first).out places.second,
        wayOut_seq_iff, Spans.then_cons_iff, WayOut, hin, List.cons_append, or_left_comm, or_assoc]
  | alt p q ihp ihq =>
    rw [step]
    split
    · next hnone => simpa [not_wayOut_of_none hnone] using not_leaves_none _ _ _ _
    · simp only [Leaves, Places.first_join, Places.second_join]
      rw [ihp entering places.first, ihq entering places.second, wayOut_alt_iff]
  | loop p least most greedy ih =>
    rw [step, wayOut_loop]
    refine leaves_stepRounds_iff greedy (fun e pl mid post => ih e pl) (fun h => ?_) _ _
    obtain rfl : most = none := Option.isNone_iff_eq_none.mp h
    exact Nat.le_refl least

/-! ## 5. Reading a text -/

/-- From a place of the text on, the test finds the ways that are inside and the spans that begin
later. -/
theorem occursFrom_iff (p : Pattern) (pre : List Char) (places : Places) (rest : List Char) :
    p.occursFrom pre.getLast? places rest ↔
      (∃ mid post, rest = mid ++ post ∧ p.Leaves places pre mid post) ∨
        ∃ skipped mid post, rest = skipped ++ mid ++ post ∧
        p.Matches (pre ++ skipped) mid post := by
  induction rest generalizing pre places with
  | nil =>
    have hout := @out_iff pre [] p true places
    rw [occursFrom]
    refine hout.trans ?_
    constructor
    · rintro (⟨-, h⟩ | h)
      · exact .inr ⟨[], [], [], rfl, by simpa using h⟩
      · exact .inl ⟨[], [], rfl, h⟩
    · rintro (⟨mid, post, heq, h⟩ | ⟨skipped, mid, post, heq, h⟩)
      · obtain ⟨rfl, rfl⟩ := List.append_eq_nil_iff.mp heq.symm
        exact .inr h
      · simp only [List.nil_eq_append_iff, List.append_eq_nil_iff] at heq
        obtain ⟨⟨rfl, rfl⟩, rfl⟩ := heq
        exact .inl ⟨rfl, by simpa using h⟩
  | cons c rest ih =>
    have hlater := ih (pre ++ [c]) (p.step pre.getLast? c true places).places
    have hout := step_out_iff pre c p true places rest
    rw [List.getLast?_concat] at hlater
    rw [occursFrom, Bool.or_eq_true, hlater, hout]
    simp only [leaves_step_iff]
    constructor
    · rintro ((⟨-, h⟩ | h) | ⟨mid, post, rfl, ⟨-, h⟩ | h⟩ | ⟨skipped, mid, post, rfl, h⟩)
      · exact .inr ⟨[], [], c :: rest, rfl, by simpa using h⟩
      · exact .inl ⟨[], c :: rest, rfl, h⟩
      · exact .inr ⟨[], c :: mid, post, rfl, by simpa using h⟩
      · exact .inl ⟨c :: mid, post, rfl, h⟩
      · exact .inr ⟨c :: skipped, mid, post, rfl, by simpa using h⟩
    · rintro (⟨mid, post, heq, h⟩ | ⟨skipped, mid, post, heq, h⟩)
      · cases mid with
        | nil =>
          obtain rfl : c :: rest = post := heq
          exact .inl (.inr h)
        | cons d mid =>
          obtain ⟨rfl, rfl⟩ := List.cons.inj heq
          exact .inr (.inl ⟨mid, post, rfl, .inr h⟩)
      · cases skipped with
        | cons d skipped =>
          obtain ⟨rfl, rfl⟩ := List.cons.inj heq
          exact .inr (.inr ⟨skipped, mid, post, rfl, by simpa using h⟩)
        | nil =>
          rw [List.append_nil] at h
          cases mid with
          | nil =>
            obtain rfl : c :: rest = post := heq
            exact .inl (.inl ⟨rfl, h⟩)
          | cons d mid =>
            obtain ⟨rfl, rfl⟩ := List.cons.inj heq
            exact .inr (.inl ⟨mid, post, rfl, .inl ⟨rfl, h⟩⟩)

/-- The test answers whether the pattern describes some span of the text. -/
theorem occurs_iff (p : Pattern) (text : List Char) : p.occurs text ↔ p.Occurs text := by
  have h := occursFrom_iff p [] .none text
  rw [occurs, Occurs]
  refine h.trans ⟨?_, fun ⟨pre, mid, post, heq, hmatches⟩ => .inr ⟨pre, mid, post, heq, hmatches⟩⟩
  rintro (⟨mid, post, -, h⟩ | ⟨pre, mid, post, heq, hmatches⟩)
  · exact absurd h (not_leaves_none p _ _ _)
  · exact ⟨pre, mid, post, heq, hmatches⟩

end Pattern

end PrivacyAudit
