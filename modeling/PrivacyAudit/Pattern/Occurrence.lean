import PrivacyAudit.Pattern.Basic

/-!
# Does a pattern occur?

Whether a pattern describes some span of a text is decided by reading the text once. Between two
characters it is only kept which places inside the pattern have been reached: the sets that may just
have been read, and for a repetition with bounds in which round. `Pattern.out` tells whether a way
that enters the pattern here, or one that is inside, can leave it without reading; `Pattern.step`
answers the same and moves all ways over one character. Both walk through the pattern once, whatever
the number of ways.
-/

namespace PrivacyAudit

/-- The places inside a pattern that have been reached. For a sequence and a choice they are those
of the two parts; for a repetition, those of the first round and those of the later ones. -/
inductive Places
  | none
  /-- The set has just been read. -/
  | read
  | pair (first second : Places)
  deriving DecidableEq, Repr

namespace Places

/-- The places in the first part. -/
def first : Places → Places
  | .pair p _ => p
  | _ => .none

/-- The places in the second part. -/
def second : Places → Places
  | .pair _ q => q
  | _ => .none

/-- Whether no place has been reached. -/
def isNone : Places → Bool
  | .none => true
  | _ => false

/-- The places in two parts. -/
def join : Places → Places → Places
  | .none, .none => .none
  | p, q => .pair p q

end Places

namespace Pattern

/-- The number of rounds of a repetition that are told apart: all of them if their number is
limited, else those that are owed. -/
def rounds (least : Nat) : Option Nat → Nat
  | some most => most
  | none => least

/-- Whether a way can leave a repetition. The body's own answer is `body`; `owed` rounds must still
be made, `rounds` are told apart, and after those there may be any number of others if `endless`. -/
def outRounds (body : Bool → Places → Bool) (endless : Bool) :
    (owed rounds : Nat) → (entering : Bool) → Places → Bool
  | owed, 0, entering, places =>
    if endless then entering || body false places else entering && owed == 0
  | owed, rounds + 1, entering, places =>
    if !entering && places.isNone then false
    else (entering && owed == 0) ||
      outRounds body endless (owed - 1) rounds (body entering places.first) places.second

/-- Whether a way can leave the pattern between the characters `before` and `next`: one that enters
it here, if `entering`, or one that has reached a place inside. -/
def out (before next : Option Char) : Pattern → (entering : Bool) → Places → Bool
  | .empty, entering, _ => entering
  | .set _, _, places => !places.isNone
  | .look l, entering, _ => entering && l.holds before next
  | .mark _, entering, _ => entering
  | .seq p q, entering, places =>
    if !entering && places.isNone then false
    else out before next q (out before next p entering places.first) places.second
  | .alt p q, entering, places =>
    if !entering && places.isNone then false
    else out before next p entering places.first || out before next q entering places.second
  | .loop p least most _, entering, places =>
    outRounds (out before next p) most.isNone least (rounds least most) entering places

/-- What reading a character does: whether a way leaves the pattern in front of it, and the places
that are reached behind it. -/
structure Step where
  out : Bool
  places : Places
  deriving DecidableEq, Repr

/-- What reading a character does to a repetition; see `outRounds`. -/
def stepRounds (bodyOut : Bool → Places → Bool) (body : Bool → Places → Step) (endless : Bool) :
    (owed rounds : Nat) → (entering : Bool) → Places → Step
  | owed, 0, entering, places =>
    if endless then
      let again := entering || bodyOut false places
      ⟨again, (body again places).places⟩
    else ⟨entering && owed == 0, .none⟩
  | owed, rounds + 1, entering, places =>
    if !entering && places.isNone then ⟨false, .none⟩
    else
      let first := body entering places.first
      let later := stepRounds bodyOut body endless (owed - 1) rounds first.out places.second
      ⟨(entering && owed == 0) || later.out, first.places.join later.places⟩

/-- What reading the character `c` behind `before` does to ways that enter the pattern in front of
it, if `entering`, or are inside. -/
def step (before : Option Char) (c : Char) : Pattern → (entering : Bool) → Places → Step
  | .empty, entering, _ => ⟨entering, .none⟩
  | .set s, entering, places =>
    ⟨!places.isNone, if entering && s.contains c then .read else .none⟩
  | .look l, entering, _ => ⟨entering && l.holds before (some c), .none⟩
  | .mark _, entering, _ => ⟨entering, .none⟩
  | .seq p q, entering, places =>
    if !entering && places.isNone then ⟨false, .none⟩
    else
      let first := step before c p entering places.first
      let second := step before c q first.out places.second
      ⟨second.out, first.places.join second.places⟩
  | .alt p q, entering, places =>
    if !entering && places.isNone then ⟨false, .none⟩
    else
      let first := step before c p entering places.first
      let second := step before c q entering places.second
      ⟨first.out || second.out, first.places.join second.places⟩
  | .loop p least most _, entering, places =>
    stepRounds (out before (some c) p) (step before c p) most.isNone least
      (rounds least most) entering
      places

theorem stepRounds_out {bodyOut : Bool → Places → Bool} {body : Bool → Places → Step}
    (h : ∀ entering places, (body entering places).out = bodyOut entering places) (endless : Bool)
    (owed rounds : Nat) (entering : Bool) (places : Places) :
    (stepRounds bodyOut body endless owed rounds entering places).out =
      outRounds bodyOut endless owed rounds entering places := by
  induction rounds generalizing owed entering places with
  | zero => cases endless <;> rfl
  | succ rounds ih =>
    unfold stepRounds outRounds
    split
    · rfl
    · simp only [h, ih]

/-- A step leaves the pattern exactly when there is a way out. -/
theorem step_out (before : Option Char) (c : Char) (p : Pattern) (entering : Bool)
    (places : Places) :
    (p.step before c entering places).out = p.out before (some c) entering places := by
  induction p generalizing entering places with
  | empty | set | look | mark => rfl
  | seq p q ihp ihq =>
    unfold step out
    split
    · rfl
    · simp only [ihp, ihq]
  | alt p q ihp ihq =>
    unfold step out
    split
    · rfl
    · simp only [ihp, ihq]
  | loop p least most greedy ih => exact stepRounds_out ih _ _ _ _ _

/-- Whether a way that enters the pattern somewhere in the rest of the text, or has reached a place
inside, leaves it. -/
def occursFrom (p : Pattern) (before : Option Char) (places : Places) : List Char → Bool
  | [] => p.out before none true places
  | c :: rest =>
    let now := p.step before c true places
    now.out || occursFrom p (some c) now.places rest

/-- Whether the pattern describes some span of the text. -/
def occurs (p : Pattern) (text : List Char) : Bool := occursFrom p none .none text

end Pattern

end PrivacyAudit
