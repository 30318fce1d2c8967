import PrivacyAudit.Pattern.Search

/-!
# The search finds the first span that is preferred

A search holds many ways at once, drops those that have the same future as one before them, and
stops following others when one is done. What it is meant to find is said here without any of this:
the attempts of a pattern from a position on are all the ways to match, one after the other in the
order of preference (`attempts`), and what is wanted is the first attempt from the first position
that has any (`first?`).

* `nil_of_slots`: whether there are attempts does not depend on what was recorded before, so a way
  that is left with the patterns of one before it can be dropped;
* `head?_follow`, `head?_followAll`: what is held behind a step, and what was finished in it, begin
  with the same attempt as what was held in front of it;
* `find?_eq_first?`: so by induction on the text the search answers what is wanted.
-/

namespace PrivacyAudit.Pattern

/-! ## 1. Attempts -/

/-- The spans that a branch leads to, where `goOn` lists those of patterns that are read on from the
next character. -/
def Branch.spans (position : Nat) (slots : List (Nat × Nat))
    (goOn : List (Nat × Nat) → List Pattern → List Found) (b : Branch) : List Found :=
  match b.left? with
  | none => [.ofSlots (record position slots b.slots) position]
  | some left => goOn (record position slots b.slots) left

/-- The spans that patterns to be matched one after the other describe from a position on, in the
order of preference: first those of the first branch. -/
def attempts (before : Option Char) (position : Nat) (slots : List (Nat × Nat))
    (left : List Pattern) :
    List Char → List Found
  | [] => (advanceList before none left).flatMap (Branch.spans position slots fun _ _ => [])
  | c :: rest =>
    (advanceList before (some c) left).flatMap (Branch.spans position slots fun slots left =>
      attempts (some c) (position + 1) slots left rest)

/-- The attempts behind the next character; there are none at the end of the text. -/
def attemptsBehind (position : Nat) (text : List Char) (slots : List (Nat × Nat))
    (left : List Pattern) : List Found :=
  match text with
  | [] => []
  | c :: rest => attempts (some c) (position + 1) slots left rest

/-- The attempts of a pattern as a whole. -/
def attemptsOf (p : Pattern) (before : Option Char) (position : Nat) (text : List Char) :
    List Found :=
  attempts before position [(startSlot, position)] [p] text

/-- The first attempt from the first position that has any. -/
def first? (p : Pattern) (before : Option Char) (position : Nat) : List Char → Option Found
  | [] => (p.attemptsOf before position []).head?
  | c :: rest =>
    (p.attemptsOf before position (c :: rest)).head?.or (first? p (some c) (position + 1) rest)

variable {p : Pattern} {before next : Option Char} {position : Nat}
  {slots slots' : List (Nat × Nat)} {left : List Pattern} {text : List Char}

theorem attempts_eq_flatMap : attempts before position slots left text =
    (advanceList before text.head? left).flatMap
      (Branch.spans position slots (attemptsBehind position text)) := by
  cases text <;> rfl

/-- What was recorded before does not decide whether there are attempts, by induction on the
text. -/
theorem nil_of_slots (h : attempts before position slots left text = []) :
    attempts before position slots' left text = [] := by
  induction text generalizing before position slots slots' left with
  | nil =>
    rw [attempts, List.flatMap_eq_nil_iff] at h ⊢
    intro b hb
    have hbranch := h b hb
    unfold Branch.spans at hbranch ⊢
    cases hleft : b.left? with
    | none => simp [hleft] at hbranch
    | some left' => rfl
  | cons c rest ih =>
    rw [attempts, List.flatMap_eq_nil_iff] at h ⊢
    intro b hb
    have hbranch := h b hb
    unfold Branch.spans at hbranch ⊢
    cases hleft : b.left? with
    | none => simp [hleft] at hbranch
    | some left' =>
      simp only [hleft] at hbranch ⊢
      exact ih hbranch

theorem attemptsBehind_nil_of_slots (h : attemptsBehind position text slots left = []) :
    attemptsBehind position text slots' left = [] := by
  cases text with
  | nil => rfl
  | cons c rest => exact nil_of_slots h

/-! ## 2. What is held behind a step -/

section Step

variable (goOn : List (Nat × Nat) → List Pattern → List Found)

/-- The spans that ways lead to, the preferred ones first. -/
def spansOf (ways : List Way) : List Found := ways.flatMap fun w => goOn w.slots w.left

@[simp] theorem spansOf_nil : spansOf goOn [] = [] := rfl

theorem spansOf_append (ways ways' : List Way) :
    spansOf goOn (ways ++ ways') = spansOf goOn ways ++ spansOf goOn ways' :=
  List.flatMap_append

variable {goOn} (hslots : ∀ slots slots' left, goOn slots left = [] → goOn slots' left = [])

include hslots in
/-- A way that is not added has no attempt unless one of those before it has, and these are
preferred. -/
theorem head?_addWay (ways : List Way) (w : Way) (later : List Found) :
    (spansOf goOn (addWay ways w) ++ later).head? =
      (spansOf goOn ways ++ (goOn w.slots w.left ++ later)).head? := by
  unfold addWay
  split
  · rename_i hsame
    obtain ⟨v, hv, hleft⟩ := List.any_eq_true.mp hsame
    have hleft : v.left = w.left := eq_of_beq hleft
    rw [List.head?_append, List.head?_append]
    cases hspans : spansOf goOn ways with
    | cons found rest => rfl
    | nil =>
      have hv : goOn v.slots w.left = [] := hleft ▸ List.flatMap_eq_nil_iff.mp hspans v hv
      rw [hslots _ w.slots _ hv, List.nil_append]
  · rw [spansOf_append, List.append_assoc]
    simp [spansOf]

include hslots in
/-- Branches followed in their order: what is held then, or what was finished, begins with the same
attempt. -/
theorem head?_follow (position : Nat) (slots : List (Nat × Nat)) (bs : List Branch)
    (ways : List Way) : (spansOf goOn ways ++ bs.flatMap (Branch.spans position slots goOn)).head? =
      (spansOf goOn (follow position slots bs ways).1).head?.or
        ((follow position slots bs ways).2.map (Found.ofSlots · position)) := by
  induction bs generalizing ways with
  | nil => simp [follow]
  | cons b bs ih =>
    unfold follow
    cases hleft : b.left? with
    | none => simp [Branch.spans, hleft, List.head?_append]
    | some left =>
      have hspans : b.spans position slots goOn = goOn (record position slots b.slots) left := by
        simp only [Branch.spans, hleft]
      rw [List.flatMap_cons, hspans]
      exact (head?_addWay hslots ways ⟨_, left⟩ _).symm.trans (ih _)

include hslots in
/-- All ways followed in their order, by induction on the ways. -/
theorem head?_followAll (before next : Option Char) (position : Nat) (ws ways : List Way) :
    (spansOf goOn ways ++ ws.flatMap fun w =>
        (advanceList before next w.left).flatMap (Branch.spans position w.slots goOn)).head? =
      (spansOf goOn (followAll before next position ws ways).1).head?.or
        ((followAll before next position ws ways).2.map (Found.ofSlots · position)) := by
  induction ws generalizing ways with
  | nil => simp [followAll]
  | cons w ws ih =>
    have hstep := head?_follow hslots position w.slots (advanceList before next w.left) ways
    unfold followAll
    rw [List.flatMap_cons, ← List.append_assoc, List.head?_append, hstep]
    cases hfollow : follow position w.slots (advanceList before next w.left) ways with
    | mk ways' finished =>
      cases finished with
      | none => simpa [List.head?_append] using ih ways'
      | some slots => simp

end Step

/-! ## 3. The search -/

/-- The attempts of ways that stand at a position. -/
def attemptsOfWays (before : Option Char) (position : Nat) (text : List Char) (ways : List Way) :
    List Found :=
  spansOf (fun slots left => attempts before position slots left text) ways

theorem head?_attemptsOfWays (ways : List Way) :
    (attemptsOfWays before position text ways).head? =
      (spansOf (attemptsBehind position text)
        (followAll before text.head? position ways []).1).head?.or
          ((followAll before text.head? position ways []).2.map (Found.ofSlots · position)) := by
  have hslots : ∀ slots slots' left, attemptsBehind position text slots left = [] →
      attemptsBehind position text slots' left = [] := fun _ _ _ => attemptsBehind_nil_of_slots
  have hstep := head?_followAll hslots before text.head? position ways []
  rw [spansOf_nil, List.nil_append] at hstep
  rw [← hstep, attemptsOfWays, spansOf]
  simp only [attempts_eq_flatMap]

/-- The ways that are followed: a new one begins where nothing has been found yet. -/
theorem head?_attemptsOfWays_start (p : Pattern) (before : Option Char) (position : Nat)
    (text : List Char) (ways : List Way) (best : Option Found) :
    (attemptsOfWays before position text
        (if best.isNone then ways ++ [⟨[(startSlot, position)], [p]⟩] else ways)).head?.or best =
      (attemptsOfWays before position text ways).head?.or
        (best.or (p.attemptsOf before position text).head?) := by
  cases best with
  | some found => rfl
  | none =>
    simp only [Option.isNone_none, if_true, attemptsOfWays, spansOf_append, List.head?_append,
      Option.or_none, Option.none_or]
    simp [spansOf, attemptsOf]

/-- **A search goes on with the best of what it holds**: with the first attempt of its ways, else
with what it has found, else with the first attempt from a later position. -/
theorem findFrom_eq (ways : List Way) (best : Option Found) :
    findFrom p before position ways best text =
      (attemptsOfWays before position text ways).head?.or
        (best.or (first? p before position text)) := by
  induction text generalizing before position ways best with
  | nil =>
    have hstart := head?_attemptsOfWays_start p before position [] ways best
    rw [head?_attemptsOfWays] at hstart
    unfold findFrom first?
    rw [← hstart]
    -- Nothing is read on at the end, so only what was finished counts.
    have hnothing (held : List Way) : spansOf (attemptsBehind position []) held = [] :=
      List.flatMap_eq_nil_iff.mpr fun _ _ => rfl
    rw [hnothing, List.head?_nil, Option.none_or]
    dsimp only [List.head?_nil]
    split <;> rename_i hfollow <;> rw [hfollow] <;> rfl
  | cons c rest ih =>
    have hstart := head?_attemptsOfWays_start p before position (c :: rest) ways best
    rw [head?_attemptsOfWays] at hstart
    unfold findFrom first?
    simp only [← Option.or_assoc] at hstart ⊢
    rw [← hstart]
    dsimp only [List.head?_cons]
    generalize followAll before (some c) position _ [] = followed
    obtain ⟨held, finished⟩ := followed
    -- The search ends early only where no way is held and something has been found.
    have hbehind (best : Option Found) :
        (if held.isEmpty && best.isSome then best
          else findFrom p (some c) (position + 1) held best rest) =
          (spansOf (attemptsBehind position (c :: rest)) held).head?.or
            (best.or (first? p (some c) (position + 1) rest)) := by
      split
      · rename_i hdone
        obtain ⟨hheld, hbest⟩ := Bool.and_eq_true_iff.mp hdone
        obtain ⟨found, rfl⟩ := Option.isSome_iff_exists.mp hbest
        rw [List.isEmpty_iff.mp hheld]
        rfl
      · exact ih held best
    cases finished with
    | none => simpa [Option.or_assoc] using hbehind best
    | some slots => simpa [Option.or_assoc] using hbehind (some (.ofSlots slots position))

/-- **The search finds the first span that is preferred.** -/
theorem find?_eq_first? : find? p before position text = first? p before position text := by
  rw [find?, findFrom_eq]
  rfl

end PrivacyAudit.Pattern
