import Mathlib.Data.List.Forall2
import PrivacyAudit.Proofs.Preferring

/-!
# What patterns attempt

The attempts of a pattern in front of others, constructor by constructor: a repetition whose body
reads makes one more round first and is left after that (`attempts_loop_more`), a choice is its
members one after the other (`attempts_alt`).
-/

namespace PrivacyAudit.Pattern

variable {p q : Pattern} {ps ps' qs : List Pattern} {before : Option Char} {position : Nat}
  {slots : List (Nat × Nat)} {text rest : List Char}

/-! ## 1. Constructor by constructor -/

/-- What a branch leads to in front of other patterns. -/
def Branch.attemptsThen (before : Option Char) (position : Nat) (slots : List (Nat × Nat))
    (ps : List Pattern) (text : List Char) (b : Branch) : List Found :=
  match b.left? with
  | none => attempts before position (record position slots b.slots) ps text
  | some left => attemptsBehind position text (record position slots b.slots) (left ++ ps)

theorem attempts_nil : attempts before position slots [] text = [.ofSlots slots position] := by
  rw [attempts_eq_flatMap]
  rfl

theorem spans_after (read : List Nat) (goOn : List (Nat × Nat) → List Pattern → List Found)
    (b : Branch) :
    (b.after read).spans position slots goOn =
      b.spans position (record position slots read) goOn := by
  unfold Branch.spans Branch.after record
  simp only [List.foldl_append]

theorem attempts_cons : attempts before position slots (p :: ps) text =
    (advance before text.head? p).flatMap (Branch.attemptsThen before position slots ps text) := by
  rw [attempts_eq_flatMap, advanceList, List.flatMap_assoc]
  refine List.flatMap_congr fun b _ => ?_
  unfold Branch.attemptsThen Branch.readsThen?
  cases b.left? with
  | none =>
    rw [attempts_eq_flatMap]
    simp only [Option.map_none, List.flatMap_map, spans_after]
  | some left => simp [Branch.spans]

theorem attempts_append : attempts before position slots (qs ++ ps) text =
    (advanceList before text.head? qs).flatMap
      (Branch.attemptsThen before position slots ps text) := by
  induction qs generalizing slots with
  | nil =>
    rw [List.nil_append]
    exact (List.append_nil _).symm
  | cons q qs ih =>
    rw [List.cons_append, attempts_cons, advanceList, List.flatMap_assoc]
    refine List.flatMap_congr fun b _ => ?_
    unfold Branch.attemptsThen Branch.readsThen?
    cases hleft : b.left? with
    | none =>
      simp only [Option.map_none, List.flatMap_map]
      rw [ih]
      refine List.flatMap_congr fun b' _ => ?_
      unfold Branch.attemptsThen Branch.after record
      simp only [List.foldl_append]
    | some left => simp

/-- Two lists of patterns with the same attempts everywhere. -/
def SameAttempts (ps ps' : List Pattern) : Prop :=
  ∀ before position slots text, attempts before position slots ps text =
  attempts before position slots ps' text

/-- In front of others it makes no difference either, by induction on the text. -/
theorem SameAttempts.append (h : SameAttempts ps ps') (qs : List Pattern) :
    SameAttempts (qs ++ ps) (qs ++ ps') := by
  intro before position slots text
  induction text generalizing before position slots qs with
  | nil =>
    rw [attempts_append, attempts_append]
    refine List.flatMap_congr fun b _ => ?_
    unfold Branch.attemptsThen
    split
    · exact h _ _ _ _
    · rfl
  | cons c rest ih =>
    rw [attempts_append, attempts_append]
    refine List.flatMap_congr fun b _ => ?_
    unfold Branch.attemptsThen
    split
    · exact h _ _ _ _
    · exact ih _ _ _ _

theorem SameAttempts.cons (h : SameAttempts ps ps') (q : Pattern) :
    SameAttempts (q :: ps) (q :: ps') :=
  h.append [q]

theorem attempts_empty : SameAttempts (.empty :: ps) ps := by
  intro before position slots text
  rw [attempts_cons]
  exact List.append_nil _

theorem attempts_set_cons {s : CharSet} {c : Char} :
    attempts before position slots (.set s :: ps) (c :: rest) =
      if s.contains c = true then attempts (some c) (position + 1) slots ps rest else [] := by
  rw [attempts_cons]
  show List.flatMap _ (if s.contains c then _ else _) = _
  split
  · exact List.append_nil _
  · rfl

theorem attempts_set_nil {s : CharSet} : attempts before position slots (.set s :: ps) [] = [] := by
  rw [attempts_cons]
  rfl

theorem attempts_look {l : Look} : attempts before position slots (.look l :: ps) text =
    if l.holds before text.head? = true then attempts before position slots ps text else [] := by
  rw [attempts_cons, advance]
  split
  · exact List.append_nil _
  · rfl

theorem attempts_mark {k : Nat} : attempts before position slots (.mark k :: ps) text =
    attempts before position ((k, position) :: slots) ps text := by
  rw [attempts_cons]
  exact List.append_nil _

theorem advance_seq {next : Option Char} :
    advance before next (.seq p q) = (advance before next p).flatMap fun b =>
    match b.readsThen? [q] with
    | none => (advance before next q).map (Branch.after b.slots)
    | some b => [b] := by
  rw [advance]
  split
  · rename_i hnone
    rw [hnone]
    rfl
  · rfl

theorem attempts_seq : SameAttempts (.seq p q :: ps) (p :: q :: ps) := by
  intro before position slots text
  rw [attempts_cons, attempts_cons, advance_seq, List.flatMap_assoc]
  refine List.flatMap_congr fun b _ => ?_
  unfold Branch.readsThen? Branch.attemptsThen
  cases b.left? with
  | none =>
    rw [attempts_cons]
    simp only [Option.map_none, List.flatMap_map]
    refine List.flatMap_congr fun b' _ => ?_
    unfold Branch.attemptsThen Branch.after record
    simp only [List.foldl_append]
  | some left => simp

/-- Parts one after the other. -/
theorem attempts_sequence (qs : List Pattern) : SameAttempts (.sequence qs :: ps) (qs ++ ps) := by
  induction qs with
  | nil => exact attempts_empty
  | cons q qs ih =>
    cases qs with
    | nil => exact fun _ _ _ _ => rfl
    | cons q' qs =>
      intro before position slots text
      rw [sequence]
      · exact (attempts_seq _ _ _ _).trans (ih.cons q _ _ _ _)
      · simp

theorem attempts_group {k : Nat} : attempts before position slots (.group k p :: ps) text =
    attempts before position ((2 * k, position) :: slots) (p :: .mark (2 * k + 1) :: ps) text := by
  rw [group, attempts_seq, attempts_mark, attempts_seq]

/-! ## 2. Parts that read -/

/-- The pattern reads a character before it is done. -/
def Reads (p : Pattern) : Prop := ∀ before next, ∀ b ∈ advance before next p, b.left?.isSome = true

theorem reads_set (s : CharSet) : Reads (.set s) := by
  intro before next b hb
  unfold advance at hb
  cases next with
  | none => cases hb
  | some c =>
    dsimp only at hb
    split at hb
    · rw [List.mem_singleton.mp hb]
      rfl
    · cases hb

theorem Reads.seq (h : p.Reads ∨ q.Reads) : Reads (.seq p q) := by
  intro before next b hb
  rw [advance_seq] at hb
  obtain ⟨first, hfirst, hb⟩ := List.mem_flatMap.mp hb
  unfold Branch.readsThen? at hb
  cases hleft : first.left? with
  | none =>
    rw [hleft] at hb
    obtain ⟨second, hsecond, rfl⟩ := List.mem_map.mp hb
    rcases h with hp | hq
    · have hreads := hp before next first hfirst
      rw [hleft] at hreads
      cases hreads
    · exact hq before next second hsecond
  | some left =>
    rw [hleft] at hb
    rw [List.mem_singleton.mp hb]
    rfl

theorem Reads.sequence (h : ∃ p ∈ ps, p.Reads) : Reads (.sequence ps) := by
  induction ps with
  | nil => simp at h
  | cons p ps ih =>
    rw [List.exists_mem_cons_iff] at h
    cases ps with
    | nil => exact h.resolve_right (by simp)
    | cons q ps =>
      rw [Pattern.sequence]
      · exact .seq (h.imp_right ih)
      · simp

/-- A choice whose first member reads is its members one after the other. -/
theorem attempts_alt (hp : p.Reads) : attempts before position slots (.alt p q :: ps) text =
    attempts before position slots (p :: ps) text ++
    attempts before position slots (q :: ps) text := by
  have hnone : (advance before text.head? p).any Branch.finishes = false := by
    rw [List.any_eq_false]
    intro b hb
    rw [Branch.finishes, Option.isNone_iff_eq_none]
    exact Option.isSome_iff_ne_none.mp (hp before text.head? b hb)
  rw [attempts_cons, attempts_cons, attempts_cons, advance, Branch.orElse, hnone,
    if_neg Bool.false_ne_true, List.flatMap_append]

theorem attempts_loop_done {greedy : Bool} : SameAttempts (.loop p 0 (some 0) greedy :: ps) ps := by
  intro before position slots text
  rw [attempts_cons, advance, advanceLoop, if_pos rfl]
  exact List.append_nil _

/-- One more round of a body that reads. -/
theorem attempts_round (hp : p.Reads) (again : Pattern) :
    ((advance before text.head? p).filterMap (Branch.readsThen? [again])).flatMap
        (Branch.attemptsThen before position slots ps text) =
      attempts before position slots (p :: again :: ps) text := by
  rw [attempts_cons, List.filterMap_eq_flatMap_toList, List.flatMap_assoc]
  refine List.flatMap_congr fun b hb => ?_
  obtain ⟨left, hleft⟩ := Option.isSome_iff_exists.mp (hp before text.head? b hb)
  simp [Branch.readsThen?, Branch.attemptsThen, hleft]

/-- A greedy repetition makes one more round, or is left. -/
theorem attempts_loop_more (hp : p.Reads) {most : Option Nat} (hmost : most ≠ some 0) :
    attempts before position slots (.loop p 0 most true :: ps) text =
      attempts before position slots (p :: .loop p 0 (most.map (· - 1)) true :: ps) text ++
        attempts before position slots ps text := by
  rw [attempts_cons, advance, advanceLoop, if_neg hmost, if_pos rfl, List.flatMap_append,
    attempts_round hp]
  refine congrArg _ ?_
  exact List.append_nil _

/-- A repetition that owes a round makes it. -/
theorem attempts_loop_owed (hp : p.Reads) {least : Nat} {most : Option Nat} {greedy : Bool}
    (hmost : most ≠ some 0) :
    attempts before position slots (.loop p (least + 1) most greedy :: ps) text =
      attempts before position slots (p :: .loop p least (most.map (· - 1)) greedy :: ps) text := by
  rw [attempts_cons, advance, advanceLoop, if_neg hmost, ← attempts_round hp,
    List.filterMap_eq_flatMap_toList, List.flatMap_assoc, List.flatMap_assoc]
  refine List.flatMap_congr fun b hb => ?_
  obtain ⟨left, hleft⟩ := Option.isSome_iff_exists.mp (hp before text.head? b hb)
  simp [Branch.readsThen?, hleft]

theorem attempts_optional (hp : p.Reads) : attempts before position slots (.optional p :: ps) text =
    attempts before position slots (p :: ps) text ++ attempts before position slots ps text := by
  rw [optional, attempts_loop_more hp (by simp)]
  exact congrArg (· ++ _) (attempts_loop_done.cons p _ _ _ _)

theorem attempts_many1 (hp : p.Reads) : attempts before position slots (.many1 p :: ps) text =
    attempts before position slots (p :: .many p :: ps) text :=
  attempts_loop_owed hp (by simp)

/-- Any number of characters of a set: the next one, if it is one of them, or none. -/
theorem attempts_many_set_cons {s : CharSet} {c : Char} :
    attempts before position slots (.many (.set s) :: ps) (c :: rest) =
      (if s.contains c =
        true then attempts (some c) (position + 1) slots (.many (.set s) :: ps) rest else []) ++
        attempts before position slots ps (c :: rest) := by
  rw [many, attempts_loop_more (reads_set s) (by simp), attempts_set_cons]
  rfl

/-! ## 3. Characters one after the other -/

/-- The character in front of a position behind which a text was read. -/
def lastRead (before : Option Char) (read : List Char) : Option Char :=
  read.foldl (fun _ c => some c) before

@[simp] theorem lastRead_nil : lastRead before [] = before := rfl

@[simp] theorem lastRead_cons (c : Char) (read : List Char) :
    lastRead before (c :: read) = lastRead (some c) read := rfl

@[simp] theorem lastRead_append (read read' : List Char) :
    lastRead before (read ++ read') = lastRead (lastRead before read) read' :=
  List.foldl_append

/-- The sets hold the characters of a text, one by one. -/
def Read (sets : List CharSet) (read : List Char) : Prop :=
  List.Forall₂ (fun s c => s.contains c = true) sets read

theorem attempts_sets {sets : List CharSet} {read : List Char} (h : Read sets read) :
    attempts before position slots (sets.map .set ++ ps) (read ++ rest) =
      attempts (lastRead before read) (position + read.length) slots ps rest := by
  induction h generalizing before position with
  | nil => rfl
  | @cons s c sets read hc _ ih =>
    rw [List.map_cons, List.cons_append, List.cons_append, attempts_set_cons, if_pos hc, ih,
      lastRead_cons, List.length_cons, Nat.add_assoc, Nat.add_comm 1]

/-- Where sets attempt something, they have read characters of theirs. -/
theorem exists_read {sets : List CharSet}
    (h : attempts before position slots (sets.map .set ++ ps) text ≠ []) :
    ∃ read rest, text = read ++ rest ∧ Read sets read ∧
      attempts (lastRead before read) (position + read.length) slots ps rest ≠ [] := by
  induction sets generalizing before position text with
  | nil => exact ⟨[], text, rfl, .nil, h⟩
  | cons s sets ih =>
    cases text with
    | nil => exact absurd attempts_set_nil h
    | cons c rest =>
      rw [List.map_cons, List.cons_append, attempts_set_cons] at h
      split at h
      · rename_i hc
        obtain ⟨read, rest, rfl, hread, hattempts⟩ := ih h
        refine ⟨c :: read, rest, rfl, .cons hc hread, ?_⟩
        rwa [lastRead_cons, List.length_cons, Nat.add_comm read.length, ← Nat.add_assoc]
      · exact absurd rfl h

/-! ## 4. Runs -/

section Runs

variable {s : CharSet} {run : List Char}

/-- A run is read on where nothing that is to follow begins in it. -/
theorem attempts_run (hrun : ∀ c ∈ run, s.contains c = true)
    (hnone : ∀ a b, run = a ++ b → b ≠ [] →
      ∀ before position slots, attempts before position slots ps (b ++ rest) = []) :
    attempts before position slots (.many (.set s) :: ps) (run ++ rest) =
      attempts (lastRead before run) (position + run.length) slots (.many (.set s) :: ps) rest := by
  induction run generalizing before position with
  | nil => rfl
  | cons c run ih =>
    obtain ⟨hc, hrun⟩ := List.forall_mem_cons.mp hrun
    have hbehind : ∀ a b, run = a ++ b → b ≠ [] →
        ∀ before position slots, attempts before position slots ps (b ++ rest) = [] :=
      fun a b hab => hnone (c :: a) b (by rw [hab, List.cons_append])
    have hhere := hnone [] (c :: run) rfl (List.cons_ne_nil _ _) before position slots
    rw [List.cons_append] at hhere ⊢
    rw [attempts_many_set_cons, if_pos hc, hhere, List.append_nil, ih hrun hbehind, lastRead_cons,
      List.length_cons, Nat.add_assoc, Nat.add_comm 1]

/-- Where something follows behind a run, the last place for it is preferred. -/
theorem head?_attempts_run (hrun : ∀ c ∈ run, s.contains c = true)
    (hsome : attempts (lastRead before run) (position + run.length) slots
      (.many (.set s) :: ps) rest ≠ []) :
    (attempts before position slots (.many (.set s) :: ps) (run ++ rest)).head? =
      (attempts (lastRead before run) (position + run.length) slots
        (.many (.set s) :: ps) rest).head? := by
  induction run generalizing before position with
  | nil => rfl
  | cons c run ih =>
    obtain ⟨hc, hrun⟩ := List.forall_mem_cons.mp hrun
    rw [lastRead_cons, List.length_cons, Nat.add_comm run.length, ← Nat.add_assoc] at hsome ⊢
    have hbehind := ih hrun hsome
    rw [List.cons_append, attempts_many_set_cons, if_pos hc, List.head?_append, hbehind]
    obtain ⟨found, hfound⟩ := Option.isSome_iff_exists.mp (List.isSome_head?.mpr hsome)
    rw [hfound]
    rfl

/-- A run ends in front of a character that is not of the set. -/
theorem attempts_run_ends {c : Char} (hc : s.contains c = false) :
    attempts before position slots (.many (.set s) :: ps) (c :: rest) =
      attempts before position slots ps (c :: rest) := by
  rw [attempts_many_set_cons, if_neg (by simp [hc]), List.nil_append]

/-- A run up to a character that is asked for and that the run cannot hold. -/
theorem attempts_run_until {t : CharSet} {c : Char}
    (hrun : ∀ c ∈ run, s.contains c = true ∧ t.contains c = false) (hc : s.contains c = false) :
    attempts before position slots (.many (.set s) :: .set t :: ps) (run ++ c :: rest) =
      attempts (lastRead before run) (position + run.length) slots (.set t :: ps) (c :: rest) := by
  rw [attempts_run (fun c hc => (hrun c hc).1), attempts_run_ends hc]
  rintro a b rfl hb before position slots
  obtain ⟨d, b, rfl⟩ := List.exists_cons_of_ne_nil hb
  have hd := (hrun d (List.mem_append_right _ List.mem_cons_self)).2
  rw [List.cons_append, attempts_set_cons, if_neg (by simp [hd])]

end Runs

end PrivacyAudit.Pattern
