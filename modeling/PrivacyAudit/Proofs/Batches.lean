import Mathlib.Data.List.Forall2
import PrivacyAudit.Schedule

/-!
# Work in batches

A run under a schedule lists results in the order in which they came about. `ShuffledWithin parts l`
says what may be said of such a list: it goes through the parts one by one, and only inside a part
the order is free. The main result is `Schedule.run_shuffled`: whatever the schedule, the results of
a run are those of the run in order, shuffled within the batches. So the arithmetic of numbers,
`batch * size` and on, is right for every number of pieces, also one that the size of the batches
does not divide: each number occurs once, beside the result of its own piece (`DoneInBatches`).
-/

namespace PrivacyAudit

/-! ## 1. Lists shuffled within parts -/

/-- The list goes through the parts one by one, through each of them in some order. -/
def ShuffledWithin {α : Type} (parts : List (List α)) (l : List α) : Prop :=
  ∃ shuffled : List (List α), List.Forall₂ List.Perm shuffled parts ∧ l = shuffled.flatten

namespace ShuffledWithin

variable {α β : Type} {parts : List (List α)} {l : List α}

theorem refl (parts : List (List α)) : ShuffledWithin parts parts.flatten :=
  ⟨parts, List.forall₂_same.mpr fun part _ => .refl part, rfl⟩

theorem nil : ShuffledWithin ([] : List (List α)) [] := ⟨[], .nil, rfl⟩

theorem cons {part done : List α} (h : done.Perm part) (hl : ShuffledWithin parts l) :
    ShuffledWithin (part :: parts) (done ++ l) := by
  obtain ⟨shuffled, hs, rfl⟩ := hl
  exact ⟨done :: shuffled, .cons h hs, rfl⟩

theorem perm (h : ShuffledWithin parts l) : l.Perm parts.flatten := by
  obtain ⟨shuffled, hs, rfl⟩ := h
  induction hs with
  | nil => exact .refl _
  | cons hp _ ih => exact hp.append ih

theorem map (f : α → β) (h : ShuffledWithin parts l) :
    ShuffledWithin (parts.map (List.map f)) (l.map f) := by
  obtain ⟨shuffled, hs, rfl⟩ := h
  refine ⟨shuffled.map (List.map f), ?_, List.map_flatten⟩
  rw [List.forall₂_map_left_iff, List.forall₂_map_right_iff]
  exact hs.imp fun _ _ hp => hp.map f

end ShuffledWithin

/-! ## 2. Batches -/

section Batches

variable {α β : Type} {size : Nat}

theorem batches_nil (size : Nat) : batches size ([] : List α) = [] := by
  rw [batches, if_pos (.inr rfl)]

theorem batches_of_ne_nil (hs : 0 < size) {pieces : List α} (hp : pieces ≠ []) :
    batches size pieces = pieces.take size :: batches size (pieces.drop size) := by
  have h : ¬ (size = 0 ∨ pieces = []) := by
    rintro (h0 | h0)
    · omega
    · exact hp h0
  rw [batches, if_neg h]

/-- Induction along the batches: nothing, or a batch and what is left behind it. -/
theorem batch_induction (hs : 0 < size) {motive : List α → Prop} (nil : motive [])
    (cons : ∀ pieces, pieces ≠ [] → motive (pieces.drop size) → motive pieces) (pieces : List α) :
    motive pieces := by
  induction hn : pieces.length using Nat.strongRecOn generalizing pieces with
  | ind n ih =>
    by_cases hp : pieces = []
    · exact hp ▸ nil
    · have hlen : 0 < pieces.length := List.length_pos_iff.mpr hp
      have hlt : (pieces.drop size).length < n := by
        rw [List.length_drop]
        omega
      exact cons pieces hp (ih _ hlt _ rfl)

theorem flatten_batches (hs : 0 < size) (pieces : List α) :
    (batches size pieces).flatten = pieces := by
  induction pieces using batch_induction hs with
  | nil => rw [batches_nil, List.flatten_nil]
  | cons pieces hp ih =>
    rw [batches_of_ne_nil hs hp, List.flatten_cons, ih, List.take_append_drop]

theorem batches_map (hs : 0 < size) (f : α → β) (pieces : List α) :
    batches size (pieces.map f) = (batches size pieces).map (List.map f) := by
  induction pieces using batch_induction hs with
  | nil => rw [List.map_nil, batches_nil, batches_nil, List.map_nil]
  | cons pieces hp ih =>
    have hp' : pieces.map f ≠ [] := fun h => hp (List.map_eq_nil_iff.mp h)
    rw [batches_of_ne_nil hs hp, batches_of_ne_nil hs hp', ← List.map_drop, ih, List.map_cons,
      List.map_take]

theorem take_zipIdx (pieces : List α) (n k : Nat) :
    (pieces.zipIdx k).take n = (pieces.take n).zipIdx k := by
  induction pieces generalizing n k with
  | nil => simp
  | cons p pieces ih =>
    cases n with
    | zero => rfl
    | succ n => rw [List.zipIdx_cons, List.take_succ_cons, ih, List.take_succ_cons,
        List.zipIdx_cons]

theorem drop_zipIdx (pieces : List α) (n k : Nat) :
    (pieces.zipIdx k).drop n = (pieces.drop n).zipIdx (k + n) := by
  induction pieces generalizing n k with
  | nil => simp
  | cons p pieces ih =>
    cases n with
    | zero => rfl
    | succ n =>
      rw [List.zipIdx_cons, List.drop_succ_cons, ih, List.drop_succ_cons, Nat.add_right_comm,
        Nat.add_assoc]

end Batches

/-! ## 3. Runs -/

namespace Schedule

variable {α β : Type} (s : Schedule)

theorem filterMap_range_getElem? (l : List α) : (List.range l.length).filterMap (l[·]?) = l := by
  induction l with
  | nil => rfl
  | cons a l ih =>
    rw [List.length_cons, List.range_succ_eq_map, List.filterMap_cons, List.getElem?_cons_zero,
      List.filterMap_map]
    show a :: List.filterMap (fun i => (a :: l)[i + 1]?) (List.range l.length) = a :: l
    simp only [List.getElem?_cons_succ, ih]

theorem arrange_perm (batch : Nat) (results : List α) : (s.arrange batch results).Perm results := by
  have h : (s.arrange batch results).Perm ((List.range results.length).filterMap (results[·]?)) :=
    (s.perm batch results.length).filterMap _
  rwa [filterMap_range_getElem?] at h

theorem runFrom_shuffled {size : Nat} (hs : 0 < size) (work : α → β) (pieces : List α)
    (batch : Nat) :
    ShuffledWithin
      (batches size ((pieces.zipIdx (batch * size)).map fun (piece, number) =>
        (number, work piece)))
      (s.runFrom size work batch (batches size pieces)) := by
  induction pieces using batch_induction hs generalizing batch with
  | nil =>
    rw [List.zipIdx_nil, List.map_nil, batches_nil, batches_nil]
    exact .nil
  | cons pieces hp ih =>
    rw [batches_map hs, batches_of_ne_nil hs hp,
      batches_of_ne_nil hs fun h => hp (List.zipIdx_eq_nil_iff.mp h), take_zipIdx, drop_zipIdx]
    have hnext : batch * size + size = (batch + 1) * size := (Nat.succ_mul batch size).symm
    rw [List.map_cons, hnext, ← batches_map hs]
    exact .cons (s.arrange_perm batch _) (ih (batch + 1))

/-- **The results of a run are those of the run in order, shuffled within the batches.** -/
theorem run_shuffled {size : Nat} (hs : 0 < size) (work : α → β) (pieces : List α) :
    ShuffledWithin (batches size (runInOrder work pieces)) (s.run size work pieces) := by
  have h := s.runFrom_shuffled hs work pieces 0
  rwa [Nat.zero_mul] at h

end Schedule

/-- What a list of numbered results says of a run in batches: all results are there, each once and
beside the number of its own piece, and only within a batch their order is free. -/
structure DoneInBatches {α β : Type} (size : Nat) (work : α → β) (pieces : List α)
    (done : List (Nat × β)) : Prop where
  shuffled : ShuffledWithin (batches size (runInOrder work pieces)) done
  numbers : (done.map (·.1)).Perm (List.range pieces.length)
  own : ∀ number result, (number, result) ∈ done → ∃ p, pieces[number]? = some p ∧ result = work p

section InOrder

variable {α β : Type} (work : α → β) (pieces : List α)

theorem numbers_runInOrder : (runInOrder work pieces).map (·.1) = List.range pieces.length := by
  unfold runInOrder
  rw [List.map_map, List.range_eq_range', ← List.zipIdx_map_snd 0 pieces]
  rfl

theorem mem_runInOrder_iff {number : Nat} {result : β} :
    (number, result) ∈ runInOrder work pieces ↔ ∃ p, pieces[number]? = some p ∧
    result = work p := by
  constructor
  · intro h
    obtain ⟨⟨p, n⟩, hp, he⟩ := List.mem_map.mp h
    obtain ⟨rfl, rfl⟩ := Prod.mk.inj he
    exact ⟨p, List.mem_zipIdx_iff_getElem?.mp hp, rfl⟩
  · rintro ⟨p, hp, rfl⟩
    exact List.mem_map.mpr ⟨(p, number), List.mem_zipIdx_iff_getElem?.mpr hp, rfl⟩

theorem DoneInBatches.of_shuffled {size : Nat} (hs : 0 < size) {done : List (Nat × β)}
    (h : ShuffledWithin (batches size (runInOrder work pieces)) done) :
    DoneInBatches size work pieces done where
  shuffled := h
  numbers := by
    have hp := h.perm.map (·.1)
    rwa [flatten_batches hs, numbers_runInOrder] at hp
  own number result hmem := by
    have hp := h.perm.mem_iff.mp hmem
    rw [flatten_batches hs] at hp
    exact (mem_runInOrder_iff work pieces).mp hp

end InOrder

end PrivacyAudit
