/-!
# Schedules

Work that is done side by side is divided into batches, and a batch begins when the one before it is
done. Within a batch nothing is said about the order in which the pieces are done: a schedule fixes
one. The results of a run stand in the order in which they came about, each with the number of its
piece.
-/

namespace PrivacyAudit

/-- An order of completion for every batch: a permutation of the numbers below its size. -/
structure Schedule where
  order : (batch size : Nat) → List Nat
  perm : ∀ batch size, (order batch size).Perm (List.range size)

/-- The schedule under which the pieces of a batch are done one after the other. -/
def Schedule.inOrder : Schedule := ⟨fun _ size => List.range size, fun _ _ => .refl _⟩

instance : Inhabited Schedule := ⟨.inOrder⟩

/-- The batches of a list: all of `size` pieces but the last, which may be shorter. -/
def batches {α : Type} (size : Nat) (pieces : List α) : List (List α) :=
  if size = 0 ∨ pieces = [] then []
  else pieces.take size :: batches size (pieces.drop size)
termination_by pieces.length
decreasing_by
  rename_i h
  have : pieces.length ≠ 0 := fun h0 => h (.inr (List.length_eq_zero_iff.1 h0))
  have : size ≠ 0 := fun h0 => h (.inl h0)
  simp only [List.length_drop]
  omega

namespace Schedule

/-- The members of a batch in the order in which they are done. -/
def arrange {α : Type} (s : Schedule) (batch : Nat) (results : List α) : List α :=
  (s.order batch results.length).filterMap (results[·]?)

/-- The results of batches of `size` pieces, from the batch of number `batch` on. The pieces are
numbered through, so the first piece of a batch has the number `batch * size`. -/
def runFrom {α β : Type} (s : Schedule) (size : Nat) (work : α → β) (batch : Nat) :
    List (List α) → List (Nat × β)
  | [] => []
  | b :: bs =>
    let results := (b.zipIdx (batch * size)).map fun (piece, number) => (number, work piece)
    s.arrange batch results ++ s.runFrom size work (batch + 1) bs

/-- The results of pieces that are done in batches of `size`, each with the number of its piece. -/
def run {α β : Type} (s : Schedule) (size : Nat) (work : α → β) (pieces : List α) :
    List (Nat × β) :=
  s.runFrom size work 0 (batches size pieces)

end Schedule

/-- The results of pieces that are done one after the other, each with the number of its piece. -/
def runInOrder {α β : Type} (work : α → β) (pieces : List α) : List (Nat × β) :=
  pieces.zipIdx.map fun (piece, number) => (number, work piece)

end PrivacyAudit
