import PrivacyAudit.Proofs.Denotation

/-!
# What character sets hold

A set is kept as ranges in order with gaps between them, and is put together from ranges in whatever
order. Nothing is lost or added by that (`contains_ofRanges`), so a set and its complement divide
the characters (`contains_complement_ofRanges`), and the set of the case variants of a character
holds exactly these (`contains_caseVariants`).
-/

namespace PrivacyAudit

open Text (Ranges)

/-- The members of a list are looked at one by one, however many things of their kind there are. -/
theorem forall_mem_of_all {α : Type} {l : List α} {p : α → Prop} [DecidablePred p]
    (h : l.all (fun a => decide (p a)) = true) : ∀ a ∈ l, p a :=
  fun a ha => of_decide_eq_true (List.all_eq_true.mp h a ha)

namespace CharSet

/-- One of the ranges covers the code point. -/
def Covers (rs : List (Nat × Nat)) (n : Nat) : Prop := ∃ r ∈ rs, r.1 ≤ n ∧ n ≤ r.2

theorem covers_cons {r : Nat × Nat} {rs : List (Nat × Nat)} {n : Nat} :
    Covers (r :: rs) n ↔ (r.1 ≤ n ∧ n ≤ r.2) ∨ Covers rs n :=
  List.exists_mem_cons_iff ..

theorem sorted_cons {r : Nat × Nat} {rs : Ranges} :
    Ranges.Sorted (r :: rs) ↔ (∀ s ∈ rs, r.2 < s.1) ∧ r.1 ≤ r.2 ∧ Ranges.Sorted rs := by
  simp only [Ranges.Sorted, List.pairwise_cons, List.forall_mem_cons]
  tauto

/-! ## 1. Ranges joined -/

/-- A range put in front of others that begin no earlier leaves them in order and covers what it
covers. -/
theorem addFirst_spec {r : Nat × Nat} {rs : Ranges} (hr : r.1 ≤ r.2) (hrs : rs.Sorted)
    (hfirst : ∀ s ∈ rs, r.1 ≤ s.1) :
    Ranges.Sorted (addFirst r rs) ∧ (∀ s ∈ addFirst r rs, r.1 ≤ s.1) ∧
      ∀ n, Covers (addFirst r rs) n ↔ Covers (r :: rs) n := by
  induction rs generalizing r with
  | nil => exact ⟨sorted_cons.mpr ⟨by simp, hr, hrs⟩, by simp [addFirst], fun n => Iff.rfl⟩
  | cons s later ih =>
    obtain ⟨first, last⟩ := s
    obtain ⟨habove, hle, hlater⟩ := sorted_cons.mp hrs
    obtain ⟨hfirst, hfirstLater⟩ := List.forall_mem_cons.mp hfirst
    rw [addFirst]
    by_cases hjoins : first ≤ r.2 + 1
    · rw [if_pos hjoins]
      have hjoined : (r.1, max r.2 last).1 ≤ (r.1, max r.2 last).2 :=
        Nat.le_trans hr (Nat.le_max_left _ _)
      obtain ⟨hsorted, hbelow, hcovers⟩ := ih hjoined hlater hfirstLater
      refine ⟨hsorted, hbelow, fun n => ?_⟩
      rw [hcovers, covers_cons, covers_cons, covers_cons, ← or_assoc]
      dsimp only at hfirst hle ⊢
      refine or_congr_left ?_
      omega
    · rw [if_neg hjoins]
      refine ⟨sorted_cons.mpr ⟨fun s hs => ?_, hr, hrs⟩, fun s hs => ?_, fun n => Iff.rfl⟩
      · rcases List.mem_cons.mp hs with rfl | hs
        · dsimp only
          omega
        · have := habove s hs
          dsimp only at this hle
          omega
      · rcases List.mem_cons.mp hs with rfl | hs
        · exact Nat.le_refl _
        · rcases List.mem_cons.mp hs with rfl | hs
          · exact hfirst
          · exact hfirstLater s hs

theorem ofRanges_spec {rs : List (Nat × Nat)} (hrs : ∀ r ∈ rs, r.1 ≤ r.2) :
    (ofRanges rs).ranges.Sorted ∧ ∀ n, Covers (ofRanges rs).ranges n ↔ Covers rs n := by
  have hperm := List.mergeSort_perm rs fun r s => decide (r.1 ≤ s.1)
  have hfold : ∀ sorted : List (Nat × Nat), (sorted.Pairwise fun r s => r.1 ≤ s.1) →
      (∀ r ∈ sorted, r.1 ≤ r.2) → Ranges.Sorted (sorted.foldr addFirst []) ∧
        (∀ r, (∀ s ∈ sorted, r ≤ s.1) → ∀ s ∈ sorted.foldr addFirst [], r ≤ s.1) ∧
        ∀ n, Covers (sorted.foldr addFirst []) n ↔ Covers sorted n := by
    intro sorted
    induction sorted with
    | nil => exact fun _ _ => ⟨⟨.nil, by simp⟩, by simp, fun n => Iff.rfl⟩
    | cons r later ih =>
      intro hpairs hle
      obtain ⟨hfirst, hpairs⟩ := List.pairwise_cons.mp hpairs
      obtain ⟨hr, hle⟩ := List.forall_mem_cons.mp hle
      obtain ⟨hsorted, hbelow, hcovers⟩ := ih hpairs hle
      obtain ⟨hsorted', hbelow', hcovers'⟩ := addFirst_spec hr hsorted (hbelow r.1 hfirst)
      refine ⟨hsorted', fun m hm s hs => ?_, fun n => ?_⟩
      · exact Nat.le_trans (hm r List.mem_cons_self) (hbelow' s hs)
      · rw [List.foldr_cons, hcovers', covers_cons, covers_cons, hcovers]
  have hpairs : (rs.mergeSort fun r s => decide (r.1 ≤ s.1)).Pairwise fun r s => r.1 ≤ s.1 := by
    have hsorted : (rs.mergeSort fun r s => decide (r.1 ≤ s.1)).Pairwise fun r s =>
        decide (r.1 ≤ s.1) = true :=
      List.pairwise_mergeSort (by simp; omega) (by simp; omega) rs
    simpa using hsorted
  obtain ⟨hsorted, -, hcovers⟩ := hfold _ hpairs fun r hr => hrs r (hperm.mem_iff.mp hr)
  refine ⟨hsorted, fun n => (hcovers n).trans ?_⟩
  simp only [Covers, hperm.mem_iff]

/-- **A set holds what the ranges cover that it is made of.** -/
theorem contains_ofRanges {rs : List (Nat × Nat)} (hrs : ∀ r ∈ rs, r.1 ≤ r.2) (c : Char) :
    (ofRanges rs).contains c = true ↔ Covers rs c.toNat := by
  obtain ⟨hsorted, hcovers⟩ := ofRanges_spec hrs
  rw [contains, Ranges.holds_iff hsorted, ← hcovers]
  rfl

/-! ## 2. Complements -/

/-- The gaps between ranges that begin no earlier than `start` cover what is left of it. -/
theorem gaps_spec {last start : Nat} {rs : Ranges} (hrs : rs.Sorted)
    (hstart : ∀ r ∈ rs, start ≤ r.1) (hlast : ∀ r ∈ rs, r.2 ≤ last) :
    (gaps last start rs).Sorted ∧ (∀ r ∈ gaps last start rs, start ≤ r.1) ∧
      ∀ n, Covers (gaps last start rs) n ↔ (start ≤ n ∧ n ≤ last) ∧ ¬ Covers rs n := by
  induction rs generalizing start with
  | nil =>
    rw [gaps]
    split
    · rename_i hle
      exact ⟨sorted_cons.mpr ⟨by simp, hle, .nil, by simp⟩, by simp, by simp [Covers]⟩
    · rename_i hle
      refine ⟨⟨.nil, by simp⟩, by simp, fun n => ?_⟩
      simp only [Covers, List.not_mem_nil, false_and, exists_false, not_false_eq_true,
        and_true, false_iff]
      omega
  | cons r later ih =>
    obtain ⟨first, final⟩ := r
    obtain ⟨habove, hle, hlater⟩ := sorted_cons.mp hrs
    obtain ⟨hfirst, -⟩ := List.forall_mem_cons.mp hstart
    obtain ⟨hfinal, hfinals⟩ := List.forall_mem_cons.mp hlast
    dsimp only at habove hle hfirst hfinal
    obtain ⟨hsorted, hbelow, hcovers⟩ := ih hlater habove hfinals
    -- What is covered behind the first range is not covered by it.
    have hlow (n : Nat) (hn : Covers later n) : final < n := by
      obtain ⟨s, hs, hsn, -⟩ := hn
      exact Nat.lt_of_lt_of_le (habove s hs) hsn
    have hrest (n : Nat) : Covers (gaps last (final + 1) later) n ∨ (start ≤ n ∧ n < first) ↔
        (start ≤ n ∧ n ≤ last) ∧ ¬ Covers ((first, final) :: later) n := by
      rw [hcovers, covers_cons]
      by_cases hn : Covers later n
      · have := hlow n hn
        simp only [hn, not_true_eq_false, and_false, or_true, false_or, iff_false]
        omega
      · simp only [hn, not_false_eq_true, and_true, or_false]
        omega
    rw [gaps]
    split
    · rename_i hgap
      refine ⟨sorted_cons.mpr ⟨fun s hs =>
        ?_, by dsimp only; omega, hsorted⟩, fun s hs => ?_, fun n => ?_⟩
      · have := hbelow s hs
        dsimp only
        omega
      · rcases List.mem_cons.mp hs with rfl | hs
        · exact Nat.le_refl _
        · have := hbelow s hs
          omega
      · rw [covers_cons, ← hrest, or_comm]
        dsimp only
        refine or_congr_right ?_
        omega
    · rename_i hgap
      refine ⟨hsorted, fun s hs => ?_, fun n => ?_⟩
      · have := hbelow s hs
        omega
      · rw [← hrest]
        refine (or_iff_left ?_).symm
        omega

/-- **A set and its complement divide the characters.** -/
theorem contains_complement_ofRanges {rs : List (Nat × Nat)}
    (hrs : ∀ r ∈ rs, r.1 ≤ r.2 ∧ r.2 ≤ lastCodePoint) (c : Char) :
    (ofRanges rs).complement.contains c = true ↔ (ofRanges rs).contains c = false := by
  obtain ⟨hsorted, hcovers⟩ := ofRanges_spec fun r hr => (hrs r hr).1
  have hlast : ∀ r ∈ (ofRanges rs).ranges, r.2 ≤ lastCodePoint := by
    intro r hr
    obtain ⟨s, hs, -, hle⟩ := (hcovers r.2).mp ⟨r, hr, hsorted.2 r hr, Nat.le_refl _⟩
    exact Nat.le_trans hle (hrs s hs).2
  obtain ⟨hgaps, -, hspec⟩ := gaps_spec hsorted (fun r _ => Nat.zero_le r.1) hlast
  have hc := toNat_le_lastCodePoint c
  rw [← Bool.not_eq_true, contains, contains, Ranges.holds_iff hsorted, complement,
    Ranges.holds_iff hgaps]
  refine (hspec c.toNat).trans ?_
  simp [hc, Covers]

/-! ## 3. Case variants -/

/-- **The set of the case variants of a character holds exactly these.** -/
theorem contains_caseVariants (c d : Char) :
    (caseVariants c).contains d = true ↔ d.toNat ∈ Text.caseVariants c.toNat := by
  rw [caseVariants, contains_ofRanges (by simp)]
  simp only [Covers, List.mem_map]
  constructor
  · rintro ⟨r, ⟨n, hn, rfl⟩, hle, hge⟩
    rwa [Nat.le_antisymm hge hle]
  · intro hd
    exact ⟨_, ⟨_, hd, rfl⟩, Nat.le_refl _, Nat.le_refl _⟩

end CharSet

end PrivacyAudit
