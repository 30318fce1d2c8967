/-!
# Sets of code points as sorted ranges

A Unicode property is a set of code points, and the tables of this library write such a set as the
sorted list of its maximal ranges, both ends included. `Ranges.holds` looks a code point up and
stops at the first range that begins after it.
-/

namespace PrivacyAudit.Text

/-- The maximal ranges of a set of code points, in ascending order, both ends included. -/
abbrev Ranges := List (Nat × Nat)

/-- Whether a code point lies in one of the ranges; the search ends at the first range above it. -/
def Ranges.holds : Ranges → Nat → Bool
  | [], _ => false
  | (first, last) :: later, c => if c < first then false else c ≤ last || Ranges.holds later c

/-- Every range is in order and every later range lies strictly above it. -/
def Ranges.Sorted (rs : Ranges) : Prop :=
  rs.Pairwise (fun r s => r.2 < s.1) ∧ ∀ r ∈ rs, r.1 ≤ r.2

/-- In a sorted list the early stop loses nothing: the look-up finds exactly the members. -/
theorem Ranges.holds_iff {rs : Ranges} (h : rs.Sorted) {c : Nat} :
    rs.holds c = true ↔ ∃ r ∈ rs, r.1 ≤ c ∧ c ≤ r.2 := by
  induction rs with
  | nil => simp [Ranges.holds]
  | cons r later ih =>
    obtain ⟨first, last⟩ := r
    obtain ⟨hp, hle⟩ := h
    have hlater : Ranges.Sorted later :=
      ⟨(List.pairwise_cons.1 hp).2, fun s hs => hle s (List.mem_cons_of_mem _ hs)⟩
    have habove : ∀ s ∈ later, last < s.1 := (List.pairwise_cons.1 hp).1
    have hfl : first ≤ last := hle _ List.mem_cons_self
    unfold Ranges.holds
    by_cases hc : c < first
    · simp only [hc, if_true, Bool.false_eq_true, false_iff]
      rintro ⟨s, hs, h1, _⟩
      rcases List.mem_cons.1 hs with rfl | hs
      · exact absurd h1 (by simpa using hc)
      · have := habove s hs
        omega
    · rw [if_neg hc, Bool.or_eq_true, ih hlater]
      constructor
      · rintro (h1 | ⟨s, hs, h1⟩)
        · exact ⟨_, List.mem_cons_self, by simpa using hc, by simpa using h1⟩
        · exact ⟨s, List.mem_cons_of_mem _ hs, h1⟩
      · rintro ⟨s, hs, h1, h2⟩
        rcases List.mem_cons.1 hs with rfl | hs
        · exact Or.inl (by simpa using h2)
        · exact Or.inr ⟨s, hs, h1, h2⟩

end PrivacyAudit.Text
