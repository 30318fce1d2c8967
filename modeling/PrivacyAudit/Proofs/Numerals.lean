import Mathlib.Data.Nat.Digits.Lemmas
import PrivacyAudit.Numeral.Base36
import PrivacyAudit.Numeral.Count

/-!
# Numerals and what they stand for

A numeral in base 36 is written without leading zeros, so there is one for each number: the one that
`base36` writes (`isNumeral_iff`). It has as many signs as the number has digits
(`length_base36_le_iff`).

A count is read from decimal digits, perhaps behind a plus sign; leading zeros do no harm, and a
number that does not fit into 64 bits is none (`readCount_eq_some_iff`).
-/

namespace PrivacyAudit.Numeral

/-! ## 1. Digits -/

/-- Digits stand for the number that they stand for when they are read from the other end. -/
theorem ofDigits_eq (base : Nat) (ds : List Nat) :
    ofDigits base ds = Nat.ofDigits base ds.reverse := by
  rw [ofDigits, Nat.ofDigits_eq_foldr, List.foldr_reverse]
  simp only [Nat.cast_id, Nat.mul_comm base, Nat.add_comm]

/-- The digits of a number above zero. -/
theorem digitsFrom_eq {base : Nat} (hbase : 1 < base) {fuel n : Nat} (hfuel : n ≤ fuel)
    (hpos : 0 < n) : digitsFrom base fuel n = (Nat.digits base n).reverse := by
  induction fuel generalizing n with
  | zero => omega
  | succ fuel ih =>
    rw [digitsFrom]
    split
    · next hlt => rw [Nat.digits_of_lt base n (Nat.ne_of_gt hpos) hlt, List.reverse_singleton]
    · next hle =>
      have hless : n / base < n := Nat.div_lt_self hpos hbase
      have hmore : 0 < n / base := Nat.div_pos (Nat.le_of_not_lt hle) (by omega)
      rw [ih (by omega) hmore, Nat.digits_def' hbase hpos, List.reverse_cons]

/-! ## 2. Numerals in base 36 -/

/-- The value of a sign: a figure or a small letter. -/
def digitValue? (c : Char) : Option Nat :=
  if '0' ≤ c ∧ c ≤ '9' then some (c.toNat - '0'.toNat)
  else if 'a' ≤ c ∧ c ≤ 'z' then some (c.toNat - 'a'.toNat + 10)
  else none

/-- The number that a text in base 36 stands for. -/
def readBase36 (s : String) : Option Nat :=
  if s.toList = [] then none else (s.toList.mapM digitValue?).map (ofDigits 36)

/-- The text stands for the number, and its first sign is no zero unless it is the only one. -/
structure IsNumeral (n : Nat) (s : String) : Prop where
  reads : readBase36 s = some n
  noLeadingZero : s.toList.head? = some '0' → s = "0"

theorem digitValue?_digitChar {d : Nat} (h : d < 36) : digitValue? (digitChar d) = some d := by
  revert d
  decide +kernel

theorem digitValue?_eq_some_iff {c : Char} {d : Nat} :
    digitValue? c = some d ↔ d < 36 ∧ c = digitChar d := by
  constructor
  · intro h
    have hle : ∀ c c' : Char, c ≤ c' ↔ c.toNat ≤ c'.toNat := fun _ _ => UInt32.le_iff_toNat_le
    have h0 : '0'.toNat = 0x30 := rfl
    have h9 : '9'.toNat = 0x39 := rfl
    have ha : 'a'.toNat = 0x61 := rfl
    have hz : 'z'.toNat = 0x7A := rfl
    unfold digitValue? at h
    simp only [hle, h0, h9, ha, hz] at h
    split at h
    · next hfigure =>
      have hd : c.toNat - 0x30 = d := Option.some.inj h
      have hc : 0x30 + d = c.toNat := by omega
      refine ⟨by omega, ?_⟩
      rw [digitChar, if_pos (by omega), hc, Char.ofNat_toNat]
    · split at h
      · next hletter =>
        have hd : c.toNat - 0x61 + 10 = d := Option.some.inj h
        have hc : 0x57 + d = c.toNat := by omega
        refine ⟨by omega, ?_⟩
        rw [digitChar, if_neg (by omega), hc, Char.ofNat_toNat]
      · cases h
  · intro h
    obtain ⟨hd, rfl⟩ := h
    exact digitValue?_digitChar hd

/-- The signs of a text have values if they are the signs of digits. -/
theorem mapM_digitValue?_eq_some_iff {cs : List Char} {ds : List Nat} :
    cs.mapM digitValue? = some ds ↔ (∀ d ∈ ds, d < 36) ∧ cs = ds.map digitChar := by
  induction cs generalizing ds with
  | nil => cases ds <;> simp
  | cons c cs ih =>
    rw [List.mapM_cons]
    cases ds with
    | nil =>
      cases digitValue? c with
      | none => simp
      | some d => cases cs.mapM digitValue? <;> simp
    | cons d ds =>
      rw [List.map_cons, List.cons.injEq, List.forall_mem_cons, and_and_and_comm, ← ih,
        ← digitValue?_eq_some_iff]
      cases digitValue? c with
      | none => simp
      | some d' => cases cs.mapM digitValue? <;> simp

/-- A text stands for what its digits stand for. -/
theorem readBase36_eq_some_iff {s : String} {n : Nat} :
    readBase36 s = some n ↔ ∃ ds, ds ≠ [] ∧ (∀ d ∈ ds, d < 36) ∧ s.toList = ds.map digitChar ∧
      ofDigits 36 ds = n := by
  unfold readBase36
  split
  · next hnil =>
    refine iff_of_false (fun h => nomatch h) fun h => ?_
    obtain ⟨ds, hds, -, hsigns, -⟩ := h
    exact hds (List.map_eq_nil_iff.mp (hsigns.symm.trans hnil))
  · next hsome =>
    simp only [Option.map_eq_some_iff, mapM_digitValue?_eq_some_iff]
    constructor
    · intro h
      obtain ⟨ds, ⟨hlt, hsigns⟩, hvalue⟩ := h
      exact ⟨ds, fun hnil => hsome (by rw [hsigns, hnil, List.map_nil]), hlt, hsigns, hvalue⟩
    · intro h
      obtain ⟨ds, -, hlt, hsigns, hvalue⟩ := h
      exact ⟨ds, ⟨hlt, hsigns⟩, hvalue⟩

theorem toList_base36 {n : Nat} (h : 0 < n) :
    (base36 n).toList = (Nat.digits 36 n).reverse.map digitChar := by
  rw [base36, String.toList_ofList, digitsFrom_eq (by decide) (Nat.le_refl n) h]

/-- The only digit that is written as a zero is zero. -/
theorem digitChar_eq_zero {d : Nat} (hd : d < 36) (h : digitChar d = '0') : d = 0 := by
  have hvalue := digitValue?_digitChar hd
  rw [h] at hvalue
  exact (Option.some.inj hvalue).symm

theorem readBase36_base36 (n : Nat) : readBase36 (base36 n) = some n := by
  rcases Nat.eq_zero_or_pos n with rfl | hpos
  · decide
  · refine readBase36_eq_some_iff.mpr ⟨(Nat.digits 36 n).reverse, ?_, fun d hd => ?_,
      toList_base36 hpos, ?_⟩
    · rw [ne_eq, List.reverse_eq_nil_iff, Nat.digits_eq_nil_iff_eq_zero]
      omega
    · exact Nat.digits_lt_base (by decide) (List.mem_reverse.mp hd)
    · rw [ofDigits_eq, List.reverse_reverse, Nat.ofDigits_digits]

theorem isNumeral_base36 (n : Nat) : IsNumeral n (base36 n) := by
  refine ⟨readBase36_base36 n, fun hzero => ?_⟩
  rcases Nat.eq_zero_or_pos n with rfl | hpos
  · rfl
  · have hnil : Nat.digits 36 n ≠ [] := Nat.digits_ne_nil_iff_ne_zero.mpr (Nat.ne_of_gt hpos)
    rw [toList_base36 hpos, List.head?_map, List.head?_reverse, List.getLast?_eq_some_getLast hnil,
      Option.map_some, Option.some.injEq] at hzero
    have hfirst := Nat.getLast_digit_ne_zero 36 (Nat.ne_of_gt hpos)
    exact absurd (digitChar_eq_zero
      (Nat.digits_lt_base (by decide) (List.getLast_mem hnil)) hzero) hfirst

/-- **There is one numeral for each number**, the one that is written. -/
theorem isNumeral_iff {n : Nat} {s : String} : IsNumeral n s ↔ s = base36 n := by
  constructor
  · intro h
    obtain ⟨ds, hnil, hlt, hsigns, rfl⟩ := readBase36_eq_some_iff.mp h.reads
    by_cases hzero : ds.head hnil = 0
    · have hs : s = "0" := h.noLeadingZero (by
        rw [hsigns, List.head?_map, List.head?_eq_some_head hnil, hzero]
        rfl)
      have hvalue := h.reads
      rw [hs] at hvalue
      rw [hs, ← Option.some.inj hvalue]
      decide
    · have hdigits : Nat.digits 36 (ofDigits 36 ds) = ds.reverse := by
        rw [ofDigits_eq]
        refine Nat.digits_ofDigits 36
          (by decide) ds.reverse (fun d hd => hlt d (List.mem_reverse.mp hd)) fun h => ?_
        rwa [List.getLast_reverse]
      have hpos : 0 < ofDigits 36 ds := by
        have hmore : Nat.digits 36 (ofDigits 36 ds) ≠ [] := by
          rwa [hdigits, ne_eq, List.reverse_eq_nil_iff]
        exact Nat.pos_of_ne_zero (Nat.digits_ne_nil_iff_ne_zero.mp hmore)
      apply String.toList_injective
      rw [hsigns, toList_base36 hpos, hdigits, List.reverse_reverse]
  · intro h
    exact h ▸ isNumeral_base36 n

/-- Equal numerals stand for equal numbers. -/
theorem base36_inj {m n : Nat} : base36 m = base36 n ↔ m = n := by
  refine ⟨fun h => ?_, congrArg base36⟩
  have hread := readBase36_base36 m
  rw [h, readBase36_base36] at hread
  exact (Option.some.inj hread).symm

/-- The number of signs is the number of digits. -/
theorem length_base36_le_iff {n k : Nat} (hk : 0 < k) : (base36 n).length ≤ k ↔ n < 36 ^ k := by
  rcases Nat.eq_zero_or_pos n with rfl | hpos
  · exact iff_of_true hk (Nat.pow_pos (by decide))
  · rw [← String.length_toList, toList_base36 hpos, List.length_map, List.length_reverse,
      Nat.digits_length_le_iff (by decide)]

/-! ## 3. Counts -/

/-- The text is a decimal number, perhaps behind a plus sign. -/
def IsDecimal (s : String) (n : Nat) : Prop := ∃ ds, ds ≠ [] ∧ (∀ d ∈ ds, d < 10) ∧
  (s.toList = ds.map digitChar ∨ s.toList = '+' :: ds.map digitChar) ∧ n = ofDigits 10 ds

theorem digitChar_decimal {d : Nat} (h : d < 10) :
    (digitChar d).isDigit = true ∧ (digitChar d).toNat - '0'.toNat = d ∧ digitChar d ≠ '+' := by
  revert d
  decide +kernel

/-- A figure is the sign of a decimal digit. -/
theorem exists_digitChar {c : Char} (h : c.isDigit = true) : ∃ d < 10, c = digitChar d := by
  have hfigure : 0x30 ≤ c.toNat ∧ c.toNat ≤ 0x39 := Char.isDigit_iff_toNat.mp h
  have hc : 0x30 + (c.toNat - 0x30) = c.toNat := by omega
  refine ⟨c.toNat - 0x30, by omega, ?_⟩
  rw [digitChar, if_pos (by omega), hc, Char.ofNat_toNat]

/-- Decimal digits are read behind those that have been read. -/
theorem countFrom_eq_some_iff {cs : List Char} {value n : Nat} : countFrom value cs = some n ↔
    ∃ ds : List Nat, (∀ d ∈ ds, d < 10) ∧ cs = ds.map digitChar ∧
    n = ds.foldl (fun n d => n * 10 + d) value := by
  induction cs generalizing value with
  | nil =>
    rw [countFrom, Option.some.injEq]
    constructor
    · intro h
      exact ⟨[], fun _ hnone => absurd hnone List.not_mem_nil, rfl, h.symm⟩
    · intro h
      obtain ⟨ds, -, hnil, hvalue⟩ := h
      rw [hvalue, List.map_eq_nil_iff.mp hnil.symm, List.foldl_nil]
  | cons c cs ih =>
    rw [countFrom]
    split
    · next hdigit =>
      obtain ⟨d, hd, rfl⟩ := exists_digitChar hdigit
      rw [(digitChar_decimal hd).2.1, ih]
      constructor
      · intro h
        obtain ⟨ds, hlt, rfl, hvalue⟩ := h
        exact ⟨d :: ds, List.forall_mem_cons.mpr ⟨hd, hlt⟩, rfl, hvalue⟩
      · intro h
        obtain ⟨_ | ⟨d', ds⟩, hlt, hsigns, hvalue⟩ := h
        · cases hsigns
        · obtain ⟨hd', hlt⟩ := List.forall_mem_cons.mp hlt
          obtain ⟨hsign, hsigns⟩ := List.cons.inj hsigns
          have hsame : d = d' := by
            rw [← (digitChar_decimal hd).2.1, hsign, (digitChar_decimal hd').2.1]
          exact ⟨ds, hlt, hsigns, by rw [hvalue, List.foldl_cons, hsame]⟩
    · next hother =>
      refine iff_of_false (fun h => nomatch h) fun h => ?_
      obtain ⟨_ | ⟨d, ds⟩, hlt, hsigns, -⟩ := h
      · cases hsigns
      · obtain ⟨rfl, -⟩ := List.cons.inj hsigns
        exact hother (digitChar_decimal (hlt d List.mem_cons_self)).1

/-- Only a plus sign may stand in front of the digits. -/
theorem withoutPlus_eq_iff {cs : List Char} {ds : List Nat} (hsome : ds ≠ [])
    (hlt : ∀ d ∈ ds, d < 10) :
    withoutPlus cs = ds.map digitChar ↔ cs = ds.map digitChar ∨ cs = '+' :: ds.map digitChar := by
  have hplus : ∀ digits, '+' :: digits ≠ ds.map digitChar := by
    intro digits h
    obtain ⟨d, ds', rfl⟩ := List.exists_cons_of_ne_nil hsome
    exact (digitChar_decimal (hlt d List.mem_cons_self)).2.2 (List.cons.inj h).1.symm
  unfold withoutPlus
  split
  · next digits => rw [or_iff_right (hplus digits), List.cons.injEq, and_iff_right rfl]
  · next hother => rw [or_iff_left (hother _)]

/-- **A count is read from a decimal number that fits into 64 bits**, and from nothing else. -/
theorem readCount_eq_some_iff {s : String} {n : Nat} :
    readCount s = some n ↔ IsDecimal s n ∧ n ≤ 2 ^ 64 - 1 := by
  have hlargest : largestCount = 2 ^ 64 - 1 := rfl
  unfold readCount IsDecimal
  simp only [List.isEmpty_iff]
  split
  · next hnil =>
    refine iff_of_false (fun h => nomatch h) fun h => ?_
    obtain ⟨⟨ds, hsome, hlt, hsigns, -⟩, -⟩ := h
    rw [← withoutPlus_eq_iff hsome hlt, hnil] at hsigns
    exact hsome (List.map_eq_nil_iff.mp hsigns.symm)
  · next hsome =>
    rw [Option.filter_eq_some_iff, decide_eq_true_iff, countFrom_eq_some_iff, hlargest]
    refine and_congr_left fun _ => exists_congr fun ds => ?_
    constructor
    · intro h
      obtain ⟨hlt, hsigns, hvalue⟩ := h
      have hds : ds ≠ [] := fun hnil => hsome (by rw [hsigns, hnil, List.map_nil])
      exact ⟨hds, hlt, (withoutPlus_eq_iff hds hlt).mp hsigns, hvalue⟩
    · intro h
      obtain ⟨hds, hlt, hsigns, hvalue⟩ := h
      exact ⟨hlt, (withoutPlus_eq_iff hds hlt).mpr hsigns, hvalue⟩

end PrivacyAudit.Numeral
