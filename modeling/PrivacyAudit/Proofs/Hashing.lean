import Mathlib.Algebra.BigOperators.Fin
import Mathlib.Algebra.BigOperators.Ring.Finset
import Mathlib.Data.Int.ModEq
import Mathlib.Data.List.GetD
import PrivacyAudit.Fingerprint
import PrivacyAudit.Proofs.Numerals

/-!
# The arithmetic of fingerprints

A text is hashed over its UTF-16 code units (`Text.SpeltIn16`). The hash wraps around at every step,
and what comes out is the same as if it had done so at the end only: the number of 32 bits, with a
sign, that is congruent to the sum of the units times the powers of 31 (`toInt_rollingHash`). The
absolute value of any such number, the least one too, is a number of 32 bits without a sign, and
takes six signs in base 36 at most (`length_hashNumeral_le`).
-/

namespace PrivacyAudit

/-! ## 1. Code units -/

namespace Text

/-- Characters are spelt by code units: each by one, or by a pair of surrogates if it takes more
than 16 bits. -/
inductive SpeltIn16 : List Char → List UInt16 → Prop
  | nil : SpeltIn16 [] []
  | single {c cs u us} (hunit : u.toNat = c.toNat) (rest : SpeltIn16 cs us) :
      SpeltIn16 (c :: cs) (u :: us)
  | pair {c cs high low us} (hhigh : 0xD800 ≤ high.toNat ∧ high.toNat < 0xDC00)
      (hlow : 0xDC00 ≤ low.toNat ∧ low.toNat < 0xE000)
      (hunits : c.toNat = 0x10000 + (high.toNat - 0xD800) * 0x400 + (low.toNat - 0xDC00))
      (rest : SpeltIn16 cs us) : SpeltIn16 (c :: cs) (high :: low :: us)

/-- The code units of a text spell its characters. -/
theorem speltIn16_units16 (s : String) : SpeltIn16 s.toList (units16 s) := by
  unfold units16
  induction s.toList with
  | nil => exact .nil
  | cons c cs ih =>
    have hvalid : c.toNat < 0xD800 ∨ 0xDFFF < c.toNat ∧ c.toNat < 0x110000 := c.valid
    have hword : ∀ n < 0x10000, (UInt16.ofNat n).toNat = n :=
      fun n hn => UInt16.toNat_ofNat_of_lt' hn
    rw [List.flatMap_cons, charUnits16]
    split
    · next hbasic => exact .single (hword _ hbasic) ih
    · have hhigh := hword (0xD800 + (c.toNat - 0x10000) / 0x400) (by omega)
      have hlow := hword (0xDC00 + (c.toNat - 0x10000) % 0x400) (by omega)
      exact .pair (by omega) (by omega) (by omega) ih

/-- There is one way to spell characters in code units. -/
theorem SpeltIn16.unique {cs : List Char} {us us' : List UInt16} (h : SpeltIn16 cs us)
    (h' : SpeltIn16 cs us') : us = us' := by
  induction h generalizing us' with
  | nil =>
    cases h'
    rfl
  | @single c cs u us hunit _ ih =>
    have hmost := u.toNat_lt
    cases h' with
    | single hunit' rest' => rw [ih rest', UInt16.toNat_inj.mp (hunit.trans hunit'.symm)]
    | pair hhigh' hlow' hunits' rest' => omega
  | @pair c cs high low us hhigh hlow hunits _ ih =>
    cases h' with
    | @single _ _ u' us' hunit' rest' =>
      have hmost := u'.toNat_lt
      omega
    | @pair _ _ high' low' us' hhigh' hlow' hunits' rest' =>
      have hhighs : high.toNat = high'.toNat := by omega
      have hlows : low.toNat = low'.toNat := by omega
      rw [ih rest', UInt16.toNat_inj.mp hhighs, UInt16.toNat_inj.mp hlows]

/-- The code units of a text are the ones that spell its characters. -/
theorem speltIn16_iff {s : String} {us : List UInt16} : SpeltIn16 s.toList us ↔ us = units16 s :=
  ⟨fun h => h.unique (speltIn16_units16 s), fun h => h ▸ speltIn16_units16 s⟩

end Text

/-! ## 2. The sum -/

/-- The sum of code units times the powers of 31, of which the last unit has the least. -/
def unitSum (us : List UInt16) : Int := ∑ i : Fin us.length,
  ((us.get i).toNat : Int) * 31 ^ (us.length - 1 - i)

/-- One unit more: the others have a power more. -/
theorem unitSum_append_singleton (us : List UInt16) (u : UInt16) :
    unitSum (us ++ [u]) = unitSum us * 31 + u.toNat := by
  have hrange : ∀ vs : List UInt16, unitSum vs =
      ∑ i ∈ Finset.range vs.length, ((vs.getD i 0).toNat : Int) * 31 ^ (vs.length - 1 - i) := by
    intro vs
    rw [Finset.sum_range]
    refine Finset.sum_congr rfl fun i _ => ?_
    rw [List.getD_eq_getElem vs 0 i.isLt, List.get_eq_getElem]
  rw [hrange, hrange, List.length_append, List.length_singleton, Finset.sum_range_succ,
    Finset.sum_mul]
  congr 1
  · refine Finset.sum_congr rfl fun i hi => ?_
    have hlt := Finset.mem_range.mp hi
    have hpower : us.length + 1 - 1 - i = us.length - 1 - i + 1 := by omega
    rw [List.getD_append us [u] 0 i hlt, hpower, Int.pow_succ, Int.mul_assoc]
  · rw [List.getD_append_right us [u] 0 us.length (Nat.le_refl _), Nat.sub_self, Nat.add_sub_cancel,
      Nat.sub_self, Int.pow_zero, Int.mul_one]
    rfl

/-- A step of the hash wraps around. -/
theorem toInt_rollingHash_append_singleton (us : List UInt16) (u : UInt16) :
    (rollingHash (us ++ [u])).toInt = ((rollingHash us).toInt * 31 + u.toNat).bmod (2 ^ 32) := by
  have hstep : rollingHash (us ++ [u]) = rollingHash us * 31 + Int32.ofNat u.toNat := by
    rw [rollingHash, List.foldl_append]
    rfl
  have hunit : (Int32.ofNat u.toNat).toInt = u.toNat :=
    Int32.toInt_ofNat_of_lt (Nat.lt_trans u.toNat_lt (by decide))
  have hfactor : (31 : Int32).toInt = 31 := rfl
  rw [hstep, Int32.toInt_add, Int32.toInt_mul, hunit, hfactor, Int.bmod_add_bmod]

/-- **The hash is the sum, wrapped around once.** -/
theorem toInt_rollingHash (us : List UInt16) :
    (rollingHash us).toInt = (unitSum us).bmod (2 ^ 32) := by
  induction us using List.reverseRecOn with
  | nil => rfl
  | append_singleton us u ih =>
    calc (rollingHash (us ++ [u])).toInt
      _ = ((rollingHash us).toInt * 31 + u.toNat).bmod (2 ^ 32) :=
      toInt_rollingHash_append_singleton us u
      _ = (((unitSum us).bmod (2 ^ 32) * 31).bmod (2 ^ 32) + u.toNat).bmod (2 ^ 32) := by
        rw [ih, Int.bmod_add_bmod]
      _ = (unitSum us * 31 + u.toNat).bmod (2 ^ 32) := by rw [Int.bmod_mul_bmod, Int.bmod_add_bmod]
      _ = (unitSum (us ++ [u])).bmod (2 ^ 32) := by rw [unitSum_append_singleton]

/-- The number of 32 bits, with a sign, that a number becomes when it wraps around. -/
structure IsWrapped (n h : Int) : Prop where
  least : -2 ^ 31 ≤ h
  most : h < 2 ^ 31
  congruent : h ≡ n [ZMOD 2 ^ 32]

/-- There is one such number. -/
theorem isWrapped_iff {n h : Int} : IsWrapped n h ↔ h = n.bmod (2 ^ 32) := by
  have hrange := Int.bmod_eq_emod n (2 ^ 32)
  constructor
  · intro hwrapped
    obtain ⟨hleast, hmost, hsame⟩ := hwrapped
    rw [Int.ModEq] at hsame
    split at hrange <;> omega
  · intro h
    subst h
    refine ⟨?_, ?_, Int.bmod_emod⟩
    · split at hrange <;> omega
    · split at hrange <;> omega

/-! ## 3. Fingerprints -/

/-- The hash of a text. -/
def hashOf (s : String) : Int := (rollingHash (Text.units16 s)).toInt

theorem hashOf_isWrapped (s : String) : IsWrapped (unitSum (Text.units16 s)) (hashOf s) :=
  isWrapped_iff.mpr (toInt_rollingHash _)

/-- The absolute value of a hash has no more than 32 bits; the least number has the largest. -/
theorem natAbs_hashOf_le (s : String) : (hashOf s).natAbs ≤ 2 ^ 31 := by
  obtain ⟨hleast, hmost, -⟩ := hashOf_isWrapped s
  omega

theorem scanId_inj {p p' : Path} {o o' : ScanOptions} :
    scanId p o = scanId p' o' ↔
      (hashOf (fingerprintText p o)).natAbs = (hashOf (fingerprintText p' o')).natAbs := by
  unfold scanId hashNumeral hashOf
  rw [String.append_right_inj, Numeral.base36_inj]

/-- The numeral of a text is that of the absolute value of the wrapped sum of its code units, and no
other text. -/
theorem hashNumeral_eq_iff {s t : String} : hashNumeral s = t ↔ ∃ us h, Text.SpeltIn16 s.toList us ∧
    IsWrapped (unitSum us) h ∧ Numeral.IsNumeral h.natAbs t := by
  constructor
  · intro h
    exact ⟨_, _, Text.speltIn16_units16 s, hashOf_isWrapped s, Numeral.isNumeral_iff.mpr h.symm⟩
  · intro h
    obtain ⟨us, h, hspelt, hwrapped, hnumeral⟩ := h
    have hsame : h = hashOf s := by
      rw [isWrapped_iff.mp hwrapped, Text.speltIn16_iff.mp hspelt,
        isWrapped_iff.mp (hashOf_isWrapped s)]
    rw [Numeral.isNumeral_iff.mp hnumeral, hsame]
    rfl

theorem length_hashNumeral_le (s : String) : (hashNumeral s).length ≤ 6 := by
  have hroom : 2 ^ 31 < 36 ^ 6 := by decide
  exact (Numeral.length_base36_le_iff
    (by decide)).mpr (Nat.lt_of_le_of_lt (natAbs_hashOf_le s) hroom)

/-- **The numeral of a text is that of the absolute value of the wrapped sum of its code units**, in
six signs at most; no step fails, numerals are read as what was written, and requests share a
fingerprint exactly if these absolute values are the same. -/
theorem fingerprint_arithmetic :
    (∀ s t, hashNumeral s = t ↔ ∃ us h, Text.SpeltIn16 s.toList us ∧ IsWrapped (unitSum us) h ∧
      Numeral.IsNumeral h.natAbs t) ∧
    (∀ s, IsWrapped (unitSum (Text.units16 s)) (hashOf s) ∧ (hashOf s).natAbs ≤ 2 ^ 31 ∧
      (hashNumeral s).length ≤ 6) ∧
    (∀ us u, IsWrapped ((rollingHash us).toInt * 31 + u.toNat) (rollingHash (us ++ [u])).toInt) ∧
    (∀ n : UInt64, Numeral.readBase36 (Numeral.base36 n.toNat) = some n.toNat) ∧
    ∀ p o p' o', scanId p o = scanId p' o' ↔
      (hashOf (fingerprintText p o)).natAbs = (hashOf (fingerprintText p' o')).natAbs :=
  ⟨fun _ _ => hashNumeral_eq_iff,
    fun s => ⟨hashOf_isWrapped s, natAbs_hashOf_le s, length_hashNumeral_le s⟩,
    fun us u => isWrapped_iff.mpr (toInt_rollingHash_append_singleton us u),
    fun n => Numeral.readBase36_base36 n.toNat,
    fun _ _ _ _ => scanId_inj⟩

/-- A text with the least hash. Its absolute value takes 32 bits and is written as any other. -/
example : hashOf "polygenelubricants" = -2 ^ 31 ∧ hashNumeral "polygenelubricants" = "zik0zk" := by
  decide +kernel

end PrivacyAudit
