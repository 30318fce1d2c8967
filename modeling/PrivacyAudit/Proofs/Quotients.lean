import Mathlib
import PrivacyAudit.Outcome

/-!
# Quotients in single precision

Whether fewer than a quarter of some bytes occur in texts is decided by a quotient of two counts,
which is rounded to 24 bits. Rounding could take a quotient just below a quarter up to it; for
counts of up to 2 to the power 13 it does not (`shareOf_lt_quarter_iff`).

A count is kept with full precision: its mantissa has 24 bits, and as the count has at most 14 of
them, there are ten zeros behind these. The quotient of two such mantissas is not so near to a power
of two that rounding would carry into the next bit (`div_eq`), so its exponent is that of the exact
quotient, and a quarter is a power of two.
-/

namespace PrivacyAudit

open Float.Model (Format UnpackedFloat totalExponent)
open Float.Model.UnpackedFloat
  (Accuracy ExtendedMantissa Sign roundWithAccuracy shiftToTargetExponent shiftToExponent
  packComponents unpackSign_packComponents unpackMantissa_packComponents
    unpackExponent_packComponents divCore
  accuracyOfFraction)

namespace Single

/-! ## 1. Rounding -/

theorem targetExponent_eq (t : Int) : Format.binary32.targetExponent t = max (t - 24) (-149) := by
  have hmin : Format.binary32.minExponent = -149 := by decide
  rw [Format.targetExponent, hmin]
  rfl

theorem shift_none {m : Nat} {e : Int} (accuracy : Accuracy) (hm : m.log2 = 23) (he : -149 ≤ e) :
    shiftToTargetExponent .binary32 m e accuracy = (.ofMantissaAndAccuracy m accuracy, e) := by
  have hamount : (Format.binary32.targetExponent (totalExponent m e) - e).toNat = 0 := by
    rw [targetExponent_eq, totalExponent]
    omega
  rw [shiftToTargetExponent, shiftToExponent, hamount]
  exact Prod.ext rfl (Int.add_zero e)

theorem shift_one {m : Nat} {e : Int} (accuracy : Accuracy) (hm : m.log2 = 24) (he : -149 ≤ e) :
    shiftToTargetExponent .binary32 m e accuracy =
      ((ExtendedMantissa.ofMantissaAndAccuracy m accuracy).shiftRightOne, e + 1) := by
  have hamount : (Format.binary32.targetExponent (totalExponent m e) - e).toNat = 1 := by
    rw [targetExponent_eq, totalExponent]
    omega
  rw [shiftToTargetExponent, shiftToExponent, hamount]
  rfl

theorem roundedMantissa_bounds (em : ExtendedMantissa) :
    em.mantissa ≤ em.roundedMantissa ∧ em.roundedMantissa ≤ em.mantissa + 1 := by
  obtain ⟨m, roundBit, stickyBit⟩ := em
  cases roundBit <;> cases stickyBit <;>
    simp only [ExtendedMantissa.roundedMantissa, ExtendedMantissa.accuracy,
      Accuracy.roundToNearestEven] <;>
    omega

theorem mantissa_ofMantissaAndAccuracy (m : Nat) (accuracy : Accuracy) :
    (ExtendedMantissa.ofMantissaAndAccuracy m accuracy).mantissa = m := by
  cases accuracy with
  | exact => rfl
  | inexact relation => cases relation <;> rfl

theorem mantissa_shiftRightOne (em : ExtendedMantissa) : em.shiftRightOne.mantissa =
    em.mantissa / 2 := rfl

/-- A mantissa that is not rounded up to the next power of two is kept. -/
theorem roundWithAccuracy_eq {m : Nat} {e : Int} {accuracy : Accuracy}
    {em : ExtendedMantissa} {e' : Int}
    (hshift : shiftToTargetExponent .binary32 m e accuracy = (em, e'))
    (hleast : 2 ^ 23 ≤ em.mantissa) (hmost : em.mantissa + 1 < 2 ^ 24) (he : -149 ≤ e') :
    ∃ m' h, roundWithAccuracy .binary32 .positive m e accuracy = .finite .positive m' e' h ∧
    m'.log2 = 23 := by
  obtain ⟨hlower, hupper⟩ := roundedMantissa_bounds em
  have hpos : 0 < em.roundedMantissa := by omega
  have hlog : em.roundedMantissa.log2 = 23 :=
    (Nat.log2_eq_iff (Nat.ne_of_gt hpos)).mpr ⟨by omega, by omega⟩
  refine ⟨em.roundedMantissa, hpos, ?_, hlog⟩
  unfold roundWithAccuracy
  simp only [hshift, shift_none .exact hlog he]
  exact dif_neg (Nat.ne_of_gt hpos)

/-! ## 2. Numbers with full precision -/

theorem finite_congr {sign : Sign} {m m' : Nat} {e e' : Int} {h : 0 < m} {h' : 0 < m'} (hm : m = m')
    (he : e = e') : UnpackedFloat.finite sign m e h = .finite sign m' e' h' := by
  subst hm he
  rfl

/-- Behind the leading bit, which is not written, a mantissa keeps its other bits. -/
theorem toNat_withLeadingBit {m : Nat} (hleast : 2 ^ 23 ≤ m) (hmost : m < 2 ^ 24) :
    (1#1 ++ BitVec.ofNat 23 m).toNat = m := by
  have hrest := (BitVec.ofNat 23 m).isLt
  rw [BitVec.toNat_append, ← Nat.shiftLeft_add_eq_or_of_lt hrest, BitVec.toNat_ofNat,
    Nat.shiftLeft_eq]
  show 1 * 2 ^ 23 + m % 2 ^ 23 = m
  omega

/-- The bits of an exponent between the least, which is kept for small numbers, and the greatest,
which is kept for what is no number. -/
theorem exponentBits {b : Nat} (hpos : 0 < b) (hb : b < 255) :
    (BitVec.ofNat 8 b).toNat = b ∧ BitVec.ofNat 8 b ≠ 0#8 ∧ BitVec.ofNat 8 b ≠ -1#8 := by
  have hexponent : (BitVec.ofNat 8 b).toNat = b := by
    rw [BitVec.toNat_ofNat, Nat.mod_eq_of_lt (by omega)]
  have htop : (-1#8).toNat = 255 := by decide
  refine ⟨hexponent, fun hzero => ?_, fun hones => ?_⟩
  · rw [hzero, BitVec.toNat_zero] at hexponent
    omega
  · rw [hones, htop] at hexponent
    omega

theorem exponentBias_eq : (Format.binary32.exponentBias : Int) = 127 := by decide

/-- How a number with full precision is written. -/
theorem pack_eq {m : Nat} {e : Int} (h : 0 < m) (hm : m.log2 = 23) (hmost : e ≤ 104) :
    UnpackedFloat.pack .binary32 (.finite .positive m e h) =
      packComponents .binary32 .positive (BitVec.ofNat 8 (e + 127 + 23).toNat)
        (BitVec.ofNat 23 m) := by
  have hroom : ¬ 2 ^ 8 ≤ (e + 127 + 23).toNat + 1 := by omega
  unfold UnpackedFloat.pack
  simp only [exponentBias_eq]
  show (if 2 ^ 8 ≤ (e + 127 + 23).toNat + 1 then _ else if m.log2 + 1 = 24 then _ else _) = _
  rw [if_neg hroom, if_pos (by omega)]
  rfl

/-- What is written with full precision is read as it was. -/
theorem unpack_pack {m : Nat} {e : Int} (h : 0 < m) (hm : m.log2 = 23) (hleast : -149 ≤ e)
    (hmost : e ≤ 104) :
    (Float32.Model.pack (.finite .positive m e h)).unpack = .finite .positive m e h := by
  obtain ⟨hlower, hupper⟩ := (Nat.log2_eq_iff (Nat.ne_of_gt h)).mp hm
  obtain ⟨hexponent, hzero, hones⟩ := exponentBits (b := (e + 127 + 23).toNat) (by omega) (by omega)
  show UnpackedFloat.unpack .binary32 (UnpackedFloat.pack .binary32 (.finite .positive m e h)) = _
  rw [pack_eq h hm hmost]
  unfold UnpackedFloat.unpack
  simp only [unpackMantissa_packComponents, unpackExponent_packComponents,
    unpackSign_packComponents, Sign.ofBitVec_toBitVec, exponentBias_eq]
  rw [if_neg hones, if_neg hzero]
  refine finite_congr (toNat_withLeadingBit hlower hupper) ?_
  rw [hexponent]
  show ((e + 127 + 23).toNat : Int) - (127 + 23) = e
  omega

/-! ## 3. Counts and their quotients -/

/-- Rounding keeps a mantissa that has full precision. -/
theorem roundWithAccuracy_exact {m : Nat} {e : Int} (h : 0 < m) (hm : m.log2 = 23) (he : -149 ≤ e) :
    roundWithAccuracy .binary32 .positive m e .exact = .finite .positive m e h := by
  have hkept : (ExtendedMantissa.ofMantissaAndAccuracy m .exact).roundedMantissa = m := rfl
  unfold roundWithAccuracy
  simp only [shift_none .exact hm he, hkept]
  exact dif_neg (Nat.ne_of_gt h)

/-- A count with zeros behind it has full precision. -/
theorem log2_scaled {n : Nat} (h : 0 < n) (hn : n < 2 ^ 24) :
    (n * 2 ^ (23 - n.log2)).log2 = 23 := by
  obtain ⟨hlower, hupper⟩ := (Nat.log2_eq_iff (Nat.ne_of_gt h)).mp (Eq.refl n.log2)
  have hlog : n.log2 ≤ 23 := Nat.lt_succ_iff.mp ((Nat.log2_lt (Nat.ne_of_gt h)).mpr hn)
  have hpow : 2 ^ 23 = 2 ^ n.log2 * 2 ^ (23 - n.log2) := by
    rw [← Nat.pow_add, Nat.add_sub_cancel' hlog]
  have hpos : 0 < n * 2 ^ (23 - n.log2) := Nat.mul_pos h (Nat.two_pow_pos _)
  refine (Nat.log2_eq_iff (Nat.ne_of_gt hpos)).mpr ⟨?_, ?_⟩
  · rw [hpow]
    exact Nat.mul_le_mul_right _ hlower
  · rw [Nat.pow_succ 2 23, hpow, Nat.mul_right_comm, ← Nat.pow_succ]
    exact Nat.mul_lt_mul_of_pos_right hupper (Nat.two_pow_pos _)

/-- A count is written with full precision. -/
theorem unpack_count {n : Nat} (h : 0 < n) (hn : n < 2 ^ 24) :
    ∃ hpos, n.toUInt64.toFloat32.toModel.unpack =
      .finite .positive (n * 2 ^ (23 - n.log2)) (n.log2 - 23 : Int) hpos := by
  have hlog : n.log2 ≤ 23 := Nat.lt_succ_iff.mp ((Nat.log2_lt (Nat.ne_of_gt h)).mpr hn)
  have hpos : 0 < n * 2 ^ (23 - n.log2) := Nat.mul_pos h (Nat.two_pow_pos _)
  have hword : (UInt64.ofNat n).toNat = n := UInt64.toNat_ofNat_of_lt' (Nat.lt_trans hn (by decide))
  have hamount : (0 - Format.binary32.targetExponent (totalExponent n 0)).toNat = 23 - n.log2 := by
    rw [targetExponent_eq, totalExponent]
    omega
  have hexponent : (0 : Int) - (23 - n.log2 : Nat) = n.log2 - 23 := by omega
  have hcompare : compare (n : Int) 0 = .gt := by
    rw [Int.compare_eq_gt]
    omega
  have hround : UnpackedFloat.round .binary32 .positive n 0 =
      .finite .positive (n * 2 ^ (23 - n.log2)) (n.log2 - 23 : Int) hpos := by
    rw [UnpackedFloat.round, UnpackedFloat.decreaseExponent, hamount, hexponent, Nat.shiftLeft_eq]
    exact roundWithAccuracy_exact hpos (log2_scaled h hn) (by omega)
  refine ⟨hpos, ?_⟩
  show (Float32.Model.pack
    (UnpackedFloat.normalize .binary32 (UInt64.ofNat n).toNat 0 .positive)).unpack = _
  rw [hword, UnpackedFloat.normalize, hcompare]
  show (Float32.Model.pack (UnpackedFloat.round .binary32 .positive (n : Int).toNat 0)).unpack = _
  rw [Int.toNat_natCast, hround]
  exact unpack_pack hpos (log2_scaled h hn) (by omega) (by omega)

/-- Zero is written as zero. -/
theorem unpack_count_zero : (Nat.toUInt64 0).toFloat32.toModel.unpack = .zero .positive := by
  rfl

/-- A mantissa with full precision and ten zeros behind it. -/
structure IsShort (m : Nat) : Prop where
  least : 2 ^ 23 ≤ m
  most : m < 2 ^ 24
  zeros : 2 ^ 10 ∣ m

theorem IsShort.log2_eq {m : Nat} (h : IsShort m) : m.log2 = 23 :=
  (Nat.log2_eq_iff (Nat.ne_of_gt (Nat.lt_of_lt_of_le (by decide) h.least))).mpr ⟨h.least, h.most⟩

/-- The mantissa of a count of at most 14 bits. -/
theorem isShort_scaled {n : Nat} (h : 0 < n) (hn : n ≤ 2 ^ 13) :
    IsShort (n * 2 ^ (23 - n.log2)) := by
  have hlog : n.log2 < 14 := (Nat.log2_lt (Nat.ne_of_gt h)).mpr (by omega)
  have hpos : 0 < n * 2 ^ (23 - n.log2) := Nat.mul_pos h (Nat.two_pow_pos _)
  obtain ⟨hleast, hmost⟩ := (Nat.log2_eq_iff (Nat.ne_of_gt hpos)).mp (log2_scaled h (by omega))
  exact ⟨hleast, hmost, Nat.dvd_mul_left_of_dvd (Nat.pow_dvd_pow 2 (by omega)) n⟩

section Quotient

variable {m₁ m₂ : Nat} (h₁ : IsShort m₁) (h₂ : IsShort m₂)

include h₁ h₂

/-- A quotient of 25 bits is at least `2 ^ 10` off the next power of two. -/
theorem quotient_of_le (hle : m₂ ≤ m₁) :
    2 ^ 24 ≤ m₁ * 2 ^ 24 / m₂ ∧ m₁ * 2 ^ 24 / m₂ < 2 ^ 25 - 2 := by
  obtain ⟨hleast₁, hmost₁, ⟨a, rfl⟩⟩ := h₁
  obtain ⟨hleast₂, hmost₂, ⟨b, rfl⟩⟩ := h₂
  have hpos : 0 < 2 ^ 10 * b := by omega
  exact ⟨(Nat.le_div_iff_mul_le hpos).mpr (by omega), (Nat.div_lt_iff_lt_mul hpos).mpr (by omega)⟩

/-- A quotient of 24 bits is at least `2 ^ 10` off the next power of two. -/
theorem quotient_of_lt (hlt : m₁ < m₂) :
    2 ^ 23 ≤ m₁ * 2 ^ 24 / m₂ ∧ m₁ * 2 ^ 24 / m₂ < 2 ^ 24 - 1 := by
  obtain ⟨hleast₁, hmost₁, ⟨a, rfl⟩⟩ := h₁
  obtain ⟨hleast₂, hmost₂, ⟨b, rfl⟩⟩ := h₂
  have hpos : 0 < 2 ^ 10 * b := by omega
  exact ⟨(Nat.le_div_iff_mul_le hpos).mpr (by omega), (Nat.div_lt_iff_lt_mul hpos).mpr (by omega)⟩

theorem divCore_eq (e₁ e₂ : Int) (he : -100 ≤ e₁ - e₂) :
    ∃ accuracy, divCore .binary32 m₁ e₁ m₂ e₂ = (m₁ * 2 ^ 24 / m₂, e₁ - e₂ - 24, accuracy) := by
  have htarget :
      min (e₁ - e₂) (Format.binary32.targetExponent (totalExponent m₁ e₁ - totalExponent m₂ e₂)) =
      e₁ - e₂ - 24 := by
    rw [targetExponent_eq, totalExponent, totalExponent, h₁.log2_eq, h₂.log2_eq]
    omega
  have hamount : (e₁ - e₂ - (e₁ - e₂ - 24)).toNat = 24 := by omega
  refine ⟨accuracyOfFraction (m₁ * 2 ^ 24 % m₂) m₂, ?_⟩
  rw [divCore, htarget, hamount, Nat.shiftLeft_eq]

/-- **A quotient is rounded without a carry** if the mantissas have zeros behind them: it is not so
near to a power of two. -/
theorem div_eq (p₁ : 0 < m₁) (p₂ : 0 < m₂) (e₁ e₂ : Int) (he : -100 ≤ e₁ - e₂) :
    ∃ m h, UnpackedFloat.div .binary32 (.finite .positive m₁ e₁ p₁) (.finite .positive m₂ e₂ p₂) =
      .finite .positive m (e₁ - e₂ - (if m₂ ≤ m₁ then 23 else 24)) h ∧ m.log2 = 23 := by
  obtain ⟨accuracy, hcore⟩ := divCore_eq h₁ h₂ e₁ e₂ he
  have hround :
      UnpackedFloat.div .binary32 (.finite .positive m₁ e₁ p₁) (.finite .positive m₂ e₂ p₂) =
      roundWithAccuracy .binary32 .positive (m₁ * 2 ^ 24 / m₂) (e₁ - e₂ - 24) accuracy := by
    rw [UnpackedFloat.div, hcore]
    rfl
  have hkept := mantissa_ofMantissaAndAccuracy (m₁ * 2 ^ 24 / m₂) accuracy
  rw [hround]
  by_cases hle : m₂ ≤ m₁
  · obtain ⟨hleast, hmost⟩ := quotient_of_le h₁ h₂ hle
    have hlog : (m₁ * 2 ^ 24 / m₂).log2 = 24 := (Nat.log2_eq_iff (by omega)).mpr ⟨hleast, by omega⟩
    have hhalf := (mantissa_shiftRightOne _).trans (congrArg (· / 2) hkept)
    have hexponent : e₁ - e₂ - 23 = e₁ - e₂ - 24 + 1 := by omega
    rw [if_pos hle, hexponent]
    exact roundWithAccuracy_eq (shift_one accuracy hlog (by omega)) (by omega) (by omega) (by omega)
  · obtain ⟨hleast, hmost⟩ := quotient_of_lt h₁ h₂ (Nat.lt_of_not_le hle)
    have hlog : (m₁ * 2 ^ 24 / m₂).log2 = 23 := (Nat.log2_eq_iff (by omega)).mpr ⟨hleast, by omega⟩
    rw [if_neg hle]
    exact roundWithAccuracy_eq
      (shift_none accuracy hlog (by omega)) (by omega) (by omega) (by omega)

end Quotient

/-! ## 4. A quarter -/

theorem lt_iff_unpack {x y : Float32} : x < y ↔ x.toModel.unpack.lt y.toModel.unpack = true := by
  show decide (x.toModel < y.toModel) = true ↔ _
  exact decide_eq_true_iff

theorem unpack_quarter :
    ∃ h, (0.25 : Float32).toModel.unpack = .finite .positive (2 ^ 23) (-25) h :=
  ⟨by decide, rfl⟩

/-- A number with full precision is less than a quarter exactly if its exponent is. -/
theorem lt_quarter_iff {x : Float32} {m : Nat} {e : Int} {h : 0 < m}
    (hx : x.toModel.unpack = .finite .positive m e h) (hm : m.log2 = 23) : x < 0.25 ↔ e < -25 := by
  obtain ⟨hpos, hquarter⟩ := unpack_quarter
  obtain ⟨hleast, -⟩ := (Nat.log2_eq_iff (Nat.ne_of_gt h)).mp hm
  have hmantissa : compare m (2 ^ 23) ≠ .lt := mt Nat.compare_eq_lt.mp (Nat.not_lt.mpr hleast)
  rw [lt_iff_unpack, hx, hquarter]
  show (some ((compare e (-25)).then (compare m (2 ^ 23))) == some .lt) = true ↔ _
  rw [beq_iff_eq, Option.some.injEq, ← Int.compare_eq_lt]
  cases compare e (-25) with
  | lt => exact Iff.intro (fun _ => rfl) (fun _ => rfl)
  | eq => exact iff_of_false hmantissa (fun h => nomatch h)
  | gt => exact Iff.rfl

theorem div_zero {m : Nat} {e : Int} {h : 0 < m} :
    UnpackedFloat.div .binary32 (.zero .positive) (.finite .positive m e h) = .zero .positive := rfl

theorem unpack_div {x y : Float32} : (x / y).toModel.unpack =
    (Float32.Model.pack (UnpackedFloat.div .binary32 x.toModel.unpack y.toModel.unpack)).unpack :=
  rfl

/-- Numbers of which one has two bits more are compared by their mantissas. -/
theorem scaled_le_iff {p l : Nat} (hlog : l.log2 = p.log2 + 2) (hl : l.log2 ≤ 23) :
    l * 2 ^ (23 - l.log2) ≤ p * 2 ^ (23 - p.log2) ↔ l ≤ 4 * p := by
  have hplaces : 23 - p.log2 = 2 + (23 - l.log2) := by omega
  rw [hplaces, Nat.pow_add, ← Nat.mul_assoc, Nat.mul_le_mul_right_iff (Nat.two_pow_pos _),
    Nat.mul_comm p]

/-- The exponent of a quotient tells whether it is less than a quarter. -/
theorem exponent_lt_iff {p l : Nat} (hp : 0 < p) (hl : 0 < l) (hbits : l.log2 ≤ 23) :
    (p.log2 - 23 - (l.log2 - 23) - (if l * 2 ^ (23 - l.log2) ≤ p * 2 ^ (23 - p.log2) then 23
      else 24) : Int) < -25 ↔ 4 * p < l := by
  obtain ⟨hp₁, hp₂⟩ := (Nat.log2_eq_iff (Nat.ne_of_gt hp)).mp (Eq.refl p.log2)
  obtain ⟨hl₁, hl₂⟩ := (Nat.log2_eq_iff (Nat.ne_of_gt hl)).mp (Eq.refl l.log2)
  rcases Nat.lt_trichotomy l.log2 (p.log2 + 2) with hless | hequal | hmore
  · have hle : 2 ^ (l.log2 + 1) ≤ 2 ^ (p.log2 + 2) := Nat.pow_le_pow_right (by decide) hless
    have hpow : 2 ^ (p.log2 + 2) = 4 * 2 ^ p.log2 := by rw [Nat.pow_add, Nat.mul_comm]
    refine iff_of_false ?_ (by omega)
    split <;> omega
  · simp only [scaled_le_iff hequal hbits]
    split <;> omega
  · have hle : 2 ^ (p.log2 + 1 + 2) ≤ 2 ^ l.log2 := Nat.pow_le_pow_right (by decide) (by omega)
    have hpow : 2 ^ (p.log2 + 1 + 2) = 4 * 2 ^ (p.log2 + 1) := by
      rw [Nat.pow_add _ _ 2, Nat.mul_comm]
    refine iff_of_true ?_ (by omega)
    split <;> omega

/-- The quotient of two counts of at most 14 bits. -/
theorem unpack_shareOf {part whole : Nat} (hpart : 0 < part) (hpart' : part ≤ 2 ^ 13)
    (hwhole : 0 < whole) (hwhole' : whole ≤ 2 ^ 13) : ∃ m h, (shareOf part whole).toModel.unpack =
      .finite .positive m (part.log2 - 23 - (whole.log2 - 23) -
        (if whole * 2 ^ (23 - whole.log2) ≤ part * 2 ^ (23 - part.log2) then 23 else 24)) h ∧
        m.log2 = 23 := by
  have hplog : part.log2 < 14 := (Nat.log2_lt (by omega)).mpr (by omega)
  have hwlog : whole.log2 < 14 := (Nat.log2_lt (by omega)).mpr (by omega)
  obtain ⟨hppos, hp⟩ := unpack_count hpart (by omega)
  obtain ⟨hwpos, hw⟩ := unpack_count hwhole (by omega)
  obtain ⟨m, hm, hdiv, hlog⟩ :=
    div_eq (isShort_scaled hpart hpart') (isShort_scaled hwhole hwhole') hppos hwpos
    (part.log2 - 23) (whole.log2 - 23) (by omega)
  refine ⟨m, hm, ?_, hlog⟩
  rw [shareOf, unpack_div, hp, hw, hdiv]
  exact unpack_pack hm hlog (by split <;> omega) (by split <;> omega)

end Single

open Single in
/-- **A share in single precision is less than a quarter exactly if it is**, as long as the counts
have at most 14 bits. -/
theorem shareOf_lt_quarter_iff {part whole : Nat} (hpart : part ≤ 2 ^ 13) (hpos : 0 < whole)
    (hwhole : whole ≤ 2 ^ 13) : shareOf part whole < 0.25 ↔ 4 * part < whole := by
  rcases Nat.eq_zero_or_pos part with rfl | hppos
  · obtain ⟨_, hw⟩ := unpack_count hpos (by omega)
    obtain ⟨_, hquarter⟩ := unpack_quarter
    refine iff_of_true ?_ (by omega)
    rw [lt_iff_unpack, shareOf, unpack_div, unpack_count_zero, hw, hquarter, div_zero]
    rfl
  · have hwlog : whole.log2 < 14 := (Nat.log2_lt (by omega)).mpr (by omega)
    obtain ⟨m, hm, hshare, hlog⟩ := unpack_shareOf hppos hpart hpos hwhole
    rw [lt_quarter_iff hshare hlog, exponent_lt_iff hppos hpos (by omega)]

end PrivacyAudit
