import Rover.Proofs.Amount.Unpacked

/-!
# Nearest doubles

The double nearest to a fraction is the fraction, rounded.
-/

namespace Rover

open Float.Model (UnpackedFloat)
open Float.Model.UnpackedFloat

def scaled (num den : ℕ) (place : ℤ) : ℕ × ℕ :=
  if 0 ≤ place then (num, den * twoPow place.toNat) else (num * twoPow (-place).toNat, den)

section
variable {num den : ℕ}

theorem nearestBits_eq (hnum : num ≠ 0) (hden : den ≠ 0) (coarse place : ℤ)
    (hcoarse : coarse = max ((num.log2 : ℤ) - den.log2 - 53) (-1074))
    (hplace : place = if (scaled num den coarse).1 / (scaled num den coarse).2 < twoPow 53
      then coarse else coarse + 1) :
    nearestBits num den = min ((place + 1074).toNat * 2 ^ 52 +
      roundHalfEven (scaled num den place).1 (scaled num den place).2) (2047 * 2 ^ 52) := by
  subst hplace hcoarse
  unfold nearestBits
  rw [if_neg (by omega)]
  rfl

theorem scaled_pos (hden : den ≠ 0) (place : ℤ) : 0 < (scaled num den place).2 := by
  unfold scaled
  split
  · exact Nat.mul_pos (by omega) (twoPow_pos _)
  · exact Nat.pos_of_ne_zero hden

theorem scaled_eq (place : ℤ) :
    ((scaled num den place).1 : ℚ) / (scaled num den place).2 = num / den / 2 ^ place := by
  unfold scaled
  split
  · next h =>
    obtain ⟨k, rfl⟩ := Int.eq_ofNat_of_zero_le h
    simp only [Int.toNat_natCast, Nat.cast_mul, cast_twoPow, zpow_natCast, div_div]
  · next h =>
    obtain ⟨k, hk⟩ := Int.eq_ofNat_of_zero_le (show 0 ≤ -place by omega)
    rw [show place = -(k : ℤ) by omega]
    simp only [neg_neg, Int.toNat_natCast, Nat.cast_mul, cast_twoPow, zpow_neg, zpow_natCast,
      div_inv_eq_mul, div_mul_eq_mul_div]

theorem scaled_div_lt_iff (hden : den ≠ 0) (place : ℤ) (k : ℕ) :
    (scaled num den place).1 / (scaled num den place).2 < k ↔ (num : ℚ) / den / 2 ^ place < k := by
  have hpos : 0 < (scaled num den place).2 := scaled_pos hden place
  rw [← scaled_eq, Nat.div_lt_iff_lt_mul hpos, div_lt_iff₀ (by exact_mod_cast hpos)]
  norm_cast

theorem le_scaled_div_iff (hden : den ≠ 0) (place : ℤ) (k : ℕ) :
    k ≤ (scaled num den place).1 / (scaled num den place).2 ↔ k ≤ (num : ℚ) / den / 2 ^ place := by
  rw [← not_lt, scaled_div_lt_iff hden, not_lt]

theorem fraction_bounds (hnum : num ≠ 0) (hden : den ≠ 0) :
    (2 : ℚ) ^ ((num.log2 : ℤ) - den.log2 - 1) ≤ num / den ∧
      (num : ℚ) / den < 2 ^ ((num.log2 : ℤ) - den.log2 + 1) := by
  have hpos : (0 : ℚ) < den := by exact_mod_cast Nat.pos_of_ne_zero hden
  have hpow : ∀ n : ℕ, (2 : ℚ) ^ (n : ℤ) = (twoPow n : ℕ) := fun n => by
    rw [cast_twoPow, zpow_natCast]
  have hlo : ((twoPow num.log2 : ℕ) : ℚ) ≤ num := by exact_mod_cast Nat.log2_self_le hnum
  have hhi : (num : ℚ) < (twoPow (num.log2 + 1) : ℕ) := by exact_mod_cast Nat.lt_log2_self
  have hlo' : ((twoPow den.log2 : ℕ) : ℚ) ≤ den := by exact_mod_cast Nat.log2_self_le hden
  have hhi' : (den : ℚ) < (twoPow (den.log2 + 1) : ℕ) := by exact_mod_cast Nat.lt_log2_self
  rw [← hpow] at hlo hhi hlo' hhi'
  constructor
  · rw [le_div_iff₀ hpos]
    calc (2 : ℚ) ^ ((num.log2 : ℤ) - den.log2 - 1) * den
        ≤ 2 ^ ((num.log2 : ℤ) - den.log2 - 1) * 2 ^ ((den.log2 + 1 : ℕ) : ℤ) :=
          mul_le_mul_of_nonneg_left hhi'.le (by positivity)
      _ = 2 ^ (num.log2 : ℤ) := by
          rw [← zpow_add₀ two_ne_zero]
          congr 1
          omega
      _ ≤ num := hlo
  · rw [div_lt_iff₀ hpos]
    calc (num : ℚ) < 2 ^ ((num.log2 + 1 : ℕ) : ℤ) := hhi
      _ = 2 ^ ((num.log2 : ℤ) - den.log2 + 1) * 2 ^ (den.log2 : ℤ) := by
          rw [← zpow_add₀ two_ne_zero]
          congr 1
          omega
      _ ≤ 2 ^ ((num.log2 : ℤ) - den.log2 + 1) * den :=
          mul_le_mul_of_nonneg_left hlo' (by positivity)

theorem exists_place (hnum : num ≠ 0) (hden : den ≠ 0) : ∃ place : ℤ, -1074 ≤ place ∧
    (scaled num den place).1 / (scaled num den place).2 < 9007199254740992 ∧
    Long ((scaled num den place).1 / (scaled num den place).2) place ∧
    nearestBits num den = min ((place + 1074).toNat * 4503599627370496 +
      roundHalfEven (scaled num den place).1 (scaled num den place).2)
      (2047 * 4503599627370496) := by
  obtain ⟨coarse, hcoarse⟩ : ∃ coarse : ℤ, coarse =
    max ((num.log2 : ℤ) - den.log2 - 53) (-1074) := ⟨_, rfl⟩
  have hbits := nearestBits_eq hnum hden coarse _ hcoarse rfl
  rw [show twoPow 53 = 9007199254740992 by decide] at hbits
  obtain ⟨hlo, hhi⟩ := fraction_bounds hnum hden
  have hunit : (0 : ℚ) < 2 ^ coarse := by positivity
  by_cases hsmall : (scaled num den coarse).1 / (scaled num den coarse).2 < 9007199254740992
  · rw [if_pos hsmall] at hbits
    refine ⟨coarse, by omega, hsmall, ?_, hbits⟩
    rcases le_or_gt coarse (-1074) with hleast | habove
    · exact .inr hleast
    refine .inl ((le_scaled_div_iff hden _ 4503599627370496).mpr ?_)
    rw [le_div_iff₀ hunit]
    refine le_trans (le_of_eq ?_) hlo
    rw [show (num.log2 : ℤ) - den.log2 - 1 = 52 + coarse by omega, zpow_add₀ two_ne_zero]
    norm_num
  · rw [if_neg hsmall] at hbits
    have hbig := (le_scaled_div_iff hden _ 9007199254740992).mp (not_lt.mp hsmall)
    have hnext : (num : ℚ) / den / 2 ^ (coarse + 1) = num / den / 2 ^ coarse / 2 := by
      rw [zpow_add_one₀ two_ne_zero, div_div _ ((2 : ℚ) ^ coarse)]
    refine ⟨coarse + 1, by omega, (scaled_div_lt_iff hden _ 9007199254740992).mpr ?_,
      .inl ((le_scaled_div_iff hden _ 4503599627370496).mpr ?_), hbits⟩
    · have hquot : (num : ℚ) / den / 2 ^ coarse < 18014398509481984 := by
        rw [div_lt_iff₀ hunit]
        refine lt_of_lt_of_le hhi ?_
        calc (2 : ℚ) ^ ((num.log2 : ℤ) - den.log2 + 1) ≤ 2 ^ (54 + coarse) :=
              zpow_le_zpow_right₀ one_le_two (by omega)
          _ = 18014398509481984 * 2 ^ coarse := by
              rw [zpow_add₀ two_ne_zero]
              norm_num
      push_cast
      linarith
    · push_cast at hbig ⊢
      linarith

theorem roundHalfEven_eq_rounded {place : ℤ} (h : excess (num / den) place = 0) (hden : 0 < den) :
    roundHalfEven num den = rounded (num / den) place (accuracyOfFraction (num % den) den) := by
  have hround : ∀ m a, (ExtendedMantissa.ofMantissaAndAccuracy m a >>> 0).roundedMantissa =
      Accuracy.roundToNearestEven m a := by
    intro m a
    cases a with
    | exact => rfl
    | inexact o => cases o <;> rfl
  unfold rounded roundHalfEven accuracyOfFraction
  rw [h, hround]
  by_cases hexact : num % den = 0
  · rw [if_pos hexact, if_pos (by omega)]
    rfl
  rw [if_neg hexact]
  rcases lt_trichotomy (2 * (num % den)) den with hlt | heq | hgt
  · rw [if_pos hlt, compare_lt_iff_lt.mpr hlt]
    rfl
  · rw [if_neg (by omega), if_neg (by omega), compare_eq_iff_eq.mpr heq]
    change _ = num / den + num / den % 2
    split <;> omega
  · rw [if_neg (by omega), if_pos hgt, compare_gt_iff_gt.mpr hgt]
    rfl

end

theorem nearest_toModel (negative : Bool) (num den : ℕ) :
    (nearest negative num den).toModel = .pack (decode (signOf negative)
      (nearestBits num den / 2 ^ 52) (nearestBits num den % 2 ^ 52)) := by
  have hbits : nearestBits num den ≤ 2047 * 2 ^ 52 := by
    unfold nearestBits
    split
    · omega
    · exact Nat.min_le_right _ _
  have hsign : twoPow 63 = 9223372036854775808 := by decide
  have hsame : ∀ {s t : Sign} {e f m n : ℕ}, s = t → e = f → m = n →
      Float.Model.pack (decode s e m) = .pack (decode t f n) := by
    rintro _ _ _ _ _ _ rfl rfl rfl
    rfl
  unfold nearest
  generalize nearestBits num den = bits at hbits ⊢
  change Float.Model.pack (unpack .binary64 (UInt64.ofNat _).toBitVec) = _
  rw [unpack_eq_decode, UInt64.toNat_toBitVec, UInt64.toNat_ofNat', hsign]
  cases negative with
  | false =>
    simp only [Bool.false_eq_true, if_false]
    exact hsame (congrArg signOf (decide_eq_false (by omega))) (by omega) (by omega)
  | true =>
    simp only [if_true]
    exact hsame (congrArg signOf (decide_eq_true (by omega))) (by omega) (by omega)

theorem pack_decode {s : Sign} {m j r bits : ℕ} {place e : ℤ} (hm : 0 < m)
    (hr : m * twoPow j = r) (hwidth : r ≤ 2 ^ 53) (hj : j = 0 ∨ m = 2 ^ 52)
    (hlo : -1074 ≤ place) (he : e = place + j) (h : Canonical (.finite s m e hm))
    (hbits : bits = min ((place + 1074).toNat * 2 ^ 52 + r) (2047 * 2 ^ 52)) :
    Float.Model.pack (decode s (bits / 2 ^ 52) (bits % 2 ^ 52)) = .pack (.finite s m e hm) := by
  -- a carry makes the mantissa the least one with all bits, and the field one larger
  have hcarry : j = 0 ∧ r = m ∨ j = 1 ∧ r = 2 ^ 53 ∧ m = 2 ^ 52 := by
    rcases j with _ | _ | j
    · exact .inl ⟨rfl, hr.symm.trans (Nat.mul_one m)⟩
    · rw [show twoPow (0 + 1) = 2 from rfl] at hr
      exact .inr ⟨rfl, by omega, by omega⟩
    · have hunit := twoPow_pos j
      rw [twoPow_add j 2, show twoPow 2 = 4 from rfl] at hr
      obtain rfl : m = 2 ^ 52 := by omega
      omega
  have hmant : m < 2 ^ 52 ∧ e = -1074 ∨ 2 ^ 52 ≤ m ∧ m < 2 ^ 53 := by
    rcases h.2 with hlog | ⟨hlog, rfl⟩
    · exact .inr ((log2_eq_52_iff (by omega)).mp hlog)
    · exact .inl ⟨(Nat.log2_lt (by omega)).mp hlog, rfl⟩
  rcases le_or_gt e 971 with hle | hlt
  · refine congrArg Float.Model.pack ?_
    unfold decode
    rcases hmant with ⟨hshort, rfl⟩ | ⟨hfull, hfull'⟩
    · rw [if_neg (by omega), if_pos (by omega), dif_pos (by omega)]
      exact finite_congr (by omega) rfl
    · rw [if_neg (by omega), if_neg (by omega)]
      exact finite_congr (by omega) (by omega)
  · rw [pack_finite_of_lt hlt]
    unfold decode
    rw [if_pos (by omega), if_pos (by omega)]

theorem becomes_nearest (negative : Bool) (num : ℕ) {den : ℕ} (hden : den ≠ 0) :
    ∃ u, Becomes (signed (signOf negative) (num / den)) u ∧
      (nearest negative num den).toModel = .pack u := by
  by_cases hnum : num = 0
  · subst hnum
    refine ⟨.zero (signOf negative), ?_, ?_⟩
    · rw [Nat.cast_zero, zero_div]
      cases negative with
      | false => exact (becomes_zero _).toBecomes
      | true =>
        change Becomes (-0) _
        exact (becomes_zero _).toBecomes
    · rw [nearest_toModel, show nearestBits 0 den = 0 from if_pos (.inl rfl)]
      rfl
  obtain ⟨place, hlo, hwidth, hlong, hbits⟩ := exists_place hnum hden
  have hpos : 0 < (scaled num den place).2 := scaled_pos hden place
  have hval : ((scaled num den place).1 : ℚ) / (scaled num den place).2 * 2 ^ place =
      num / den := by
    rw [scaled_eq, div_mul_cancel₀ _ (by positivity)]
  rw [nearest_toModel, ← hval]
  generalize (scaled num den place).1 = n at *
  generalize (scaled num den place).2 = d at *
  refine ⟨_, hlong.becomes_fraction hpos _, ?_⟩
  have hexcess : excess (n / d) place = 0 := by
    have hlog : (n / d).log2 < 53 := by
      rcases Nat.eq_zero_or_pos (n / d) with h0 | hsome
      · rw [h0, Nat.log2_zero]
        decide
      · exact (Nat.log2_lt (by omega)).mpr hwidth
    unfold excess
    omega
  have hcan := hlong.canonical (a := accuracyOfFraction (n % d) d) (signOf negative)
  rw [roundHalfEven_eq_rounded hexcess hpos] at hbits
  have hcases := roundWithAccuracy_cases (m := n / d) (e := place)
    (a := accuracyOfFraction (n % d) d) (signOf negative)
  have hhi := rounded_le (m := n / d) (e := place) (a := accuracyOfFraction (n % d) d)
  have hfloor := le_rounded (m := n / d) (e := place) (a := accuracyOfFraction (n % d) d)
  obtain ⟨h0, hround⟩ | ⟨m, j, hm, hr, hj, -, hround⟩ := hcases
  · have hnone : place = -1074 := by
      rw [hexcess, h0, show twoPow 0 = 1 from rfl, Nat.div_one] at hfloor
      exact le_antisymm (hlong.resolve_left (by omega)) hlo
    rw [hround, hbits, h0, hnone]
    rfl
  · rw [hround] at hcan ⊢
    exact pack_decode hm hr hhi hj hlo (by omega) hcan hbits

end Rover
