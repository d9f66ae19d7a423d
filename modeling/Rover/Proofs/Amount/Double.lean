import Rover.Proofs.Amount.Nearest

/-!
# Doubles as numbers

What is known of the operations on doubles and of their order, said of the numbers that they stand
for.
-/

namespace Rover

open Option

open Float.Model (Format UnpackedFloat)
open Float.Model.UnpackedFloat

def amount (x : Float) : ℚ := worth x.toModel.unpack

structure IsRounded (q : ℚ) (x : Float) : Prop where
  isFinite : x.isFinite
  rounds : Rounds q (amount x)

theorem isDouble_twoPow (n : ℕ) : IsDouble (2 ^ n) := by
  refine ⟨1, n, by decide, by omega, ?_⟩
  rw [Int.cast_one, one_mul, zpow_natCast]

theorem two_pow_lt_half : (2 : ℚ) ^ 200 < half := by
  rw [← zpow_natCast]
  exact zpow_lt_zpow_right₀ one_lt_two (by decide)

theorem IsDouble.worth {u : UnpackedFloat} (h : Canonical u) : IsDouble (worth u) := by
  obtain ⟨s, rfl⟩ | ⟨s, m, e, hm, rfl, hlo, hbits⟩ := h.cases
  · exact ⟨0, 0, by decide, by decide, by rw [Int.cast_zero, zero_mul]; rfl⟩
  · have hwidth : m < 2 ^ 53 := (Nat.log2_lt (by omega)).mp (show m.log2 < 53 by omega)
    refine ⟨s.apply m, e, ?_, hlo, worth_eq_apply s m e hm⟩
    cases s with
    | positive =>
      change |(m : ℤ)| < _
      exact_mod_cast hwidth
    | negative =>
      change |-(m : ℤ)| < _
      rw [abs_neg]
      exact_mod_cast hwidth

section
variable {p q : ℚ} {u : UnpackedFloat} {x : Float} (h : Becomes q u) (hx : x.toModel = .pack u)
include h hx

theorem Becomes.isRounded_of_unpack (hu : (Float.Model.pack u).unpack = u) : IsRounded q x := by
  rw [← hx] at hu
  refine ⟨?_, ?_⟩
  · change x.toModel.unpack.isFinite
    rw [hu]
    exact h.canonical.isFinite
  · unfold amount
    rw [hu]
    exact h.rounds

theorem Becomes.isRounded_of_lt (hlt : |worth u| < 18014398509481984 * half) : IsRounded q x := by
  obtain ⟨-, hu⟩ | ⟨s, m, e, hm, -, hle, -⟩ := h.canonical.pack_cases
  · exact h.isRounded_of_unpack hx hu
  · exact absurd hlt (not_lt.mpr hle)

theorem Becomes.isRounded_of_le (hp : IsDouble p) (hlt : p < 18014398509481984 * half)
    (hle : |q| ≤ p) : IsRounded q x := by
  refine h.isRounded_of_lt hx (lt_of_le_of_lt ?_ hlt)
  obtain ⟨hlo, hhi⟩ := abs_le.mp hle
  exact abs_le.mpr ⟨h.rounds.ge _ hp.neg hlo, h.rounds.le _ hp hhi⟩

theorem Becomes.isRounded (hsmall : |q| ≤ 2 ^ 200) : IsRounded q x :=
  h.isRounded_of_le hx (isDouble_twoPow 200) (by linarith [two_pow_lt_half, half_pos]) hsmall

theorem Becomes.isRounded_of_isInf (hinf : x.isInf = false) : IsRounded q x := by
  obtain ⟨-, hu⟩ | ⟨s, m, e, hm, -, -, hu⟩ := h.canonical.pack_cases
  · exact h.isRounded_of_unpack hx hu
  · change x.toModel.unpack.isInf = false at hinf
    rw [hx, hu] at hinf
    cases hinf

end

variable {x : Float}

theorem IsDouble.amount (h : x.isFinite) : IsDouble (amount x) :=
  .worth (canonical_of_isFinite h)

theorem IsRounded.amount_eq {q : ℚ} (h : IsRounded q x) (hq : IsDouble q) : amount x = q :=
  le_antisymm (h.rounds.le q hq le_rfl) (h.rounds.ge q hq le_rfl)

theorem Becomes.exact {q : ℚ} {u : UnpackedFloat} (h : Becomes q u)
    (hx : x.toModel = .pack u) (hq : IsDouble q) (hlt : |q| < 18014398509481984 * half) :
    x.isFinite ∧ amount x = q := by
  have habs : IsDouble |q| := by
    rcases abs_choice q with hsame | hneg
    · rwa [hsame]
    · rw [hneg]
      exact hq.neg
  have hrnd := h.isRounded_of_le hx habs hlt le_rfl
  exact ⟨hrnd.isFinite, hrnd.amount_eq hq⟩

theorem abs_amount_le (h : x.isFinite) : |amount x| ≤ 18014398509481982 * half := by
  have hcan := canonical_of_isFinite h
  unfold amount
  obtain ⟨s, hu⟩ | ⟨s, m, e, hm, hu, -⟩ := hcan.cases
  · rw [hu]
    exact abs_zero.trans_le (by linarith [half_pos])
  · have hplace := place_le_of_unpack hu
    rw [hu] at hcan ⊢
    exact abs_worth_le_of_le hcan hplace

theorem abs_amount_lt (h : x.isFinite) : |amount x| < 18014398509481984 * half :=
  (abs_amount_le h).trans_lt (by linarith [half_pos])

theorem amount_neg (h : x.isFinite) : (-x).isFinite ∧ amount (-x) = -amount x := by
  have hneg := (canonical_of_isFinite h).neg.becomes.toBecomes
  rw [worth_neg] at hneg
  refine hneg.exact rfl (IsDouble.amount h).neg ?_
  rw [abs_neg]
  exact abs_amount_lt h

section
variable {x y : Float} (hx : x.isFinite) (hy : y.isFinite)
include hx hy

theorem isRounded_add (hsmall : |amount x + amount y| ≤ 2 ^ 200) :
    IsRounded (amount x + amount y) (x + y) :=
  ((canonical_of_isFinite hx).add (canonical_of_isFinite hy)).toBecomes.isRounded rfl hsmall

theorem isRounded_sub (hsmall : |amount x - amount y| ≤ 2 ^ 200) :
    IsRounded (amount x - amount y) (x - y) :=
  ((canonical_of_isFinite hx).sub (canonical_of_isFinite hy)).toBecomes.isRounded rfl hsmall

theorem isRounded_mul (hsmall : |amount x * amount y| ≤ 2 ^ 200) :
    IsRounded (amount x * amount y) (x * y) :=
  ((canonical_of_isFinite hx).mul (canonical_of_isFinite hy)).toBecomes.isRounded rfl hsmall

theorem isRounded_add_of_small (hsmall : |amount y| ≤ 2 ^ 200) :
    IsRounded (amount x + amount y) (x + y) := by
  have hsum := (canonical_of_isFinite hx).add (canonical_of_isFinite hy)
  refine hsum.toBecomes.isRounded_of_lt rfl (hsum.bounded ?_)
  have hle := abs_add_le (amount x) (amount y)
  have hbig := abs_amount_le hx
  change |amount x + amount y| < _
  linarith [two_pow_lt_half]

theorem isRounded_div (h0 : amount y ≠ 0) (hsmall : |amount x / amount y| ≤ 2 ^ 200) :
    IsRounded (amount x / amount y) (x / y) :=
  ((canonical_of_isFinite hx).div (canonical_of_isFinite hy) h0).isRounded rfl hsmall

end

theorem roots_sqrt (hx : x.isFinite) (hpos : 0 ≤ amount x)
    (hsmall : amount x ≤ 2 ^ 200) : x.sqrt.isFinite ∧ Roots (amount x) (amount x.sqrt) := by
  obtain ⟨hcan, hroots⟩ := (canonical_of_isFinite hx).sqrt hpos
  have h0 : IsDouble 0 := ⟨0, 0, by decide, by decide, by norm_num⟩
  have hworth : |worth (sqrt .binary64 x.toModel.unpack)| ≤ 2 ^ 200 := by
    refine abs_le.mpr ⟨?_, hroots.le _ (isDouble_twoPow 200) (by norm_num) ?_⟩
    · exact le_trans (by norm_num) (hroots.ge 0 h0 (by rwa [mul_zero]))
    · exact le_trans hsmall (by norm_num)
  have hrnd := hcan.becomes.toBecomes.isRounded (x := x.sqrt) rfl hworth
  have hexact := hrnd.amount_eq (.worth hcan)
  refine ⟨hrnd.isFinite, ?_⟩
  rw [hexact]
  exact hroots

section
variable {m n : ℕ} {e f : ℤ} (hm : m.log2 = 52 ∨ m.log2 < 52 ∧ e = -1074)
  (hn : n.log2 = 52 ∨ n.log2 < 52 ∧ f = -1074)

include hm hn in
theorem lt_of_place_lt (he : -1074 ≤ e) (hmzero : m ≠ 0) (hnzero : n ≠ 0) (h : e < f) :
    (m : ℚ) * 2 ^ e < n * 2 ^ f := by
  have hlo : 2 ^ 52 ≤ n := ((Nat.log2_eq_iff (k := 52) hnzero).mp (by omega)).1
  have hhi : m < 2 ^ 53 := (Nat.log2_lt (k := 53) hmzero).mp (by omega)
  have hplaces : (2 : ℚ) ^ e * 2 ≤ 2 ^ f := by
    rw [← zpow_add_one₀ two_ne_zero]
    exact zpow_le_zpow_right₀ one_le_two (by omega)
  have hplace : (0 : ℚ) < 2 ^ e := by positivity
  have hlo' : (2 ^ 52 : ℚ) ≤ n := by exact_mod_cast hlo
  have hhi' : (m : ℚ) < 2 ^ 53 := by exact_mod_cast hhi
  nlinarith

include hm hn in
theorem compare_places (he : -1074 ≤ e) (hf : -1074 ≤ f) (hmzero : m ≠ 0) (hnzero : n ≠ 0) :
    (compare e f).then (compare m n) = compare ((m : ℚ) * 2 ^ e) (n * 2 ^ f) := by
  rcases lt_trichotomy e f with hlt | rfl | hgt
  · rw [compare_lt_iff_lt.mpr hlt,
      compare_lt_iff_lt.mpr (lt_of_place_lt hm hn he hmzero hnzero hlt)]
    rfl
  · have hplace : (0 : ℚ) < 2 ^ e := by positivity
    rw [compare_eq_iff_eq.mpr (rfl : e = e)]
    change compare m n = _
    rcases lt_trichotomy m n with hlt | rfl | hgt
    · rw [compare_lt_iff_lt.mpr hlt, compare_lt_iff_lt.mpr]
      exact mul_lt_mul_of_pos_right (by exact_mod_cast hlt) hplace
    · rw [compare_eq_iff_eq.mpr rfl, compare_eq_iff_eq.mpr rfl]
    · rw [compare_gt_iff_gt.mpr hgt, compare_gt_iff_gt.mpr]
      exact mul_lt_mul_of_pos_right (by exact_mod_cast hgt) hplace
  · rw [compare_gt_iff_gt.mpr hgt,
      compare_gt_iff_gt.mpr (lt_of_place_lt hn hm hf hnzero hmzero hgt)]
    rfl

end

theorem swap_compare_neg (p q : ℚ) : (compare p q).swap = compare (-p) (-q) := by
  rcases lt_trichotomy p q with hlt | rfl | hgt
  · rw [compare_lt_iff_lt.mpr hlt, compare_gt_iff_gt.mpr (neg_lt_neg hlt)]
    rfl
  · rw [compare_eq_iff_eq.mpr rfl, compare_eq_iff_eq.mpr rfl]
    rfl
  · rw [compare_gt_iff_gt.mpr hgt, compare_lt_iff_lt.mpr (neg_lt_neg hgt)]
    rfl

theorem compare_unpacked {u v : UnpackedFloat} (hu : Canonical u) (hv : Canonical v) :
    u.compare v = some (compare (worth u) (worth v)) := by
  have hpos {m : ℕ} (e : ℤ) (hm : 0 < m) : (0 : ℚ) < m * 2 ^ e := by positivity
  obtain ⟨s, rfl⟩ | ⟨s, m, e, hm, rfl, he, hbits⟩ := hu.cases
  · obtain ⟨t, rfl⟩ | ⟨t, n, f, hn, rfl, hf, hbits'⟩ := hv.cases
    · exact congrArg some (compare_eq_iff_eq.mpr rfl).symm
    · cases t with
      | positive => exact congrArg some (compare_lt_iff_lt.mpr (hpos f hn)).symm
      | negative =>
        exact congrArg some (compare_gt_iff_gt.mpr (neg_lt_zero.mpr (hpos f hn))).symm
  · obtain ⟨t, rfl⟩ | ⟨t, n, f, hn, rfl, hf, hbits'⟩ := hv.cases
    · cases s with
      | positive => exact congrArg some (compare_gt_iff_gt.mpr (hpos e hm)).symm
      | negative =>
        exact congrArg some (compare_lt_iff_lt.mpr (neg_lt_zero.mpr (hpos e hm))).symm
    · have hplaces := compare_places hbits hbits' he hf (by omega) (by omega)
      have hleft := hpos e hm
      have hright := hpos f hn
      cases s with
      | positive =>
        cases t with
        | positive => exact congrArg some hplaces
        | negative =>
          refine congrArg some (compare_gt_iff_gt.mpr ?_).symm
          exact (neg_lt_zero.mpr hright).trans hleft
      | negative =>
        cases t with
        | positive =>
          refine congrArg some (compare_lt_iff_lt.mpr ?_).symm
          exact (neg_lt_zero.mpr hleft).trans hright
        | negative =>
          refine congrArg some ?_
          exact (congrArg Ordering.swap hplaces).trans (swap_compare_neg _ _)

theorem lt_iff_compare {x y : Float} :
    x < y ↔ x.toModel.unpack.compare y.toModel.unpack = some .lt := by
  change decide (x.toModel.unpack.lt y.toModel.unpack) ↔ _
  rw [decide_eq_true_iff]
  exact beq_iff_eq

section
variable {x y : Float} (hx : x.isFinite) (hy : y.isFinite)
include hx hy

theorem lt_iff_amount : x < y ↔ amount x < amount y := by
  rw [lt_iff_compare, compare_unpacked (canonical_of_isFinite hx) (canonical_of_isFinite hy),
    some_inj, compare_lt_iff_lt]
  rfl

theorem amount_le_of_le (h : x ≤ y) : amount x ≤ amount y := by
  by_contra hlt
  have hgt : x.toModel.unpack.compare y.toModel.unpack = some .gt := by
    rw [compare_unpacked (canonical_of_isFinite hx) (canonical_of_isFinite hy), some_inj,
      compare_gt_iff_gt]
    exact not_le.mp hlt
  change decide ((x.toModel.unpack.compare y.toModel.unpack).any _) at h
  rw [hgt] at h
  cases h

theorem beq_eq_amount : (x == y) = decide (amount x = amount y) := by
  change (x.toModel.unpack.compare y.toModel.unpack == some .eq) = _
  rw [compare_unpacked (canonical_of_isFinite hx) (canonical_of_isFinite hy), Bool.eq_iff_iff,
    beq_iff_eq, some_inj, compare_eq_iff_eq, decide_eq_true_iff]
  rfl

end

section
variable {p q : ℚ} {x : Float} (h : IsRounded q x) (hp : IsDouble p)
include h hp

theorem IsRounded.abs_amount_le (hq : |q| ≤ p) : |amount x| ≤ p := by
  obtain ⟨hlo, hhi⟩ := abs_le.mp hq
  exact abs_le.mpr ⟨h.rounds.ge _ hp.neg hlo, h.rounds.le _ hp hhi⟩

theorem IsRounded.le_abs_amount (hq : p ≤ |q|) : p ≤ |amount x| := by
  rcases le_abs.mp hq with hq | hq
  · exact le_abs.mpr (.inl (h.rounds.ge _ hp hq))
  · exact le_abs.mpr (.inr (le_neg_of_le_neg (h.rounds.le _ hp.neg (le_neg_of_le_neg hq))))

end

structure Between (low high : ℚ) (x : Float) : Prop where
  isFinite : x.isFinite
  ge : low ≤ amount x
  le : amount x ≤ high

theorem IsRounded.between {q low high : ℚ} (h : IsRounded q x) (hlo : IsDouble low)
    (hhi : IsDouble high) (hge : low ≤ q) (hle : q ≤ high) : Between low high x :=
  ⟨h.isFinite, h.rounds.ge low hlo hge, h.rounds.le high hhi hle⟩

theorem Between.abs_amount_le {low high : ℚ} (h : Between low high x)
    (hpos : 0 ≤ low) : |amount x| ≤ high := by
  rw [abs_of_nonneg (hpos.trans h.ge)]
  exact h.le

theorem becomes_nearestInt (n : ℤ) : ∃ u, Becomes n u ∧ (nearestInt n).toModel = .pack u := by
  obtain ⟨u, hu, hmodel⟩ := becomes_nearest (decide (n < 0)) n.natAbs one_ne_zero
  refine ⟨u, ?_, hmodel⟩
  have hsgn : signed (signOf (decide (n < 0))) (n.natAbs / (1 : ℕ)) = n := by
    rw [Nat.cast_one, div_one, Nat.cast_natAbs, Int.cast_abs]
    by_cases hneg : n < 0
    · rw [decide_eq_true hneg, abs_of_neg (by exact_mod_cast hneg)]
      exact neg_neg _
    · rw [decide_eq_false hneg, abs_of_nonneg (by exact_mod_cast not_lt.mp hneg)]
      rfl
  rwa [hsgn] at hu

theorem isRounded_nearestInt {n : ℤ} (h : (nearestInt n).isInf = false) :
    IsRounded n (nearestInt n) := by
  obtain ⟨u, hu, hmodel⟩ := becomes_nearestInt n
  exact hu.isRounded_of_isInf hmodel h

theorem isDouble_intCast {n : ℤ} (h : |n| < 2 ^ 53) : IsDouble n := ⟨n, 0, h, by decide, by simp⟩

variable {n : ℕ}

theorem isDouble_natCast (h : n < 2 ^ 53) : IsDouble n := by
  exact isDouble_intCast (by exact_mod_cast h)

theorem amount_nearestInt {n : ℤ} (h : |n| < 2 ^ 53) :
    (nearestInt n).isFinite ∧ amount (nearestInt n) = n := by
  obtain ⟨u, hu, hmodel⟩ := becomes_nearestInt n
  have hsmall : |(n : ℚ)| ≤ 2 ^ 200 := by
    exact le_trans (by exact_mod_cast h.le) (by norm_num : (2 ^ 53 : ℚ) ≤ 2 ^ 200)
  have hrnd := hu.isRounded hmodel hsmall
  exact ⟨hrnd.isFinite, hrnd.amount_eq (isDouble_intCast h)⟩

theorem amount_nearestNat (h : n < 2 ^ 53) :
    (nearestInt n).isFinite ∧ amount (nearestInt n) = n := by
  exact amount_nearestInt (by exact_mod_cast h)

theorem isRounded_div_nearestInt (hx : x.isFinite)
    (hsmall : |amount x| ≤ 2 ^ 200) (hn : n ≠ 0) (h : n < 2 ^ 53) :
    IsRounded (amount x / n) (x / nearestInt n) := by
  obtain ⟨hfin, hamt⟩ := amount_nearestNat h
  have h1 : (1 : ℚ) ≤ n := by exact_mod_cast Nat.pos_of_ne_zero hn
  have hrnd := isRounded_div hx hfin
  rw [hamt] at hrnd
  refine hrnd (by positivity) ?_
  rw [abs_div, abs_of_nonneg (zero_le_one.trans h1)]
  exact (div_le_self (abs_nonneg _) h1).trans hsmall

theorem isDouble_places (n : ℕ) {e : ℤ} (hn : n < 2 ^ 53) (he : -1074 ≤ e) :
    IsDouble (n * 2 ^ e) := by
  refine ⟨n, e, ?_, he, by simp⟩
  exact_mod_cast hn

theorem isRounded_quotient {k n : ℕ} (hk : k < 2 ^ 53) (hn : n ≠ 0)
    (h : n < 2 ^ 53) : IsRounded ((k : ℚ) / n) (nearestInt k / nearestInt n) := by
  obtain ⟨hfin, hamt⟩ := amount_nearestNat hk
  have hwidth : (k : ℚ) ≤ 2 ^ 53 := by exact_mod_cast hk.le
  rw [← hamt]
  refine isRounded_div_nearestInt hfin ?_ hn h
  rw [hamt, abs_of_nonneg k.cast_nonneg]
  exact hwidth.trans (by norm_num)

/-- Between two quotients of numbers that are not the same there is room for two doubles. -/
theorem strictMonoOn_quotient (hn : n ≠ 0) (h : n ≤ 1000) :
    StrictMonoOn (fun k : ℕ => amount (nearestInt k / nearestInt n)) (Set.Iio 65536) := by
  intro j (hj : j < 65536) k (hk : k < 65536) hjk
  have hpos : (0 : ℚ) < n := by exact_mod_cast Nat.pos_of_ne_zero hn
  obtain ⟨m, hm⟩ : ∃ m, m = j * 2 ^ 20 / n := ⟨_, rfl⟩
  have hfloor : m * n ≤ j * 2 ^ 20 := hm ▸ Nat.div_mul_le_self _ _
  have hceil : j * 2 ^ 20 < n * (m + 1) := hm ▸ Nat.lt_mul_div_succ _ (by omega)
  have hwide : m ≤ j * 2 ^ 20 := hm ▸ Nat.div_le_self _ _
  have hlo : (j : ℚ) / n ≤ (m + 1 : ℕ) * 2 ^ (-20 : ℤ) := by
    rw [div_le_iff₀ hpos]
    have hcast : ((j * 2 ^ 20 : ℕ) : ℚ) < (n * (m + 1) : ℕ) := by exact_mod_cast hceil
    norm_num at hcast ⊢
    linarith
  have hhi : ((m + 2 : ℕ) : ℚ) * 2 ^ (-20 : ℤ) ≤ k / n := by
    have hroom : (m + 2) * n ≤ k * 2 ^ 20 := by
      rw [Nat.add_mul]
      omega
    have hcast : (((m + 2) * n : ℕ) : ℚ) ≤ (k * 2 ^ 20 : ℕ) := by exact_mod_cast hroom
    rw [le_div_iff₀ hpos]
    norm_num at hcast ⊢
    linarith
  calc amount (nearestInt j / nearestInt n)
      ≤ (m + 1 : ℕ) * 2 ^ (-20 : ℤ) :=
        (isRounded_quotient (by omega) hn (by omega)).rounds.le _
          (isDouble_places _ (by omega) (by decide)) hlo
    _ < (m + 2 : ℕ) * 2 ^ (-20 : ℤ) := by
        refine mul_lt_mul_of_pos_right ?_ (by positivity)
        exact_mod_cast Nat.lt_succ_self (m + 1)
    _ ≤ amount (nearestInt k / nearestInt n) :=
        (isRounded_quotient (by omega) hn (by omega)).rounds.ge _
          (isDouble_places _ (by omega) (by decide)) hhi

theorem amount_of_ofFloat? {b : Binary} (h : Binary.ofFloat? x = some b) : amount x * b.fraction.2 =
      ((if b.negative then -(b.fraction.1 : ℤ) else b.fraction.1 : ℤ) : ℚ) := by
  have hworth : worth b.unpacked = signed (signOf b.negative) (b.mantissa * 2 ^ b.exponent) := by
    unfold Binary.unpacked
    by_cases hpos : 0 < b.mantissa
    · rw [dif_pos hpos]
      rfl
    · rw [show b.mantissa = 0 by omega, Nat.cast_zero, zero_mul]
      cases b.negative with
      | false => rfl
      | true => exact neg_zero.symm
  have hfrac : (b.mantissa : ℚ) * 2 ^ b.exponent * b.fraction.2 = b.fraction.1 := by
    unfold Binary.fraction
    split
    · next he =>
      obtain ⟨k, hk⟩ := Int.eq_ofNat_of_zero_le he
      simp [hk, cast_twoPow]
    · next he =>
      obtain ⟨k, hk⟩ := Int.eq_ofNat_of_zero_le (show 0 ≤ -b.exponent by omega)
      rw [show b.exponent = -(k : ℤ) by omega]
      simp [cast_twoPow]
  unfold amount
  rw [unpack_of_ofFloat? h, hworth]
  by_cases hneg : b.negative
  · rw [hneg]
    simpa [signed, signOf] using hfrac
  · rw [Bool.eq_false_iff.mpr hneg]
    simpa [signed, signOf] using hfrac

theorem compareInt_of_ofFloat? {b : Binary} (h : Binary.ofFloat? x = some b) (n : Int) :
    compareInt n x = some (compare (n * b.fraction.2)
      (if b.negative then -(b.fraction.1 : Int) else b.fraction.1)) := by
  unfold compareInt
  rw [h]

theorem compareInt_eq_amount (h : x.isFinite) (n : ℤ) :
    compareInt n x = some (compare (n : ℚ) (amount x)) := by
  obtain ⟨b, hb⟩ := exists_ofFloat?_of_isFinite h
  have hden : (0 : ℚ) < b.fraction.2 := by exact_mod_cast b.fraction_den_pos
  have hpart := amount_of_ofFloat? hb
  rw [compareInt_of_ofFloat? hb]
  have hscaled : ((n * b.fraction.2 : ℤ) : ℚ) = n * b.fraction.2 := by push_cast; rfl
  congr 1
  rcases lt_trichotomy (n : ℚ) (amount x) with hlt | heq | hgt
  · rw [compare_lt_iff_lt.mpr hlt, compare_lt_iff_lt, ← @Int.cast_lt ℚ, hscaled, ← hpart]
    exact mul_lt_mul_of_pos_right hlt hden
  · rw [compare_eq_iff_eq.mpr heq, compare_eq_iff_eq, ← @Int.cast_inj ℚ, hscaled, ← hpart, heq]
  · rw [compare_gt_iff_gt.mpr hgt, compare_gt_iff_gt, ← @Int.cast_lt ℚ, hscaled, ← hpart]
    exact mul_lt_mul_of_pos_right hgt hden

namespace Num

def amount : Num → ℚ
  | .int n => n
  | .float x => Rover.amount x

def IsFinite : Num → Prop
  | .int _ => True
  | .float x => x.isFinite

variable {a b : Num} (ha : a.IsFinite) (hb : b.IsFinite)
include ha hb

theorem less_eq_amount : a.less b = decide (a.amount < b.amount) := by
  rw [Bool.eq_iff_iff, decide_eq_true_iff]
  cases a with
  | int m =>
    cases b with
    | int n => exact decide_eq_true_iff.trans Int.cast_lt.symm
    | float y =>
      change (compareInt m y == some .lt) ↔ (m : ℚ) < Rover.amount y
      rw [compareInt_eq_amount hb, beq_iff_eq, some_inj, compare_lt_iff_lt]
  | float x =>
    cases b with
    | int n =>
      change (compareInt n x == some .gt) ↔ Rover.amount x < n
      rw [compareInt_eq_amount ha, beq_iff_eq, some_inj, compare_gt_iff_gt]
    | float y => exact decide_eq_true_iff.trans (lt_iff_amount ha hb)

theorem same_eq_amount : a.same b = decide (a.amount = b.amount) := by
  rw [Bool.eq_iff_iff, decide_eq_true_iff]
  cases a with
  | int m =>
    cases b with
    | int n => exact beq_iff_eq.trans Int.cast_inj.symm
    | float y =>
      change (compareInt m y == some .eq) ↔ (m : ℚ) = Rover.amount y
      rw [compareInt_eq_amount hb, beq_iff_eq, some_inj, compare_eq_iff_eq]
  | float x =>
    cases b with
    | int n =>
      change (compareInt n x == some .eq) ↔ Rover.amount x = n
      rw [compareInt_eq_amount ha, beq_iff_eq, some_inj, compare_eq_iff_eq, eq_comm]
    | float y =>
      change (x == y) ↔ Rover.amount x = Rover.amount y
      rw [beq_eq_amount ha hb, decide_eq_true_iff]

theorem atMost_eq_amount : a.atMost b = decide (a.amount ≤ b.amount) := by
  unfold atMost
  rw [less_eq_amount ha hb, same_eq_amount ha hb, ← Bool.decide_or, decide_eq_decide,
    le_iff_lt_or_eq]

end Num

end Rover
