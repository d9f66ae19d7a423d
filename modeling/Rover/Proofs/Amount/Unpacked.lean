import Mathlib.Tactic.FieldSimp
import Mathlib.Tactic.Linarith
import Mathlib.Tactic.Positivity
import Mathlib.Tactic.Ring
import Rover.Proofs.Amount.Bits

/-!
# Unpacked doubles as numbers

A finite double stands for a rational number. The result of an operation on doubles is the exact
result, rounded: no double lies between the two.
-/

namespace Rover

open Float.Model (Format UnpackedFloat)
open Float.Model.UnpackedFloat
open ExtendedMantissa (accuracy ofMantissaAndAccuracy shiftRightOne)
variable (em : ExtendedMantissa)

def signed : Sign → ℚ → ℚ
  | .positive, q => q
  | .negative, q => -q

def worth : UnpackedFloat → ℚ
  | .finite s m e _ => signed s (m * 2 ^ e)
  | _ => 0

def IsDouble (q : ℚ) : Prop :=
  ∃ k j : ℤ, |k| < 9007199254740992 ∧ -1074 ≤ j ∧ q = k * 2 ^ j

structure Rounds (q z : ℚ) : Prop where
  le : ∀ b, IsDouble b → q ≤ b → z ≤ b
  ge : ∀ b, IsDouble b → b ≤ q → b ≤ z

theorem Rounds.refl (q : ℚ) : Rounds q q := ⟨fun _ _ h => h, fun _ _ h => h⟩

theorem IsDouble.neg {q : ℚ} (h : IsDouble q) : IsDouble (-q) := by
  obtain ⟨k, j, hk, hj, rfl⟩ := h
  refine ⟨-k, j, ?_, hj, ?_⟩
  · rwa [abs_neg]
  · push_cast
    ring

theorem Rounds.neg {q z : ℚ} (h : Rounds q z) : Rounds (-q) (-z) where
  le _ hb hle := neg_le.mp (h.ge _ hb.neg (neg_le.mp hle))
  ge _ hb hle := le_neg.mp (h.le _ hb.neg (le_neg.mp hle))

theorem signed_mul (s t : Sign) (p q : ℚ) : signed s p * signed t q = signed (s * t) (p * q) := by
  cases s with
  | positive =>
    cases t with
    | positive => rfl
    | negative => exact mul_neg p q
  | negative =>
    cases t with
    | positive => exact neg_mul p q
    | negative => exact neg_mul_neg p q

theorem signed_div (s t : Sign) (p q : ℚ) : signed s p / signed t q = signed (s / t) (p / q) := by
  cases s with
  | positive =>
    cases t with
    | positive => rfl
    | negative => exact div_neg p
  | negative =>
    cases t with
    | positive => exact neg_div q p
    | negative => exact neg_div_neg_eq p q

theorem abs_signed (s : Sign) (q : ℚ) : |signed s q| = |q| := by
  cases s with
  | positive => rfl
  | negative => exact abs_neg q

theorem Rounds.signed {q z : ℚ} (h : Rounds q z) (s : Sign) : Rounds (signed s q) (signed s z) := by
  cases s with
  | positive => exact h
  | negative => exact h.neg

theorem cast_twoPow (k : Nat) : ((twoPow k : ℕ) : ℚ) = 2 ^ k := by
  induction k with
  | zero => rfl
  | succ k ih =>
    rw [show twoPow (k + 1) = twoPow k * 2 from rfl, Nat.cast_mul, ih, pow_succ]
    rfl

theorem shiftRight_mantissa (k : Nat) : (em >>> k).mantissa = em.mantissa / twoPow k := by
  change (k.repeat shiftRightOne em).mantissa = _
  induction k with
  | zero => exact (Nat.div_one _).symm
  | succ k ih =>
    change (k.repeat shiftRightOne em).mantissa / 2 = _
    rw [ih, Nat.div_div_eq_div_mul]
    rfl

theorem roundedMantissa_cases :
    em.roundedMantissa = em.mantissa ∨ em.roundedMantissa = em.mantissa + 1 ∧ em.roundBit := by
  obtain ⟨m, r, s⟩ := em
  unfold ExtendedMantissa.roundedMantissa
  cases r <;> cases s <;> simp [accuracy, Accuracy.roundToNearestEven]
  omega

def excess (m : Nat) (e : Int) : Nat := (max ((m.log2 : Int) + 1 + e - 53) (-1074) - e).toNat

theorem lt_twoPow_excess (m : Nat) (e : Int) : m < 2 ^ 53 * twoPow (excess m e) := by
  have hlog : m.log2 + 1 ≤ 53 + excess m e := by
    unfold excess
    omega
  calc m < twoPow (m.log2 + 1) := Nat.lt_log2_self
    _ ≤ twoPow (53 + excess m e) := twoPow_le_twoPow hlog
    _ = 2 ^ 53 * twoPow (excess m e) := by
      rw [twoPow_add, show twoPow 53 = 2 ^ 53 by decide]

def rounded (m : Nat) (e : Int) (a : Accuracy) : Nat :=
  (ofMantissaAndAccuracy m a >>> excess m e).roundedMantissa

section
variable {m : Nat} {e : Int} {a : Accuracy}

theorem rounded_cases (m : Nat) (e : Int) (a : Accuracy) :
    rounded m e a = m / twoPow (excess m e) ∨
      rounded m e a = m / twoPow (excess m e) + 1 ∧ (excess m e = 0 ∧ a ≠ .exact ∨
        twoPow (excess m e) ≤ 2 * (m % twoPow (excess m e))) := by
  have hsame : (ofMantissaAndAccuracy m a).mantissa = m := by
    cases a with
    | exact => rfl
    | inexact o => cases o <;> rfl
  have hcases := roundedMantissa_cases (ofMantissaAndAccuracy m a >>> excess m e)
  rw [shiftRight_mantissa, hsame] at hcases
  refine hcases.imp_right (And.imp_right fun hbit => ?_)
  cases hexcess : excess m e with
  | zero =>
    rw [hexcess] at hbit
    refine .inl ⟨rfl, ?_⟩
    rintro rfl
    cases hbit
  | succ k =>
    rw [hexcess] at hbit
    change ((ofMantissaAndAccuracy m a >>> k).mantissa % 2 != 0) at hbit
    rw [shiftRight_mantissa, hsame, bne_iff_ne] at hbit
    -- the bit that is cut off last is the one below the last place
    have hdouble : twoPow (k + 1) = twoPow k * 2 := twoPow_add k 1
    have hrest := Nat.mod_mul (x := m) (a := twoPow k) (b := 2)
    have h1 : m / twoPow k % 2 = 1 := by omega
    rw [h1, Nat.mul_one] at hrest
    rw [hdouble, hrest]
    exact .inr (by omega)

theorem le_rounded : m / twoPow (excess m e) ≤ rounded m e a := by
  obtain h | ⟨h, -⟩ := rounded_cases m e a <;> omega

theorem rounded_le : rounded m e a ≤ 2 ^ 53 := by
  have hshort := (Nat.div_lt_iff_lt_mul (twoPow_pos _)).mpr (lt_twoPow_excess m e)
  obtain h | ⟨h, -⟩ := rounded_cases m e a <;> omega

theorem rounded_le_of_le {bound : Nat} (h : m ≤ bound * twoPow (excess m e))
    (hexact : m = bound * twoPow (excess m e) → a = .exact) : rounded m e a ≤ bound := by
  have hunit := twoPow_pos (excess m e)
  have hquot : m / twoPow (excess m e) ≤ bound := Nat.div_le_of_le_mul (by rwa [Nat.mul_comm])
  obtain hdown | ⟨hup, hhalf⟩ := rounded_cases m e a
  · omega
  by_contra hbig
  have hall : m = bound * twoPow (excess m e) := by
    have hfull := Nat.div_mul_le_self m (twoPow (excess m e))
    rw [show m / twoPow (excess m e) = bound by omega] at hfull
    omega
  obtain ⟨-, hmore⟩ | hhalf := hhalf
  · exact hmore (hexact hall)
  · have hrest := Nat.mod_eq_zero_of_dvd (Dvd.intro_left bound hall.symm)
    omega

theorem rounded_le_half : 2 * (rounded m e .exact * twoPow (excess m e)) ≤
    2 * m + twoPow (excess m e) := by
  have hdivision := Nat.div_add_mod' m (twoPow (excess m e))
  obtain hdown | ⟨hup, ⟨-, hmore⟩ | hhalf⟩ := rounded_cases m e .exact
  · rw [hdown]
    omega
  · exact absurd rfl hmore
  · rw [hup, Nat.add_mul, Nat.one_mul]
    omega

theorem least_le_shifted (m : Nat) (e : Int) : -1074 ≤ e + excess m e := by
  unfold excess
  omega

theorem roundWithAccuracy_cases (s : Sign) :
    (rounded m e a = 0 ∧ roundWithAccuracy .binary64 s m e a = .zero s) ∨
    ∃ (n j : Nat) (hn : 0 < n), n * twoPow j = rounded m e a ∧ (j = 0 ∨ n = 2 ^ 52) ∧
      n < 2 ^ 53 ∧
      roundWithAccuracy .binary64 s m e a = .finite s n (e + excess m e + j) hn := by
  have hlo := least_le_shifted m e
  have hwidth : rounded m e a ≤ 2 ^ 53 := rounded_le
  have hround : roundWithAccuracy .binary64 s m e a =
      if h : (ExtendedMantissa.mk (rounded m e a) false false >>>
          excess (rounded m e a) (e + excess m e)).mantissa = 0 then .zero s
      else .finite s _ (e + excess m e + excess (rounded m e a) (e + excess m e))
        (Nat.pos_of_ne_zero h) := by
    unfold roundWithAccuracy
    rfl
  have hmant := shiftRight_mantissa (ExtendedMantissa.mk (rounded m e a) false false)
    (excess (rounded m e a) (e + excess m e))
  dsimp only at hmant
  generalize e + excess m e = f at *
  generalize rounded m e a = r at *
  by_cases h0 : r = 0
  · subst h0
    rw [dif_pos (by rw [hmant, Nat.zero_div])] at hround
    exact .inl ⟨rfl, hround⟩
  right
  by_cases hcarry : r < 2 ^ 53
  · have hlog : r.log2 < 53 := (Nat.log2_lt h0).mpr hcarry
    have hnone : excess r f = 0 := by
      unfold excess
      omega
    rw [hnone, show twoPow 0 = 1 from rfl, Nat.div_one] at hmant
    rw [hnone, dif_neg (by omega)] at hround
    refine ⟨r, 0, by omega, Nat.mul_one r, .inl rfl, hcarry, hround.trans ?_⟩
    exact finite_congr hmant rfl
  · have hpow : r = 2 ^ 53 := by omega
    have hlog : r.log2 = 53 := by
      rw [hpow]
      decide +kernel
    have h1 : excess r f = 1 := by
      unfold excess
      omega
    rw [h1, hpow, show 2 ^ 53 / twoPow 1 = 2 ^ 52 by decide] at hmant
    rw [h1, dif_neg (by rw [hpow, hmant]; decide)] at hround
    refine ⟨2 ^ 52, 1, by decide, ?_, .inr rfl, by decide, hround.trans ?_⟩
    · rw [hpow]
      decide
    · refine finite_congr ?_ rfl
      rw [hpow]
      exact hmant

theorem worth_roundWithAccuracy (s : Sign) :
    worth (roundWithAccuracy .binary64 s m e a) =
      signed s (rounded m e a * 2 ^ (e + excess m e)) := by
  obtain ⟨h0, hround⟩ | ⟨n, j, hn, hr, -, -, hround⟩ := roundWithAccuracy_cases (a := a) s
  · rw [hround, h0, Nat.cast_zero, zero_mul]
    cases s with
    | positive => rfl
    | negative => exact neg_zero.symm
  · rw [hround, ← hr]
    refine congrArg (signed s) ?_
    rw [zpow_add₀ two_ne_zero, zpow_natCast, Nat.cast_mul, cast_twoPow]
    ring

def Long (m : Nat) (e : Int) : Prop := 4503599627370496 ≤ m ∨ e ≤ -1074

theorem Long.le_shifted (h : Long m e) (he : -1074 < e + excess m e) :
    2 ^ 52 ≤ m / twoPow (excess m e) := by
  by_cases hexcess : excess m e = 0
  · rw [hexcess] at he ⊢
    rw [show twoPow 0 = 1 from rfl, Nat.div_one]
    exact h.resolve_right (by omega)
  · have hlog : m.log2 = 52 + excess m e := by
      unfold excess at hexcess he ⊢
      omega
    have hm : m ≠ 0 := by
      rintro rfl
      rw [Nat.log2_zero] at hlog
      omega
    have hlo : twoPow m.log2 ≤ m := Nat.log2_self_le hm
    rw [Nat.le_div_iff_mul_le (twoPow_pos _)]
    rwa [hlog, twoPow_add, show twoPow 52 = 2 ^ 52 by decide] at hlo

theorem Long.canonical (h : Long m e) (s : Sign) :
    Canonical (roundWithAccuracy .binary64 s m e a) := by
  have hlo := least_le_shifted m e
  obtain ⟨-, hround⟩ | ⟨n, j, hn, hr, hj, hwidth, hround⟩ := roundWithAccuracy_cases (a := a) s
  · rw [hround]
    trivial
  · rw [hround]
    refine ⟨by omega, ?_⟩
    by_cases hfull : 2 ^ 52 ≤ n
    · exact .inl ((Nat.log2_eq_iff (by omega)).mpr ⟨hfull, hwidth⟩)
    · obtain rfl : j = 0 := by omega
      have hshort : n.log2 < 52 := (Nat.log2_lt (by omega)).mpr (by omega)
      refine .inr ⟨hshort, ?_⟩
      -- a mantissa that is too short can only stand at the least place
      by_contra habove
      have hlong := h.le_shifted (by omega)
      have hle : m / twoPow (excess m e) ≤ rounded m e a := le_rounded
      rw [← hr, show twoPow 0 = 1 from rfl] at hle
      omega

theorem Long.lt_shifted (h : Long m e) {k j : ℤ} (hk : |k| < 2 ^ 53) (hj : -1074 ≤ j)
    (hlt : j < e + excess m e) :
    (k : ℚ) * 2 ^ j < (m / twoPow (excess m e) : ℕ) * 2 ^ (e + excess m e) := by
  have hlong : (2 ^ 52 : ℚ) ≤ (m / twoPow (excess m e) : ℕ) := by
    exact_mod_cast h.le_shifted (by omega)
  have hhalf : (2 : ℚ) ^ j ≤ 2 ^ (e + excess m e - 1) :=
    zpow_le_zpow_right₀ one_le_two (by omega)
  have hk' : (k : ℚ) < 2 ^ 53 := by exact_mod_cast (abs_lt.mp hk).2
  have hpos : (0 : ℚ) < 2 ^ j := by positivity
  rw [zpow_sub_one₀ two_ne_zero] at hhalf
  nlinarith

theorem mul_two_zpow_of_le (k : ℤ) {j f : ℤ} (h : f ≤ j) :
    (k : ℚ) * 2 ^ j = (k * twoPow (j - f).toNat : ℤ) * 2 ^ f := by
  obtain ⟨n, rfl⟩ := Int.le.dest h
  rw [show (f + n - f : ℤ).toNat = n by omega, zpow_add₀ two_ne_zero, zpow_natCast]
  push_cast
  rw [cast_twoPow]
  ring

theorem two_zpow_add_natCast (e : ℤ) (x : ℕ) : (2 : ℚ) ^ (e + x) = (twoPow x : ℕ) * 2 ^ e := by
  rw [zpow_add₀ two_ne_zero, zpow_natCast, mul_comm, cast_twoPow]

theorem shifted_le (m : ℕ) (e : ℤ) :
    ((m / twoPow (excess m e) : ℕ) : ℚ) * 2 ^ (e + excess m e) ≤ m * 2 ^ e := by
  rw [two_zpow_add_natCast, ← mul_assoc]
  refine mul_le_mul_of_nonneg_right ?_ (by positivity)
  exact_mod_cast Nat.div_mul_le_self m _

section
variable {q b : ℚ} (h : Long m e) (hb : IsDouble b)
include h hb

theorem Long.rounded_le (hlo : m * 2 ^ e ≤ q) (hexact : q = m * 2 ^ e → a = .exact)
    (hle : q ≤ b) : (rounded m e a : ℚ) * 2 ^ (e + excess m e) ≤ b := by
  obtain ⟨k, j, hk, hj, rfl⟩ := hb
  rcases lt_or_ge j (e + excess m e) with hlt | hge
  · linarith [h.lt_shifted hk hj hlt, shifted_le m e]
  -- both are multiples of the place at which the number is rounded
  rw [mul_two_zpow_of_le k hge] at hle ⊢
  generalize k * twoPow (j - (e + excess m e)).toNat = n at hle ⊢
  rw [two_zpow_add_natCast, ← mul_assoc] at hle
  have hplace : (0 : ℚ) < 2 ^ e := by positivity
  have hn : (m : ℤ) ≤ n * twoPow (excess m e) := by
    exact_mod_cast le_of_mul_le_mul_right (hlo.trans hle) hplace
  obtain ⟨bound, rfl⟩ : ∃ bound : ℕ, n = bound := by
    refine Int.eq_ofNat_of_zero_le (nonneg_of_mul_nonneg_left (b := (twoPow (excess m e) : ℤ)) ?_ ?_)
    · omega
    · exact_mod_cast twoPow_pos _
  have hrnd : rounded m e a ≤ bound := by
    refine rounded_le_of_le (by exact_mod_cast hn) fun heq => hexact (le_antisymm ?_ hlo)
    have heq' : (m : ℚ) = (bound : ℤ) * (twoPow (excess m e) : ℕ) := by exact_mod_cast heq
    rwa [heq']
  refine mul_le_mul_of_nonneg_right ?_ (by positivity)
  exact_mod_cast hrnd

theorem Long.le_rounded (hhi : q < (m + 1) * 2 ^ e) (hle : b ≤ q) :
    b ≤ (rounded m e a : ℚ) * 2 ^ (e + excess m e) := by
  have hfloor : (m / twoPow (excess m e) : ℕ) * (2 : ℚ) ^ (e + excess m e) ≤
      (rounded m e a : ℚ) * 2 ^ (e + excess m e) := by
    refine mul_le_mul_of_nonneg_right ?_ (by positivity)
    exact_mod_cast Rover.le_rounded
  obtain ⟨k, j, hk, hj, rfl⟩ := hb
  rcases lt_or_ge j (e + excess m e) with hlt | hge
  · linarith [h.lt_shifted hk hj hlt]
  rw [mul_two_zpow_of_le k hge] at hle ⊢
  generalize k * twoPow (j - (e + excess m e)).toNat = n at hle ⊢
  rw [two_zpow_add_natCast, ← mul_assoc] at hle
  have hplace : (0 : ℚ) < 2 ^ e := by positivity
  have hn : n * twoPow (excess m e) < (m : ℤ) + 1 := by
    exact_mod_cast lt_of_mul_lt_mul_right (hle.trans_lt hhi) hplace.le
  have hquot : n ≤ ((m / twoPow (excess m e) : ℕ) : ℤ) := by
    rw [Int.natCast_ediv]
    exact (Int.le_ediv_iff_mul_le (by exact_mod_cast twoPow_pos _)).mpr (by omega)
  have hquot' : (n : ℚ) ≤ ((m / twoPow (excess m e) : ℕ) : ℤ) := Int.cast_le.mpr hquot
  exact le_trans (mul_le_mul_of_nonneg_right hquot' (by positivity)) hfloor

end

theorem Long.rounds (h : Long m e) {q : ℚ} (hlo : m * 2 ^ e ≤ q) (hhi : q < (m + 1) * 2 ^ e)
    (hexact : q = m * 2 ^ e → a = .exact) (s : Sign) :
    Rounds (signed s q) (worth (roundWithAccuracy .binary64 s m e a)) := by
  rw [worth_roundWithAccuracy]
  refine Rounds.signed ⟨fun b hb hle => ?_, fun b hb hle => ?_⟩ s
  · exact h.rounded_le hb hlo hexact hle
  · exact h.le_rounded hb hhi hle

end

def half : ℚ := 2 ^ (970 : ℤ)

theorem half_pos : 0 < half := zpow_pos two_pos _

theorem two_zpow_971 : (2 : ℚ) ^ (971 : ℤ) = 2 * half := by
  rw [show (971 : ℤ) = 970 + 1 from rfl, zpow_add_one₀ two_ne_zero, mul_comm]
  rfl

structure Becomes (q : ℚ) (u : UnpackedFloat) : Prop where
  canonical : Canonical u
  rounds : Rounds q (worth u)

/-- A number that is less than half a unit above the largest double is not rounded up from it. -/
structure BecomesNearest (q : ℚ) (u : UnpackedFloat) : Prop extends Becomes q u where
  bounded : |q| < 18014398509481983 * half → |worth u| < 18014398509481984 * half

theorem Canonical.becomes {u : UnpackedFloat} (h : Canonical u) : BecomesNearest (worth u) u :=
  ⟨⟨h, Rounds.refl _⟩, fun hlt => by linarith [half_pos]⟩

theorem Long.bounded {m : ℕ} {e : ℤ} (h : Long m e) (hlt : m * 2 ^ e < 18014398509481983 * half) :
    (rounded m e .exact : ℚ) * 2 ^ (e + excess m e) < 18014398509481984 * half := by
  have hplace : e + excess m e ≤ 971 := by
    by_contra hbig
    have hfull : (2 ^ 52 : ℚ) ≤ (m / twoPow (excess m e) : ℕ) := by
      exact_mod_cast h.le_shifted (by omega)
    have hpow : (2 : ℚ) ^ (971 : ℤ) * 2 ≤ 2 ^ (e + excess m e) := by
      rw [← zpow_add_one₀ two_ne_zero]
      exact zpow_le_zpow_right₀ one_le_two (by omega)
    rw [two_zpow_971] at hpow
    have hle := mul_le_mul hfull hpow (by linarith [half_pos]) (by positivity)
    linarith [shifted_le m e, half_pos]
  have hpow : (2 : ℚ) ^ (e + excess m e) ≤ 2 * half := by
    rw [← two_zpow_971]
    exact zpow_le_zpow_right₀ one_le_two hplace
  have hhalf : (2 : ℚ) * (rounded m e .exact * (twoPow (excess m e) : ℕ)) ≤
      2 * m + (twoPow (excess m e) : ℕ) := by exact_mod_cast rounded_le_half
  have hscaled := mul_le_mul_of_nonneg_right hhalf (show (0 : ℚ) ≤ 2 ^ e by positivity)
  rw [two_zpow_add_natCast] at hpow ⊢
  linarith

theorem Long.becomes {m : ℕ} {e : ℤ} (h : Long m e) (s : Sign) :
    BecomesNearest (signed s (m * 2 ^ e)) (roundWithAccuracy .binary64 s m e .exact) := by
  have hplace : (0 : ℚ) < 2 ^ e := by positivity
  refine ⟨⟨h.canonical s, h.rounds le_rfl (by linarith) (fun _ => rfl) s⟩, fun hlt => ?_⟩
  rw [abs_signed, abs_of_nonneg (by positivity)] at hlt
  rw [worth_roundWithAccuracy, abs_signed, abs_of_nonneg (by positivity)]
  exact h.bounded hlt

theorem becomes_zero (s : Sign) : BecomesNearest 0 (.zero s) := Canonical.becomes (u := .zero s) trivial

theorem becomes_round (s : Sign) {m : ℕ} (hm : m ≠ 0) (e : ℤ) :
    BecomesNearest (signed s (m * 2 ^ e)) (round .binary64 s m e) := by
  have hround : round .binary64 s m e = roundWithAccuracy .binary64 s
      (m <<< (e - max ((m.log2 : ℤ) + 1 + e - 53) (-1074)).toNat)
      (e - (e - max ((m.log2 : ℤ) + 1 + e - 53) (-1074)).toNat) .exact := rfl
  obtain ⟨j, hj⟩ : ∃ j, (e - max ((m.log2 : ℤ) + 1 + e - 53) (-1074)).toNat = j := ⟨_, rfl⟩
  have hlong : Long (m * twoPow j) (e - j) := by
    by_cases hleast : e - j ≤ -1074
    · exact .inr hleast
    · have hlo : twoPow m.log2 ≤ m := Nat.log2_self_le hm
      refine .inl ?_
      calc 2 ^ 52 = twoPow 52 := by decide
        _ ≤ twoPow (m.log2 + j) := twoPow_le_twoPow (by omega)
        _ = twoPow m.log2 * twoPow j := twoPow_add ..
        _ ≤ m * twoPow j := Nat.mul_le_mul_right _ hlo
  have hsame : ((m * twoPow j : ℕ) : ℚ) * 2 ^ (e - j) = m * 2 ^ e := by
    have hsplit := two_zpow_add_natCast (e - j) j
    rw [sub_add_cancel] at hsplit
    rw [hsplit]
    push_cast
    ring
  rw [hround, hj, Nat.shiftLeft_eq, ← hsame]
  exact hlong.becomes s

theorem becomes_normalize (n e : ℤ) (s : Sign) :
    BecomesNearest (n * 2 ^ e) (normalize .binary64 n e s) := by
  unfold UnpackedFloat.normalize
  cases hn : compare n 0 with
  | lt =>
    have hneg : n < 0 := Int.compare_eq_lt.mp hn
    have hcast : ((-n).toNat : ℚ) = -n := by
      have htoNat := Int.toNat_of_nonneg (a := -n) (by omega)
      exact_mod_cast congrArg (Int.cast (R := ℚ)) htoNat
    have hround := becomes_round .negative (m := (-n).toNat) (by omega) e
    rw [hcast] at hround
    have hsgn : signed .negative (-n * 2 ^ e) = n * 2 ^ e := by
      change -(-(n : ℚ) * 2 ^ e) = _
      ring
    rwa [hsgn] at hround
  | eq =>
    rw [Int.compare_eq_eq.mp hn, Int.cast_zero, zero_mul]
    exact becomes_zero s
  | gt =>
    have hpos : 0 < n := Int.compare_eq_gt.mp hn
    have hcast : (n.toNat : ℚ) = n := by
      have htoNat := Int.toNat_of_nonneg (a := n) (by omega)
      exact_mod_cast congrArg (Int.cast (R := ℚ)) htoNat
    have hround := becomes_round .positive (m := n.toNat) (by omega) e
    rwa [hcast] at hround

theorem worth_eq_apply (s : Sign) (m : ℕ) (e : ℤ) (hm : 0 < m) :
    worth (.finite s m e hm) = (s.apply m : ℤ) * 2 ^ e := by
  cases s with
  | positive => rfl
  | negative =>
    change -((m : ℚ) * 2 ^ e) = ((-m : ℤ) : ℚ) * 2 ^ e
    push_cast
    ring

section
variable {u v : UnpackedFloat} {k : ℕ}

theorem apply_shiftLeft (s : Sign) (m : ℕ) {e f : ℤ} (h : f ≤ e) :
    ((s.apply (m <<< (e - f).toNat : ℕ) : ℤ) : ℚ) * 2 ^ f = (s.apply m : ℤ) * 2 ^ e := by
  rw [mul_two_zpow_of_le _ h, Nat.shiftLeft_eq]
  cases s with
  | positive => rfl
  | negative =>
    refine congrArg (fun n : ℤ => (n : ℚ) * 2 ^ f) ?_
    change -((m * twoPow (e - f).toNat : ℕ) : ℤ) = -m * twoPow (e - f).toNat
    push_cast
    ring

theorem Canonical.add (hu : Canonical u) (hv : Canonical v) :
    BecomesNearest (worth u + worth v) (add .binary64 u v) := by
  obtain ⟨s, rfl⟩ | ⟨s, m, e, hm, rfl, -⟩ := hu.cases
  · have h0 : worth (.zero s) = 0 := rfl
    rw [h0, zero_add]
    obtain ⟨t, rfl⟩ | ⟨t, n, f, hn, rfl, -⟩ := hv.cases
    · cases s <;> cases t <;> exact becomes_zero _
    · exact hv.becomes
  · obtain ⟨t, rfl⟩ | ⟨t, n, f, hn, rfl, -⟩ := hv.cases
    · have h0 : worth (.zero t) = 0 := rfl
      rw [h0, add_zero]
      exact hu.becomes
    · rw [worth_eq_apply, worth_eq_apply, ← apply_shiftLeft s m (min_le_left e f),
        ← apply_shiftLeft t n (min_le_right e f), ← add_mul, ← Int.cast_add]
      exact becomes_normalize _ _ _

theorem Canonical.mul (hu : Canonical u) (hv : Canonical v) :
    BecomesNearest (worth u * worth v) (mul .binary64 u v) := by
  obtain ⟨s, rfl⟩ | ⟨s, m, e, hm, rfl, he, hbits⟩ := hu.cases
  · have h0 : worth (.zero s) = 0 := rfl
    rw [h0, zero_mul]
    obtain ⟨t, rfl⟩ | ⟨t, n, f, hn, rfl, -⟩ := hv.cases <;> exact becomes_zero _
  · obtain ⟨t, rfl⟩ | ⟨t, n, f, hn, rfl, hf, hbits'⟩ := hv.cases
    · have h0 : worth (.zero t) = 0 := rfl
      rw [h0, mul_zero]
      exact becomes_zero _
    · have hlong : Long (m * n) (e + f) := by
        have hfull {k : ℕ} (hk : 0 < k) (hlog : k.log2 = 52) : 2 ^ 52 ≤ k :=
          ((Nat.log2_eq_iff (by omega)).mp hlog).1
        rcases hbits with hlog | ⟨-, rfl⟩
        · exact .inl (Nat.le_trans (hfull hm hlog) (Nat.le_mul_of_pos_right m hn))
        · rcases hbits' with hlog | ⟨-, rfl⟩
          · exact .inl (Nat.le_trans (hfull hn hlog) (Nat.le_mul_of_pos_left n hm))
          · exact .inr (by omega)
      have hprod : signed s (m * 2 ^ e) * signed t (n * 2 ^ f) =
          signed (s * t) ((m * n : ℕ) * 2 ^ (e + f)) := by
        rw [signed_mul, zpow_add₀ two_ne_zero]
        push_cast
        refine congrArg (signed (s * t)) ?_
        ring
      change BecomesNearest (signed s (m * 2 ^ e) * signed t (n * 2 ^ f)) _
      rw [hprod]
      exact hlong.becomes (s * t)

theorem Canonical.neg (h : Canonical u) : Canonical u.neg := by
  obtain ⟨s, rfl⟩ | ⟨s, m, e, hm, rfl, hbits⟩ := h.cases
  · trivial
  · exact hbits

theorem worth_neg (u : UnpackedFloat) : worth u.neg = -worth u := by
  cases u with
  | finite s m e hm =>
    cases s with
    | positive => rfl
    | negative => exact (neg_neg _).symm
  | _ => exact neg_zero.symm

theorem sub_eq_add_neg_unpacked (u v : UnpackedFloat) :
    sub .binary64 u v = add .binary64 u v.neg := by
  cases u with
  | notANumber => rfl
  | infinity s => cases v <;> rfl
  | zero s => cases v <;> rfl
  | finite s m e hm =>
    cases v with
    | finite t n f hn =>
      have happly : ∀ k : Int, (-t).apply k = -t.apply k := by
        intro k
        cases t with
        | negative => exact (Int.neg_neg k).symm
        | positive => rfl
      change normalize .binary64 (s.apply _ - t.apply _) _ _ =
        normalize .binary64 (s.apply _ + (-t).apply _) _ _
      rw [happly, Int.sub_eq_add_neg]
    | _ => rfl

theorem Canonical.sub (hu : Canonical u) (hv : Canonical v) :
    BecomesNearest (worth u - worth v) (sub .binary64 u v) := by
  rw [sub_eq_add_neg_unpacked, sub_eq_add_neg, ← worth_neg]
  exact hu.add hv.neg

theorem long_div {m n : ℕ} {e f place : ℤ} (hm : m ≠ 0)
    (hplace : place = min (e - f) (max ((m.log2 : ℤ) + 1 + e - (n.log2 + 1 + f) - 53) (-1074)))
    (hk : (e - f - place).toNat = k) (hn : 0 < n) : Long (m * twoPow k / n) place := by
  by_cases hleast : place ≤ -1074
  · exact .inr hleast
  · have hlo : twoPow m.log2 ≤ m := Nat.log2_self_le hm
    have hhi : n < twoPow (n.log2 + 1) := Nat.lt_log2_self
    have hbits : 52 + (n.log2 + 1) ≤ m.log2 + k := by omega
    refine .inl ((Nat.le_div_iff_mul_le hn).mpr ?_)
    calc 2 ^ 52 * n ≤ twoPow 52 * twoPow (n.log2 + 1) := by
          exact Nat.mul_le_mul_left _ hhi.le
      _ = twoPow (52 + (n.log2 + 1)) := (twoPow_add ..).symm
      _ ≤ twoPow (m.log2 + k) := twoPow_le_twoPow hbits
      _ = twoPow m.log2 * twoPow k := twoPow_add ..
      _ ≤ m * twoPow k := Nat.mul_le_mul_right _ hlo

theorem Long.becomes_fraction {num den : ℕ} {place : ℤ} (h : Long (num / den) place)
    (hden : 0 < den) (s : Sign) :
    Becomes (signed s (num / den * 2 ^ place)) (roundWithAccuracy .binary64 s (num / den) place
      (accuracyOfFraction (num % den) den)) := by
  have hden' : (0 : ℚ) < den := by exact_mod_cast hden
  have hplace : (0 : ℚ) < 2 ^ place := by positivity
  refine ⟨h.canonical _, h.rounds ?_ ?_ (fun heq => ?_) _⟩
  · refine mul_le_mul_of_nonneg_right ?_ hplace.le
    rw [le_div_iff₀ hden']
    exact_mod_cast Nat.div_mul_le_self _ _
  · refine mul_lt_mul_of_pos_right ?_ hplace
    rw [div_lt_iff₀ hden']
    exact_mod_cast Nat.lt_mul_of_div_lt (Nat.lt_succ_self _) hden
  · have hexact : (num : ℚ) = (num / den : ℕ) * den := by
      rw [← mul_right_cancel₀ hplace.ne' heq, div_mul_cancel₀ _ hden'.ne']
    have hwhole : num = num / den * den := by exact_mod_cast hexact
    have hrest : num % den = 0 := by
      have hdivision := Nat.div_add_mod' num den
      omega
    rw [hrest]
    rfl

theorem Canonical.div (hu : Canonical u) (hv : Canonical v) (h0 : worth v ≠ 0) :
    Becomes (worth u / worth v) (div .binary64 u v) := by
  obtain ⟨t, rfl⟩ | ⟨t, n, f, hn, rfl, -⟩ := hv.cases
  · exact absurd rfl h0
  obtain ⟨s, rfl⟩ | ⟨s, m, e, hm, rfl, -⟩ := hu.cases
  · have hnothing : worth (.zero s) = 0 := rfl
    rw [hnothing, zero_div]
    exact (becomes_zero _).toBecomes
  obtain ⟨place, hplace⟩ : ∃ place, place =
      min (e - f) (max ((m.log2 : ℤ) + 1 + e - (n.log2 + 1 + f) - 53) (-1074)) := ⟨_, rfl⟩
  obtain ⟨k, hk⟩ : ∃ k, (e - f - place).toNat = k := ⟨_, rfl⟩
  have hdiv : div .binary64 (.finite s m e hm) (.finite t n f hn) =
      roundWithAccuracy .binary64 (s / t) (m * twoPow k / n) place
        (accuracyOfFraction (m * twoPow k % n) n) := by
    rw [← hk, hplace, show m * twoPow _ = m <<< _ from (Nat.shiftLeft_eq ..).symm]
    rfl
  have hexp : e = f + place + k := by omega
  have hquot : (m : ℚ) * 2 ^ e / (n * 2 ^ f) = (m * twoPow k : ℕ) / n * 2 ^ place := by
    rw [hexp, two_zpow_add_natCast, zpow_add₀ two_ne_zero]
    push_cast
    field_simp
  change Becomes (signed s (m * 2 ^ e) / signed t (n * 2 ^ f)) _
  rw [hdiv, signed_div, hquot]
  exact (long_div (by omega) hplace hk hn).becomes_fraction hn _

/-- Going from the root of one number to the other does not pass a double. -/
structure Roots (q z : ℚ) : Prop where
  le : ∀ b, IsDouble b → 0 ≤ b → q ≤ b * b → z ≤ b
  ge : ∀ b, IsDouble b → b * b ≤ q → b ≤ z

theorem long_sqrt {m : ℕ} {e place : ℤ} (hm : m ≠ 0)
    (hplace : place = min (e / 2) (max (((m.log2 : ℤ) + 1 + e + 1) / 2 - 53) (-1074)))
    (hk : (e - 2 * place).toNat = k) : Long (Nat.sqrt (m * twoPow k)) place := by
  by_cases hleast : place ≤ -1074
  · exact .inr hleast
  · have hlo : twoPow m.log2 ≤ m := Nat.log2_self_le hm
    have hbits : 52 + 52 ≤ m.log2 + k := by omega
    refine .inl (Nat.le_sqrt.mpr ?_)
    calc 2 ^ 52 * 2 ^ 52 = twoPow (52 + 52) := by decide
      _ ≤ twoPow (m.log2 + k) := twoPow_le_twoPow hbits
      _ = twoPow m.log2 * twoPow k := twoPow_add ..
      _ ≤ m * twoPow k := Nat.mul_le_mul_right _ hlo

theorem sqrt_finite {m : ℕ} {e place : ℤ} (hm : 0 < m)
    (hplace : place = min (e / 2) (max (((m.log2 : ℤ) + 1 + e + 1) / 2 - 53) (-1074)))
    (hk : (e - 2 * place).toNat = k) :
    ∃ a : Accuracy, UnpackedFloat.sqrt .binary64 (.finite .positive m e hm) =
        roundWithAccuracy .binary64 .positive (Nat.sqrt (m * twoPow k)) place a ∧
      (m * twoPow k ≤ Nat.sqrt (m * twoPow k) * Nat.sqrt (m * twoPow k) → a = .exact) := by
  refine ⟨if m * twoPow k - Nat.sqrt (m * twoPow k) * Nat.sqrt (m * twoPow k) = 0 then .exact
    else .inexact (if m * twoPow k - Nat.sqrt (m * twoPow k) * Nat.sqrt (m * twoPow k) ≤
      Nat.sqrt (m * twoPow k) then .lt else .gt), ?_, fun hle => if_pos (by omega)⟩
  rw [← hk, hplace, show m * twoPow _ = m <<< _ from (Nat.shiftLeft_eq ..).symm]
  rfl

theorem Canonical.sqrt (hu : Canonical u) (hpos : 0 ≤ worth u) :
    Canonical (sqrt .binary64 u) ∧ Roots (worth u) (worth (sqrt .binary64 u)) := by
  obtain ⟨s, rfl⟩ | ⟨s, m, e, hm, rfl, -⟩ := hu.cases
  · refine ⟨trivial, fun b _ hb _ => hb, fun b _ hle => ?_⟩
    change b * b ≤ 0 at hle
    change b ≤ 0
    nlinarith
  cases s with
  | negative =>
    have hbelow : (0 : ℚ) < m * 2 ^ e := by positivity
    exact absurd hpos (by change ¬ 0 ≤ -((m : ℚ) * 2 ^ e); linarith)
  | positive =>
    obtain ⟨place, hplace⟩ : ∃ place, place =
        min (e / 2) (max (((m.log2 : ℤ) + 1 + e + 1) / 2 - 53) (-1074)) := ⟨_, rfl⟩
    obtain ⟨k, hk⟩ : ∃ k, (e - 2 * place).toNat = k := ⟨_, rfl⟩
    obtain ⟨a, hsqrt, hexact⟩ := sqrt_finite hm hplace hk
    have hlong := long_sqrt (by omega) hplace hk
    have hexp : e = place + place + k := by omega
    have hworth : worth (.finite .positive m e hm) =
        (m * twoPow k : ℕ) * (2 ^ place * 2 ^ place) := by
      change (m : ℚ) * 2 ^ e = _
      rw [hexp, two_zpow_add_natCast, zpow_add₀ two_ne_zero]
      push_cast
      ring
    have hroot := Nat.sqrt_le (m * twoPow k)
    have hroot' := Nat.lt_succ_sqrt (m * twoPow k)
    rw [hsqrt, hworth]
    refine ⟨hlong.canonical _, ?_⟩
    rw [worth_roundWithAccuracy]
    generalize m * twoPow k = n at *
    generalize Nat.sqrt n = root at *
    have hlo : (root : ℚ) * root ≤ n := by exact_mod_cast hroot
    have hhi : (n : ℚ) < (root + 1) * (root + 1) := by exact_mod_cast hroot'
    have hsq : (0 : ℚ) < 2 ^ place * 2 ^ place := by positivity
    refine ⟨fun b hb hb' hle => ?_, fun b hb hle => ?_⟩
    · refine hlong.rounded_le hb (q := b) ?_ (fun heq => hexact ?_) le_rfl
      · refine (mul_self_le_mul_self_iff (by positivity) hb').mpr ?_
        calc (root : ℚ) * 2 ^ place * (root * 2 ^ place)
            = root * root * (2 ^ place * 2 ^ place) := by ring
          _ ≤ n * (2 ^ place * 2 ^ place) := mul_le_mul_of_nonneg_right hlo hsq.le
          _ ≤ b * b := hle
      · rw [heq, mul_mul_mul_comm] at hle
        exact_mod_cast le_of_mul_le_mul_right hle hsq
    · refine hlong.le_rounded hb (q := b) ?_ le_rfl
      refine lt_of_mul_self_lt_mul_self₀ (by positivity) ?_
      calc b * b ≤ n * (2 ^ place * 2 ^ place) := hle
        _ < (root + 1) * (root + 1) * (2 ^ place * 2 ^ place) :=
          mul_lt_mul_of_pos_right hhi hsq
        _ = (root + 1) * 2 ^ place * ((root + 1) * 2 ^ place) := by ring

end

section
variable {s : Sign} {m : ℕ} {e : ℤ} {hm : 0 < m} (h : Canonical (.finite s m e hm))
include h

theorem abs_worth_le_of_le (he : e ≤ 971) :
    |worth (.finite s m e hm)| ≤ 18014398509481982 * half := by
  have hbits := h.2
  have hwidth : m < 2 ^ 53 := (Nat.log2_lt (k := 53) (by omega)).mp (by omega)
  have hmant : (m : ℚ) ≤ 9007199254740991 := by exact_mod_cast Nat.le_of_lt_succ hwidth
  have hpow : (2 : ℚ) ^ e ≤ 2 * half := by
    rw [← two_zpow_971]
    exact zpow_le_zpow_right₀ one_le_two he
  have hle := mul_le_mul hmant hpow (by positivity) (by norm_num)
  change |signed s _| ≤ _
  rw [abs_signed, abs_of_nonneg (by positivity)]
  linarith

theorem le_abs_worth_of_lt (he : 971 < e) :
    18014398509481984 * half ≤ |worth (.finite s m e hm)| := by
  have hbits := h.2
  have hfull : 2 ^ 52 ≤ m := ((log2_eq_52_iff (by omega)).mp (by omega)).1
  have hmant : (2 ^ 52 : ℚ) ≤ m := by exact_mod_cast hfull
  have hpow : (2 : ℚ) ^ (971 : ℤ) * 2 ≤ 2 ^ e := by
    rw [← zpow_add_one₀ two_ne_zero]
    exact zpow_le_zpow_right₀ one_le_two (by omega)
  rw [two_zpow_971] at hpow
  have hle := mul_le_mul hmant hpow (by linarith [half_pos]) (by positivity)
  change _ ≤ |signed s _|
  rw [abs_signed, abs_of_nonneg (by positivity)]
  linarith

end

theorem Canonical.pack_cases {u : UnpackedFloat} (h : Canonical u) :
    (|worth u| ≤ 18014398509481982 * half ∧ (Float.Model.pack u).unpack = u) ∨
      ∃ s m e hm, u = .finite s m e hm ∧ 18014398509481984 * half ≤ |worth u| ∧
        (Float.Model.pack u).unpack = .infinity s := by
  obtain ⟨s, rfl⟩ | ⟨s, m, e, hm, rfl, -⟩ := h.cases
  · refine .inl ⟨?_, by cases s <;> rfl⟩
    exact (abs_zero (α := ℚ)).trans_le (by linarith [half_pos])
  · rcases le_or_gt e 971 with hle | hlt
    · exact .inl ⟨abs_worth_le_of_le h hle, unpack_pack_finite h hle⟩
    · refine .inr ⟨s, m, e, hm, rfl, le_abs_worth_of_lt h hlt, ?_⟩
      rw [pack_finite_of_lt hlt]
      cases s <;> rfl

end Rover
