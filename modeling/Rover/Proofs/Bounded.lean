import Rover.Proofs.Amount.Double

/-!
# Bounded numbers

Numbers of either kind that are at most so large in magnitude, and times that are numbers: adding
what is not negative to a time never leads below all of them.
-/

namespace Rover

open Float.Model (UnpackedFloat)
open Float.Model.UnpackedFloat

namespace Num

def Bounded (limit : Int) : Num → Prop
  | .int n => -limit ≤ n ∧ n ≤ limit
  | .float x => ∃ b, Binary.ofFloat? x = some b ∧ (b.fraction.1 : Int) ≤ limit * b.fraction.2

variable {limit k : Int} {x : Num}

theorem bounded_iff : x.Bounded limit ↔ x.IsFinite ∧ |x.amount| ≤ limit := by
  cases x with
  | int n =>
    change -limit ≤ n ∧ n ≤ limit ↔ True ∧ |(n : ℚ)| ≤ limit
    rw [true_and, ← abs_le]
    exact_mod_cast Iff.rfl
  | float y =>
    have hbd : ∀ {b}, Binary.ofFloat? y = some b →
        ((b.fraction.1 : Int) ≤ limit * b.fraction.2 ↔ |Rover.amount y| ≤ limit) := by
      intro b hb
      have hden : (0 : ℚ) < b.fraction.2 := by exact_mod_cast b.fraction_den_pos
      have hpart := congrArg (fun q : ℚ => |q|) (amount_of_ofFloat? hb)
      have habs : |((if b.negative then -(b.fraction.1 : ℤ) else b.fraction.1 : ℤ) : ℚ)| =
          b.fraction.1 := by
        split <;> simp
      simp only [habs, abs_mul, abs_of_pos hden] at hpart
      rw [← mul_le_mul_iff_left₀ hden, hpart]
      exact_mod_cast Iff.rfl
    constructor
    · rintro ⟨b, hb, hle⟩
      exact ⟨isFinite_of_ofFloat? hb, (hbd hb).mp hle⟩
    · rintro ⟨hfin, hle⟩
      obtain ⟨b, hb⟩ := exists_ofFloat?_of_isFinite hfin
      exact ⟨b, hb, (hbd hb).mpr hle⟩

theorem Bounded.neg (h : x.Bounded limit) : x.neg.Bounded limit := by
  rw [bounded_iff] at h ⊢
  cases x with
  | int n =>
    refine ⟨trivial, ?_⟩
    change |((-n : ℤ) : ℚ)| ≤ limit
    rw [Int.cast_neg, abs_neg]
    exact h.2
  | float y =>
    obtain ⟨hfin, hneg⟩ := amount_neg h.1
    refine ⟨hfin, ?_⟩
    change |Rover.amount (-y)| ≤ limit
    rw [hneg, abs_neg]
    exact h.2

theorem bounded_of_between (hlo : less (.int (-limit)) x)
    (hhi : x.less (.int limit)) : x.Bounded limit := by
  have hfin : x.IsFinite := by
    cases x with
    | int n => trivial
    | float y =>
      obtain ⟨-, hnone⟩ | ⟨hfin, -⟩ := Binary.ofFloat?_cases y
      · -- infinities and what is not a number at all are not between two whole numbers
        simp only [less, beq_iff_eq, compareInt, hnone] at hlo hhi
        rw [hlo] at hhi
        cases hhi
      · exact hfin
  rw [less_eq_amount (a := .int (-limit)) trivial hfin, decide_eq_true_iff] at hlo
  rw [less_eq_amount (b := .int limit) hfin trivial, decide_eq_true_iff] at hhi
  change ((-limit : ℤ) : ℚ) < x.amount at hlo
  exact bounded_iff.mpr ⟨hfin, abs_le.mpr ⟨hlo.le, hhi.le⟩⟩

end Num

namespace Value

def Bounded (limit : Int) (v : Value) : Prop := ∃ x, v.num? = some x ∧ x.Bounded limit

variable {limit k n : Int} {v w : Value}

theorem bounded_int : (Value.int n).Bounded limit ↔ -limit ≤ n ∧ n ≤ limit := by
  refine ⟨?_, fun h => ⟨.int n, rfl, h⟩⟩
  rintro ⟨x, hx, h⟩
  cases hx
  exact h

theorem Bounded.integer (h : v.Bounded limit) (hn : v.integer? = some n) :
    -limit ≤ n ∧ n ≤ limit := by
  obtain ⟨x, hx, hbd⟩ := h
  rw [num?_of_integer? hn] at hx
  cases hx
  exact hbd

theorem Bounded.neg (h : v.Bounded limit) : ∃ w, v.neg = .ok w ∧ w.Bounded limit := by
  obtain ⟨x, hx, hbd⟩ := h
  refine ⟨x.neg.toValue, ?_, x.neg, ?_, hbd.neg⟩
  · unfold Value.neg
    rw [hx]
  · cases x <;> rfl

theorem greater_eq_amount {x : Num} (hx : v.num? = some x) (h : x.IsFinite) (k : Int) :
    v.greater (.int k) = .ok (decide ((k : ℚ) < x.amount)) := by
  rw [greater_int, hx]
  exact congrArg Except.ok (Num.less_eq_amount (a := .int k) trivial h)

theorem less_eq_amount {x : Num} (hx : v.num? = some x) (h : x.IsFinite) (k : Int) :
    v.less (.int k) = .ok (decide (x.amount < k)) := by
  rw [less_int, hx]
  exact congrArg Except.ok (Num.less_eq_amount (b := .int k) h trivial)

theorem Bounded.not_above (h : v.Bounded limit) (hk : limit ≤ k) :
    v.greater (.int k) = .ok false := by
  obtain ⟨x, hx, hbd⟩ := h
  obtain ⟨hfin, hle⟩ := Num.bounded_iff.mp hbd
  rw [greater_eq_amount hx hfin, decide_eq_false (not_lt.mpr ?_)]
  exact (le_abs_self _).trans (hle.trans (by exact_mod_cast hk))

theorem Bounded.not_below (h : v.Bounded limit) (hk : limit ≤ k) :
    v.less (.int (-k)) = .ok false := by
  obtain ⟨x, hx, hbd⟩ := h
  obtain ⟨hfin, hle⟩ := Num.bounded_iff.mp hbd
  rw [less_eq_amount hx hfin, decide_eq_false (not_lt.mpr ?_)]
  rw [Int.cast_neg]
  exact neg_le.mp ((neg_le_abs _).trans (hle.trans (by exact_mod_cast hk)))

end Value

def Value.Seconds (most : Int) (v : Value) : Prop := v.Bounded most ∧ v.less (.int 0) = .ok false

theorem Value.Seconds.toFloat {most : Int} (hhi : most < 2 ^ 52) {v : Value}
    (h : v.Seconds most) :
    ∃ x y, v.num? = some x ∧ x.toFloat = .ok y ∧ y.isFinite ∧ |amount y| ≤ 2 ^ 200 := by
  obtain ⟨⟨x, hx, hbd⟩, -⟩ := h
  obtain ⟨hfin, hle⟩ := Num.bounded_iff.mp hbd
  have hbig : (most : ℚ) ≤ 2 ^ 200 := by
    have hhi' : (most : ℚ) < 2 ^ 52 := by exact_mod_cast hhi
    linarith
  cases x with
  | float y => exact ⟨_, y, hx, rfl, hfin, hle.trans hbig⟩
  | int n =>
    change |(n : ℚ)| ≤ most at hle
    have hn : |n| ≤ most := by exact_mod_cast hle
    obtain ⟨hfin, hamt⟩ := amount_nearestInt (n := n) (by omega)
    refine ⟨_, _, hx, toFloat_int (isInf_of_isFinite hfin), hfin, ?_⟩
    rw [hamt]
    exact hle.trans hbig

def Upward (u : UnpackedFloat) : Prop := u.isFinite ∨ u = .infinity .positive

theorem upward_add {x y : Float} (hx : x.isFinite) (hnan : y.isNaN = false)
    (hneg : ¬ y < 0) : Upward (x + y).toModel.unpack := by
  have hcan := canonical_of_isFinite hx
  by_cases hy : y.isFinite
  · have hsum := hcan.add (canonical_of_isFinite hy)
    have hmodel : (x + y).toModel = .pack (add .binary64 x.toModel.unpack y.toModel.unpack) := rfl
    rw [hmodel]
    obtain ⟨-, hu⟩ | ⟨s, m, e, hm, hfin, hbig, hu⟩ := hsum.canonical.pack_cases
    · rw [hu]
      exact .inl hsum.canonical.isFinite
    · -- the sum is not below the first number
      have hle : amount x ≤ amount x + amount y := by
        have hpos := mt (lt_iff_amount hy (y := 0) rfl).mpr hneg
        exact le_add_of_nonneg_right (not_lt.mp hpos)
      have hbelow := hsum.rounds.ge _ (.amount hx) hle
      have hbd := abs_lt.mp (abs_amount_lt hx)
      rw [hu]
      cases s with
      | positive => exact .inr rfl
      | negative =>
        rw [hfin] at hbelow hbig
        have hneg : worth (.finite .negative m e hm) ≤ 0 :=
          neg_nonpos.mpr (by positivity : (0 : ℚ) ≤ m * 2 ^ e)
        rw [abs_of_nonpos hneg] at hbig
        linarith [hbd.1]
  · change ¬ y.toModel.unpack.isFinite at hy
    change y.toModel.unpack.isNaN = false at hnan
    have h0 : (0 : Float).toModel.unpack = .zero .positive := rfl
    rw [lt_iff_compare, h0] at hneg
    change Upward (Float.Model.pack (add .binary64 x.toModel.unpack y.toModel.unpack)).unpack
    cases hv : y.toModel.unpack with
    | notANumber =>
      rw [hv] at hnan
      cases hnan
    | zero t =>
      rw [hv] at hy
      exact absurd rfl hy
    | finite t n f hn =>
      rw [hv] at hy
      exact absurd rfl hy
    | infinity t =>
      rw [hv] at hneg
      cases t with
      | negative => exact absurd rfl hneg
      | positive =>
        have hsum : add .binary64 x.toModel.unpack (.infinity .positive) = .infinity .positive := by
          obtain ⟨s, hu⟩ | ⟨s, m, e, hm, hu, -⟩ := hcan.cases <;> rw [hu] <;> rfl
        rw [hsum]
        exact .inr rfl

theorem Upward.isFinite {x limit : Float} (hx : Upward x.toModel.unpack)
    (hlim : limit.isFinite) (h : ¬ limit < x) : x.isFinite := by
  refine hx.resolve_right fun hinf => h ?_
  rw [lt_iff_compare, hinf]
  obtain ⟨s, hu⟩ | ⟨s, m, e, hm, hu, -⟩ := (canonical_of_isFinite hlim).cases <;> rw [hu] <;> rfl

end Rover
