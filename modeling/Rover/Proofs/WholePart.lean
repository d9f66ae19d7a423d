import Mathlib.Data.Rat.Floor
import Rover.Proofs.Amount.Double

/-!
# Whole parts

What is left of a double when it is cut to a whole number. Zeros do not count in sums and
differences, one does not count in products, and the double nearest to a whole number has a whole
part of the same sign.
-/

namespace Rover

open Float.Model (UnpackedFloat pack)
open Float.Model.UnpackedFloat

def wholePart? (x : Float) : Option Int := (Binary.ofFloat? x).map Binary.truncate

def cut (q : ℚ) : ℤ := if q < 0 then -⌊-q⌋ else ⌊q⌋

theorem cut_neg (q : ℚ) : cut (-q) = -cut q := by
  unfold cut
  rcases lt_trichotomy q 0 with hneg | rfl | hpos
  · rw [if_neg (by linarith), if_pos hneg, neg_neg]
  · simp
  · rw [if_pos (by linarith), if_neg (by linarith), neg_neg]

theorem natAbs_cut_le {q : ℚ} {limit : ℕ} (h : |q| ≤ limit) : (cut q).natAbs ≤ limit := by
  have hfloor : ∀ {q : ℚ}, 0 ≤ q → q ≤ limit → ⌊q⌋.natAbs ≤ limit := by
    intro q hpositive hle
    have hlo := Int.floor_nonneg.mpr hpositive
    have hhi : ⌊q⌋ ≤ limit := by exact_mod_cast (Int.floor_le q).trans hle
    omega
  obtain ⟨hlo, hhi⟩ := abs_le.mp h
  unfold cut
  split
  · next hneg =>
    rw [Int.natAbs_neg]
    exact hfloor (by linarith) (by linarith)
  · next hpos => exact hfloor (not_lt.mp hpos) hhi

variable {x : Float}

theorem wholePart?_eq_cut (h : x.isFinite) : wholePart? x = some (cut (amount x)) := by
  obtain ⟨b, hb⟩ := exists_ofFloat?_of_isFinite h
  have hden : (0 : ℚ) < b.fraction.2 := by exact_mod_cast b.fraction_den_pos
  have hfloor : ⌊(b.fraction.1 : ℚ) / b.fraction.2⌋ = ((b.fraction.1 / b.fraction.2 : ℕ) : ℤ) := by
    rw [← Int.cast_natCast b.fraction.1, Rat.floor_intCast_div_natCast]
    rfl
  have hamt := eq_div_of_mul_eq hden.ne' (amount_of_ofFloat? hb)
  unfold wholePart?
  rw [hb, Option.map_some, hamt]
  congr 1
  unfold Binary.truncate
  dsimp only
  split
  · rw [Int.cast_neg, neg_div, cut_neg, Int.cast_natCast]
    unfold cut
    rw [if_neg (not_lt.mpr (by positivity)), hfloor]
  · rw [Int.cast_natCast]
    unfold cut
    rw [if_neg (not_lt.mpr (by positivity)), hfloor]

theorem wholePart?_of_not_isFinite (h : x.isFinite = false) : wholePart? x = none := by
  obtain ⟨-, hnone⟩ | ⟨hfin, -⟩ := Binary.ofFloat?_cases x
  · exact congrArg (Option.map Binary.truncate) hnone
  · rw [hfin] at h
    cases h

theorem isFinite_of_wholePart? {k : Int} (h : wholePart? x = some k) : x.isFinite := by
  obtain ⟨b, hb, -⟩ := Option.map_eq_some_iff.mp h
  exact isFinite_of_ofFloat? hb

theorem exists_wholePart? (h : x.isFinite) : ∃ k, wholePart? x = some k := ⟨_, wholePart?_eq_cut h⟩

theorem cut_pos_iff {q : ℚ} : 0 < cut q ↔ 1 ≤ q := by
  unfold cut
  split
  · next hneg =>
    have hfloor : 0 ≤ ⌊-q⌋ := Int.floor_nonneg.mpr (by linarith)
    exact iff_of_false (by omega) (by linarith)
  · exact Int.le_floor.trans (by norm_num)

variable {x y : Float}

theorem wholePart?_of_exact (hback : y.isFinite → x.isFinite)
    (h : x.isFinite → y.isFinite ∧ amount y = amount x) : wholePart? y = wholePart? x := by
  cases hx : x.isFinite with
  | true =>
    obtain ⟨hy, hamt⟩ := h hx
    rw [wholePart?_eq_cut hy, wholePart?_eq_cut hx, hamt]
  | false =>
    have hy : y.isFinite = false := by
      rw [Bool.eq_false_iff] at hx ⊢
      exact mt hback hx
    rw [wholePart?_of_not_isFinite hy, wholePart?_of_not_isFinite hx]

theorem isFinite_of_add {u v : UnpackedFloat}
    (h : (pack (add .binary64 u v)).unpack.isFinite) : u.isFinite ∧ v.isFinite := by
  have hnan : (pack .notANumber).unpack.isFinite ≠ true := by decide
  have hinf : ∀ s, (pack (.infinity s)).unpack.isFinite ≠ true := by
    intro s
    cases s <;> decide
  cases u with
  | notANumber => cases v <;> exact absurd h hnan
  | infinity s =>
    cases v with
    | notANumber => exact absurd h hnan
    | infinity t => cases s <;> cases t <;> exact absurd h hnan
    | _ => exact absurd h (hinf s)
  | zero s =>
    cases v with
    | notANumber => exact absurd h hnan
    | infinity t => exact absurd h (hinf t)
    | _ => exact ⟨rfl, rfl⟩
  | finite s m e hm =>
    cases v with
    | notANumber => exact absurd h hnan
    | infinity t => exact absurd h (hinf t)
    | _ => exact ⟨rfl, rfl⟩

theorem isFinite_neg_unpacked (u : UnpackedFloat) : u.neg.isFinite = u.isFinite := by
  cases u <;> rfl

theorem isFinite_of_neg (h : (-x).isFinite) : x.isFinite := by
  change (pack x.toModel.unpack.neg).unpack.isFinite at h
  change x.toModel.unpack.isFinite
  cases hu : x.toModel.unpack with
  | notANumber =>
    rw [hu] at h
    cases h
  | infinity s =>
    rw [hu] at h
    cases s <;> cases h
  | zero s => rfl
  | finite s m e hm => rfl

theorem isFinite_of_sub (h : (x - y).isFinite) : x.isFinite ∧ y.isFinite := by
  change (pack (sub .binary64 x.toModel.unpack y.toModel.unpack)).unpack.isFinite at h
  rw [sub_eq_add_neg_unpacked] at h
  obtain ⟨hx, hy⟩ := isFinite_of_add h
  exact ⟨hx, (isFinite_neg_unpacked _).symm.trans hy⟩

theorem wholePart?_neg (x : Float) : wholePart? (-x) = (wholePart? x).map Neg.neg := by
  cases hx : x.isFinite with
  | true =>
    obtain ⟨hfin, hneg⟩ := amount_neg hx
    rw [wholePart?_eq_cut hfin, wholePart?_eq_cut hx, hneg, cut_neg]
    rfl
  | false =>
    have hneg : (-x).isFinite = false := by
      rw [Bool.eq_false_iff] at hx ⊢
      exact mt isFinite_of_neg hx
    rw [wholePart?_of_not_isFinite hneg, wholePart?_of_not_isFinite hx]
    rfl

structure IsZero (z : Float) : Prop where
  isFinite : z.isFinite
  amount : amount z = 0

theorem IsDouble.zero : IsDouble 0 := ⟨0, 0, by decide, by decide, by norm_num⟩

theorem isZero_nearestInt : IsZero (nearestInt 0) := by
  obtain ⟨hfin, hamt⟩ := amount_nearestNat (n := 0) (by decide)
  exact ⟨hfin, hamt.trans Nat.cast_zero⟩

theorem Becomes.same {q : ℚ} {u : UnpackedFloat} (h : Becomes q u)
    (hy : y.toModel = .pack u) (hx : x.isFinite) (hq : q = amount x) :
    y.isFinite ∧ amount y = amount x :=
  (hq ▸ h).exact hy (.amount hx) (abs_amount_lt hx)

section
variable {x y z : Float} (hx : x.isFinite) (hy : y.isFinite) (hz : z.isFinite)
include hx hy hz

theorem amount_add_eq (h : amount x + amount y = amount z) :
    (x + y).isFinite ∧ amount (x + y) = amount z :=
  ((canonical_of_isFinite hx).add (canonical_of_isFinite hy)).toBecomes.same rfl hz h

theorem amount_sub_eq (h : amount x - amount y = amount z) :
    (x - y).isFinite ∧ amount (x - y) = amount z :=
  ((canonical_of_isFinite hx).sub (canonical_of_isFinite hy)).toBecomes.same rfl hz h

theorem amount_mul_eq (h : amount x * amount y = amount z) :
    (x * y).isFinite ∧ amount (x * y) = amount z :=
  ((canonical_of_isFinite hx).mul (canonical_of_isFinite hy)).toBecomes.same rfl hz h

end

theorem isZero_mul (hx : x.isFinite) (hy : y.isFinite)
    (h : amount x = 0 ∨ amount y = 0) : IsZero (x * y) := by
  obtain ⟨h0, hamt⟩ := isZero_nearestInt
  obtain ⟨hfin, hsame⟩ := amount_mul_eq hx hy h0 ((mul_eq_zero.mpr h).trans hamt.symm)
  exact ⟨hfin, hsame.trans hamt⟩

theorem amount_mul_one {x : Float} (h : x.isFinite) :
    (x * 1.0).isFinite ∧ amount (x * 1.0) = amount x := by
  have h1 : amount 1.0 = 1 := by decide +kernel
  exact amount_mul_eq h rfl h (by rw [h1, mul_one])

section
variable {z : Float} (hz : IsZero z)
include hz

theorem wholePart?_zero_add (x : Float) : wholePart? (z + x) = wholePart? x :=
  wholePart?_of_exact (fun h => (isFinite_of_add h).2) fun hx =>
    amount_add_eq hz.isFinite hx hx (by rw [hz.amount, zero_add])

theorem wholePart?_add_zero (x : Float) : wholePart? (x + z) = wholePart? x :=
  wholePart?_of_exact (fun h => (isFinite_of_add h).1) fun hx =>
    amount_add_eq hx hz.isFinite hx (by rw [hz.amount, add_zero])

theorem wholePart?_sub_zero (x : Float) : wholePart? (x - z) = wholePart? x :=
  wholePart?_of_exact (fun h => (isFinite_of_sub h).1) fun hx =>
    amount_sub_eq hx hz.isFinite hx (by rw [hz.amount, sub_zero])

theorem wholePart?_zero_sub (x : Float) : wholePart? (z - x) = (wholePart? x).map Neg.neg := by
  rw [← wholePart?_neg]
  refine wholePart?_of_exact (fun h => (amount_neg (isFinite_of_sub h).2).1) fun hx => ?_
  have hfin := isFinite_of_neg hx
  exact amount_sub_eq hz.isFinite hfin hx (by rw [hz.amount, zero_sub, (amount_neg hfin).2])

variable {y : Float} (hy : IsZero y)
include hy

theorem IsZero.add : IsZero (z + y) := by
  obtain ⟨hfin, hamt⟩ := amount_add_eq hz.isFinite hy.isFinite hz.isFinite
    (by rw [hy.amount, add_zero])
  exact ⟨hfin, hamt.trans hz.amount⟩

theorem IsZero.sub : IsZero (z - y) := by
  obtain ⟨hfin, hamt⟩ := amount_sub_eq hz.isFinite hy.isFinite hz.isFinite
    (by rw [hy.amount, sub_zero])
  exact ⟨hfin, hamt.trans hz.amount⟩

end

theorem wholePart?_nearestInt {n : Int} (h : (nearestInt n).isInf = false) :
    ∃ k : Int, wholePart? (nearestInt n) = some k ∧ k.sign = n.sign := by
  have hrnd := isRounded_nearestInt h
  have h1 : IsDouble 1 := ⟨1, 0, by decide, by decide, by norm_num⟩
  refine ⟨_, wholePart?_eq_cut hrnd.isFinite, ?_⟩
  rcases Int.lt_trichotomy n 0 with hneg | rfl | hpos
  · have hle : amount (nearestInt n) ≤ -1 := by
      refine hrnd.rounds.le _ h1.neg ?_
      have hn : n ≤ -1 := by omega
      exact_mod_cast hn
    have hcut := cut_pos_iff.mpr (le_neg_of_le_neg hle)
    rw [cut_neg] at hcut
    rw [Int.sign_eq_neg_one_of_neg hneg, Int.sign_eq_neg_one_of_neg (by omega)]
  · rfl
  · have hle : 1 ≤ amount (nearestInt n) := by
      refine hrnd.rounds.ge _ h1 ?_
      have hn : 1 ≤ n := by omega
      exact_mod_cast hn
    rw [Int.sign_eq_one_of_pos hpos, Int.sign_eq_one_of_pos (cut_pos_iff.mpr hle)]

end Rover
