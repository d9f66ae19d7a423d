import Mathlib.Analysis.SpecialFunctions.Trigonometric.Arctan
import Mathlib.Data.List.ReduceOption
import Rover.Proofs.Amount.Spread

/-!
# Exact numbers

The real numbers have the operations that controllers, kinematics and measurements are written with,
and nothing is rounded. The trimmed mean of two or more exact measurements always exists: their
squared distances from the mean are not all larger than the variance.
-/

namespace Rover

open List

open Arith (real)

noncomputable instance : Geometry ℝ where
  whole n := n
  real n := n
  add x y := .ok (x + y)
  sub x y := .ok (x - y)
  mul x y := .ok (x * y)
  div x y := if y = 0 then .error .floatDivisionByZero else .ok (x / y)
  neg x := .ok (-x)
  less x y := .ok (decide (x < y))
  atMost x y := .ok (decide (x ≤ y))
  same x y := decide (x = y)
  pi := Real.pi
  square x := .ok (x ^ 2)
  sqrt x := if x < 0 then .error .domain else .ok √x
  sin x := .ok (Real.sin x)
  cos x := .ok (Real.cos x)
  atan x := .ok (Real.arctan x)
  truncate x := .ok (if 0 ≤ x then ⌊x⌋ else ⌈x⌉)

namespace Spread

theorem addAll_exact (start : ℝ) (xs : List ℝ) : addAll start xs = .ok (start + xs.sum) := by
  induction xs generalizing start with
  | nil =>
    rw [sum_nil, add_zero]
    rfl
  | cons x rest ih =>
    rw [sum_cons, ← add_assoc]
    exact ih (start + x)

theorem sum_getD (xs : List (Option ℝ)) : (xs.map (·.getD (real 0))).sum = xs.reduceOption.sum := by
  have h0 : (real 0 : ℝ) = 0 := Int.cast_zero
  rw [h0]
  induction xs with
  | nil => rfl
  | cons x rest ih => cases x <;> simp [ih]

variable {xs : List (Option ℝ)}

theorem total_exact (h : xs.length < 8) : total xs = .ok xs.reduceOption.sum := by
  have hlen : (xs.map (·.getD (real 0))).length = xs.length := length_map ..
  have hblock : xs.length ≤ block := Nat.le_trans (Nat.le_of_lt h) (by decide)
  have h0 : (real 0 : ℝ) = 0 := Int.cast_zero
  unfold total sum blockSum
  rw [if_pos (hlen.trans_le hblock), if_pos (hlen.trans_lt (show xs.length < lanes from h)),
    addAll_exact, sum_getD, h0, zero_add]

theorem div_exact (x : ℝ) {n : ℕ} (hn : n ≠ 0) : Arith.div x (real n : ℝ) = .ok (x / n) := by
  exact if_neg (Nat.cast_ne_zero.mpr hn)

noncomputable def average (xs : List ℝ) : ℝ := xs.sum / xs.length

theorem mean?_exact (h : xs.length < 8) (hsome : xs.reduceOption ≠ []) :
    mean? xs = .ok (some (average xs.reduceOption)) := by
  have hcnt : count xs = xs.reduceOption.length := reduceOption_length_eq.symm
  have hne : xs.reduceOption.length ≠ 0 := mt length_eq_zero_iff.mp hsome
  unfold mean?
  rw [hcnt, if_neg hne, total_exact h]
  change (Arith.div xs.reduceOption.sum (real xs.reduceOption.length : ℝ) >>= _) = _
  rw [div_exact _ hne]
  rfl

theorem average_between {xs : List ℝ} (h : xs ≠ []) :
    (∃ x ∈ xs, x ≤ average xs) ∧ ∃ x ∈ xs, average xs ≤ x := by
  have hlen : (xs.length : ℝ) ≠ 0 := Nat.cast_ne_zero.mpr (mt length_eq_zero_iff.mp h)
  have hsum : (xs.map id).sum = (xs.map fun _ => average xs).sum := by
    rw [map_id, map_const', sum_replicate, nsmul_eq_mul, average,
      mul_div_cancel₀ _ hlen]
  exact ⟨exists_le_of_sum_le h id (fun _ => average xs) hsum.le,
    exists_le_of_sum_le h (fun _ => average xs) id hsum.ge⟩

/-- The variance of a sample: the squared distances from the mean over one less than their number. -/
noncomputable def sampleVariance (xs : List ℝ) : ℝ :=
  (xs.map fun x => (x - average xs) ^ 2).sum / (xs.length - 1 : ℕ)

theorem sampleVariance_nonneg (xs : List ℝ) : 0 ≤ sampleVariance xs := by
  refine div_nonneg (sum_nonneg fun y hy => ?_) (Nat.cast_nonneg _)
  obtain ⟨x, -, rfl⟩ := mem_map.mp hy
  exact sq_nonneg _

theorem reduceOption_some {α β : Type} (f : α → β) (xs : List α) :
    (xs.map fun x => some (f x)).reduceOption = xs.map f := by
  induction xs with
  | nil => rfl
  | cons x rest ih => simp [ih]

theorem reduceOption_ite {α : Type} (p : α → Prop) [DecidablePred p] (xs : List α) :
    (xs.map fun x => if p x then some x else none).reduceOption = xs.filter fun x => decide (p x) := by
  induction xs with
  | nil => rfl
  | cons x rest ih => by_cases hx : p x <;> simp [hx, ih]

section
variable {xs : List ℝ} (hlo : 2 ≤ xs.length)
include hlo

theorem variance?_exact (hhi : xs.length < 8) :
    variance? (xs.map some) (average xs) = .ok (some (sampleVariance xs)) := by
  have hcnt : count (xs.map some) = xs.length := by
    rw [count, ← reduceOption_length_eq, reduceOption_some (fun x => x), length_map]
  have hsqs : (xs.map some).mapM (Option.mapM fun x => do
      let d ← Arith.sub (average xs) x
      Arith.mul d d) = .ok (xs.map fun x => some ((x - average xs) ^ 2)) := by
    rw [mapM_map]
    refine mapM_ok (fun x => ?_) xs
    have hsq : (average xs - x) * (average xs - x) = (x - average xs) ^ 2 := by ring
    exact congrArg (fun y => Except.ok (some y)) hsq
  unfold variance?
  rw [hcnt, if_neg (by omega)]
  rw [hsqs]
  change (total _ >>= _) = _
  rw [total_exact (by rwa [length_map]), reduceOption_some]
  change (Arith.div _ (real (xs.length - 1 : ℕ) : ℝ) >>= _) = _
  rw [div_exact _ (by omega)]
  rfl

theorem exists_sq_le_sampleVariance : ∃ x ∈ xs, (x - average xs) ^ 2 ≤ sampleVariance xs := by
  have hne : xs ≠ [] := ne_nil_of_length_pos (by omega)
  refine exists_le_of_sum_le hne _ (fun _ => sampleVariance xs) ?_
  have hothers : ((xs.length - 1 : ℕ) : ℝ) ≠ 0 := Nat.cast_ne_zero.mpr (by omega)
  calc (xs.map fun x => (x - average xs) ^ 2).sum
      = (xs.length - 1 : ℕ) * sampleVariance xs := (mul_div_cancel₀ _ hothers).symm
    _ ≤ xs.length * sampleVariance xs := by
        gcongr
        · exact sampleVariance_nonneg xs
        · omega
    _ = (xs.map fun _ => sampleVariance xs).sum := by
        rw [map_const', sum_replicate, nsmul_eq_mul]

/-- The measurements that are not farther from the mean than the deviation. -/
noncomputable def trimmed (xs : List ℝ) : List ℝ :=
  xs.filter fun x => decide ((x - average xs) ^ 2 ≤ sampleVariance xs)

theorem trimmed_ne_nil : trimmed xs ≠ [] := by
  obtain ⟨x, hx, hle⟩ := exists_sq_le_sampleVariance hlo
  exact ne_nil_of_mem (mem_filter.mpr ⟨hx, decide_eq_true hle⟩)

theorem trimmedMean?_exact (hhi : xs.length < 8) :
    trimmedMean? (xs.map some) = .ok (some (average (trimmed xs))) := by
  have hxs : (xs.map some).reduceOption = xs := by
    rw [reduceOption_some (fun x => x), map_id']
  have hmean : mean? (xs.map some) = .ok (some (average xs)) := by
    have hne : (xs.map some).reduceOption ≠ [] := by
      rw [hxs]
      exact ne_nil_of_length_pos (by omega)
    rw [mean?_exact (by rwa [length_map]) hne, hxs]
  have hroot : Geometry.sqrt (sampleVariance xs) = .ok √(sampleVariance xs) :=
    if_neg (not_lt.mpr (sampleVariance_nonneg xs))
  have hkept (x : ℝ) : (do
      return if ← Arith.atMost (← distance x (average xs)) √(sampleVariance xs)
        then some x else none : Result (Option ℝ)) =
      .ok (if (x - average xs) ^ 2 ≤ sampleVariance xs then some x else none) := by
    have hdist : distance x (average xs) = .ok |x - average xs| := by
      have h0 : (real 0 : ℝ) = 0 := Int.cast_zero
      change (if decide (x - average xs < (real 0 : ℝ)) then Except.ok (-(x - average xs))
        else .ok (x - average xs)) = _
      rw [h0]
      by_cases hlt : x - average xs < 0
      · rw [decide_eq_true hlt, if_pos rfl, abs_of_neg hlt]
      · rw [decide_eq_false hlt, if_neg Bool.false_ne_true, abs_of_nonneg (not_lt.mp hlt)]
    rw [hdist]
    change Except.ok (if decide (|x - average xs| ≤ √(sampleVariance xs)) then some x else none) = _
    simp only [decide_eq_true_eq, Real.le_sqrt (abs_nonneg _) (sampleVariance_nonneg xs), sq_abs]
  unfold trimmedMean?
  rw [hmean]
  change (variance? _ _ >>= _) = _
  rw [variance?_exact hlo hhi]
  change (Geometry.sqrt _ >>= _) = _
  rw [hroot]
  change ((xs.map some).mapM _ >>= fun ys => mean? ys : Except Fault _) = _
  rw [mapM_map]
  refine (congrArg (· >>= fun ys => mean? ys) (mapM_ok hkept xs)).trans ?_
  have htrimmed : (xs.map fun x => if (x - average xs) ^ 2 ≤ sampleVariance xs then some x
      else none).reduceOption = trimmed xs := reduceOption_ite _ xs
  change mean? _ = _
  rw [mean?_exact (by rwa [length_map]) (by rw [htrimmed]; exact trimmed_ne_nil hlo), htrimmed]

end

end Spread

end Rover
