import Mathlib.Data.Int.Log
import Rover.Number.Spread
import Rover.Proofs.WholePart

/-!
# The mean of few measurements

What the mean, the deviation and the trimmed mean of measurements come to when these are doubles.
Means do not leave the range of what is averaged as long as the small multiples of its ends are
doubles, and of two to five distances at least one is within one deviation of the mean.
-/

namespace Rover.Spread

open List Arith

/-! ## Measurements that are doubles -/

variable (xs : List (Option Float))

def doubles : List (Option Value) := xs.map (Option.map .float)

def present : Nat := (xs.filter Option.isSome).length

def added : Float :=
  xs.foldl (fun s x => s + x.getD (nearestInt 0)) (nearestInt 0)

theorem count_doubles : count (doubles xs) = present xs := by
  unfold count present doubles
  rw [filter_map, length_map]
  congr 2
  funext x
  cases x <;> rfl

theorem addAll_doubles (xs : List Float) (s : Float) :
    addAll (.float s) (xs.map Value.float) = .ok (.float (xs.foldl (· + ·) s)) := by
  induction xs generalizing s with
  | nil => rfl
  | cons x rest ih => exact ih (s + x)

theorem total_doubles {xs : List (Option Float)} (h : xs.length < 8) :
    total (doubles xs) = .ok (.float (added xs)) := by
  have hgetD : (doubles xs).map (·.getD (real 0)) =
      (xs.map (·.getD (nearestInt 0))).map Value.float := by
    unfold doubles
    rw [map_map, map_map]
    refine map_congr_left fun x _ => ?_
    cases x <;> rfl
  unfold total
  rw [hgetD]
  have hlen : ((xs.map (·.getD (nearestInt 0))).map Value.float).length = xs.length := by simp
  have hblock : xs.length ≤ block := Nat.le_trans (Nat.le_of_lt h) (by decide)
  unfold sum blockSum
  rw [if_pos (hlen.trans_le hblock), if_pos (hlen.trans_lt (show xs.length < lanes from h))]
  refine (addAll_doubles _ _).trans ?_
  unfold added
  rw [foldl_map]

def mean : Float := added xs / nearestInt (present xs)

theorem nearestInt_beq_zero {n : Nat} (hn : n ≠ 0) (h : n < 2 ^ 53) :
    (nearestInt n == 0) = false := by
  obtain ⟨hfin, hamt⟩ := amount_nearestNat h
  have h0 : amount 0 = 0 := rfl
  rw [beq_eq_amount hfin rfl, hamt, h0, decide_eq_false_iff_not]
  exact_mod_cast hn

theorem div_doubles (s : Float) {n : Nat} (hn : n ≠ 0) (h : n < 2 ^ 53) :
    div (Value.float s) (real n) = .ok (.float (s / nearestInt n)) := by
  change (if nearestInt n == 0 then _ else _ : Result Num).map Num.toValue = _
  rw [nearestInt_beq_zero hn h]
  rfl

theorem mean?_doubles {xs : List (Option Float)} (h : xs.length < 8) :
    mean? (doubles xs) = .ok (if present xs = 0 then none else some (.float (mean xs))) := by
  unfold mean?
  rw [count_doubles, total_doubles h]
  by_cases hnone : present xs = 0
  · rw [if_pos hnone, if_pos hnone]
    rfl
  · have hmost : present xs ≤ xs.length := length_filter_le ..
    rw [if_neg hnone, if_neg hnone]
    change (div (Value.float (added xs)) (real (present xs)) >>= _) = _
    rw [div_doubles _ hnone (by omega)]
    rfl

def variance (xs : List Float) (m : Float) : Float :=
  added (xs.map fun x => some ((m - x) * (m - x))) / nearestInt (xs.length - 1 : Nat)

theorem present_some {α : Type} (f : α → Float) (xs : List α) :
    present (xs.map fun x => some (f x)) = xs.length := by
  unfold present
  rw [filter_map, length_map]
  congr 1
  exact filter_eq_self.mpr fun _ _ => rfl

theorem mapM_ok {α β : Type} {f : α → Result β} {g : α → β} (h : ∀ x, f x = .ok (g x))
    (xs : List α) : xs.mapM f = .ok (xs.map g) := by
  rw [funext h]
  exact mapM_pure ..

theorem variance?_doubles {xs : List Float} (hleast : 2 ≤ xs.length) (h : xs.length < 8)
    (m : Float) :
    variance? (doubles (xs.map some)) (.float m) = .ok (some (.float (variance xs m))) := by
  have hcnt : count (doubles (xs.map some)) = xs.length := by
    rw [count_doubles]
    exact present_some id xs
  unfold variance?
  rw [hcnt, if_neg (by omega)]
  have hsqs : (doubles (xs.map some)).mapM (Option.mapM fun x => do
      let d ← sub (Value.float m) x
      mul d d) = .ok (doubles (xs.map fun x => some ((m - x) * (m - x)))) := by
    unfold doubles
    rw [map_map, map_map, mapM_map]
    exact mapM_ok (fun x => rfl) xs
  rw [hsqs]
  change (total _ >>= _) = _
  rw [total_doubles (by rwa [length_map])]
  change (div (Value.float _) (real (xs.length - 1 : Nat)) >>= _) = _
  rw [div_doubles _ (by omega) (by omega)]
  rfl

def apart (x y : Float) : Float := if x - y < nearestInt 0 then -(x - y) else x - y

theorem distance_doubles (x y : Float) :
    distance (Value.float x) (.float y) = .ok (.float (apart x y)) := by
  change (if decide (x - y < nearestInt 0) then _ else _) = _
  unfold apart
  by_cases h : x - y < nearestInt 0
  · rw [decide_eq_true h, if_pos rfl, if_pos h]
    rfl
  · rw [decide_eq_false h, if_neg Bool.false_ne_true, if_neg h]
    rfl

def kept (xs : List Float) (m deviation : Float) : List (Option Float) :=
  xs.map fun x => if (Num.float (apart x m)).atMost (.float deviation) then some x else none

theorem trimmedMean?_doubles {xs : List Float} (hleast : 2 ≤ xs.length) (h : xs.length < 8)
    (hroot : ¬ variance xs (mean (xs.map some)) < 0) :
    trimmedMean? (doubles (xs.map some)) =
      mean? (doubles (kept xs (mean (xs.map some)) (variance xs (mean (xs.map some))).sqrt)) := by
  have hpres : present (xs.map some) = xs.length := present_some id xs
  unfold trimmedMean?
  rw [mean?_doubles (by rwa [length_map]), if_neg (by omega)]
  change (variance? _ _ >>= _) = _
  rw [variance?_doubles hleast h]
  generalize mean (xs.map some) = m at hroot ⊢
  generalize variance xs m = v at hroot ⊢
  have hsqrt : Geometry.sqrt (Value.float v) = .ok (.float v.sqrt) := by
    change (if v < 0 then _ else _) = _
    rw [if_neg hroot]
    rfl
  change (Geometry.sqrt (Value.float v) >>= _) = _
  rw [hsqrt]
  have hkept : ∀ x : Float, (do
      return if ← atMost (← distance (Value.float x) (.float m)) (.float v.sqrt)
        then some (Value.float x) else none : Result (Option Value)) =
      .ok (if (Num.float (apart x m)).atMost (.float v.sqrt) then some (.float x) else none) := by
    intro x
    rw [distance_doubles]
    rfl
  unfold doubles kept
  rw [map_map, map_map]
  change ((xs.map _).mapM _ >>= fun ys => mean? ys : Except Fault _) = _
  rw [mapM_map]
  refine (congrArg (· >>= fun ys => mean? ys) (mapM_ok hkept xs)).trans ?_
  refine congrArg mean? (map_congr_left fun x _ => ?_)
  dsimp only [Function.comp]
  split <;> rfl

/-! ## Bounds -/

theorem between_zero : Between 0 0 (nearestInt 0) :=
  ⟨isZero_nearestInt.isFinite, isZero_nearestInt.amount.ge, isZero_nearestInt.amount.le⟩

section
variable {low high : ℚ} {most : ℕ} (hlo : ∀ i ≤ most, IsDouble (i * low))
  (hhi : ∀ i ≤ most, IsDouble (i * high)) (hpos : 0 ≤ low) (hle : low ≤ high)
  (hsmall : most * high ≤ 2 ^ 200) {xs : List (Option Float)}
include hlo hhi hpos hle hsmall

theorem between_add {i j : ℕ} (hcnt : i + j ≤ most) {s x : Float}
    (hs : Between (i * low) (i * high) s) (hx : Between (j * low) (j * high) x) :
    Between ((i + j : ℕ) * low) ((i + j : ℕ) * high) (s + x) ∧
      amount s ≤ amount (s + x) ∧ amount x ≤ amount (s + x) := by
  have h0 (k : ℕ) : 0 ≤ k * low := mul_nonneg k.cast_nonneg hpos
  have hsplit (q : ℚ) : ((i + j : ℕ) : ℚ) * q = i * q + j * q := by push_cast; ring
  have hge : ((i + j : ℕ) : ℚ) * low ≤ amount s + amount x := by
    rw [hsplit]
    exact add_le_add hs.ge hx.ge
  have hmost : amount s + amount x ≤ ((i + j : ℕ) : ℚ) * high := by
    rw [hsplit]
    exact add_le_add hs.le hx.le
  have hbd : ((i + j : ℕ) : ℚ) * high ≤ 2 ^ 200 := by
    refine le_trans (mul_le_mul_of_nonneg_right ?_ (hpos.trans hle)) hsmall
    exact_mod_cast hcnt
  have hrnd : IsRounded (amount s + amount x) (s + x) := by
    refine isRounded_add hs.isFinite hx.isFinite ?_
    rw [abs_of_nonneg ((h0 _).trans hge)]
    exact hmost.trans hbd
  refine ⟨hrnd.between (hlo _ hcnt) (hhi _ hcnt) hge hmost, ?_, ?_⟩
  · refine hrnd.rounds.ge _ (.amount hs.isFinite) ?_
    exact le_add_of_nonneg_right ((h0 j).trans hx.ge)
  · refine hrnd.rounds.ge _ (.amount hx.isFinite) ?_
    exact le_add_of_nonneg_left ((h0 i).trans hs.ge)

section

variable (hxs : ∀ y, some y ∈ xs → Between low high y)
include hxs

theorem foldl_between
    (i : ℕ) {s : Float} (hs : Between (i * low) (i * high) s) (hcnt : i + present xs ≤ most) :
    Between ((i + present xs : ℕ) * low) ((i + present xs : ℕ) * high)
      (xs.foldl (fun s x => s + x.getD (nearestInt 0)) s) ∧
    amount s ≤ amount (xs.foldl (fun s x => s + x.getD (nearestInt 0)) s) ∧
    ∀ y, some y ∈ xs → amount y ≤ amount (xs.foldl (fun s x => s + x.getD (nearestInt 0)) s) := by
  induction xs generalizing i s with
  | nil => exact ⟨hs, le_rfl, fun y hy => absurd hy not_mem_nil⟩
  | cons x rest ih =>
    have hrest : ∀ y, some y ∈ rest → Between low high y :=
      fun y hy => hxs y (mem_cons_of_mem _ hy)
    -- what is missing adds zero and does not count
    obtain ⟨j, hj, hx⟩ : ∃ j, present (x :: rest) = j + present rest ∧
        Between (j * low) (j * high) (x.getD (nearestInt 0)) := by
      cases x with
      | none =>
        refine ⟨0, (Nat.zero_add _).symm, ?_⟩
        rw [Nat.cast_zero, zero_mul, zero_mul]
        exact between_zero
      | some x =>
        refine ⟨1, Nat.add_comm _ _, ?_⟩
        rw [Nat.cast_one, one_mul, one_mul]
        exact hxs x mem_cons_self
    obtain ⟨hsum, hleft, hright⟩ :=
      between_add hlo hhi hpos hle hsmall (i := i) (j := j) (by omega) hs hx
    obtain ⟨hbetween, hgrown, hadded⟩ := ih hrest (i + j) hsum (by omega)
    refine ⟨?_, hleft.trans hgrown, ?_⟩
    · rw [hj, ← Nat.add_assoc]
      exact hbetween
    · intro y hy
      obtain rfl | hy := mem_cons.mp hy
      · exact hright.trans hgrown
      · exact hadded y hy

theorem added_between (hcnt : present xs ≤ most) :
    Between (present xs * low) (present xs * high) (added xs) ∧
      ∀ y, some y ∈ xs → amount y ≤ amount (added xs) := by
  have h0 : Between ((0 : ℕ) * low) ((0 : ℕ) * high) (nearestInt 0) := by
    rw [Nat.cast_zero, zero_mul, zero_mul]
    exact between_zero
  obtain ⟨hbetween, -, hadded⟩ :=
    foldl_between hlo hhi hpos hle hsmall hxs 0 h0 (by omega)
  rw [Nat.zero_add] at hbetween
  exact ⟨hbetween, hadded⟩

theorem mean_between
    (hcnt : present xs ≤ most) (hsome : present xs ≠ 0) (hwidth : most < 2 ^ 53) :
    Between low high (mean xs) := by
  obtain ⟨hsum, -⟩ := added_between hlo hhi hpos hle hsmall hxs hcnt
  have hpres : (0 : ℚ) < present xs := by exact_mod_cast Nat.pos_of_ne_zero hsome
  have h1 {q : ℚ} (h : ∀ i ≤ most, IsDouble (i * q)) : IsDouble q := by
    simpa using h 1 (by omega)
  refine (isRounded_div_nearestInt hsum.isFinite ?_ hsome (by omega)).between
    (h1 hlo) (h1 hhi) ?_ ?_
  · refine (hsum.abs_amount_le (by positivity)).trans (le_trans ?_ hsmall)
    refine mul_le_mul_of_nonneg_right ?_ (hpos.trans hle)
    exact_mod_cast hcnt
  · rw [le_div_iff₀ hpres, mul_comm]
    exact hsum.ge
  · rw [div_le_iff₀ hpres, mul_comm]
    exact hsum.le

end

end

/-! ## Deviation -/

theorem isDouble_mul_zero (i : ℕ) : IsDouble (i * 0) := by
  rw [mul_zero]
  exact .zero

theorem amount_apart {x y : Float} (h : (x - y).isFinite) :
    (apart x y).isFinite ∧ amount (apart x y) = |amount (x - y)| := by
  obtain ⟨h0, hamt⟩ := isZero_nearestInt
  unfold apart
  by_cases hlt : x - y < nearestInt 0
  · obtain ⟨hfin, hneg⟩ := amount_neg h
    rw [if_pos hlt, hneg, abs_of_neg]
    · exact ⟨hfin, rfl⟩
    · rwa [lt_iff_amount h h0, hamt] at hlt
  · rw [if_neg hlt, abs_of_nonneg]
    · exact ⟨h, rfl⟩
    · rwa [lt_iff_amount h h0, hamt, not_lt] at hlt

theorem exists_grain {q : ℚ} (h : 2 ^ (-59 : ℤ) ≤ q) :
    ∃ (m : ℕ) (e : ℤ), 16 ≤ m ∧ m < 32 ∧ -63 ≤ e ∧ m * 2 ^ e ≤ q ∧ q ≤ (m + 1) * 2 ^ e := by
  have hpos : 0 < q := lt_of_lt_of_le (by positivity) h
  have hlo : (2 : ℚ) ^ Int.log 2 q ≤ q := Int.zpow_log_le_self (b := 2) (by decide) hpos
  have hhi : q < (2 : ℚ) ^ (Int.log 2 q + 1) := Int.lt_zpow_succ_log_self (b := 2) (by decide) q
  have hlog : -59 ≤ Int.log 2 q := (Int.zpow_le_iff_le_log (b := 2) (by decide) hpos).mp h
  have hplace : (0 : ℚ) < 2 ^ (Int.log 2 q - 4) := by positivity
  have hsixteen : (16 : ℚ) * 2 ^ (Int.log 2 q - 4) = 2 ^ Int.log 2 q := by
    rw [zpow_sub₀ two_ne_zero]
    norm_num
    ring
  have hthirtytwo : (32 : ℚ) * 2 ^ (Int.log 2 q - 4) = 2 ^ (Int.log 2 q + 1) := by
    rw [zpow_sub₀ two_ne_zero, zpow_add_one₀ two_ne_zero]
    norm_num
    ring
  refine ⟨⌊q / 2 ^ (Int.log 2 q - 4)⌋₊, Int.log 2 q - 4, ?_, ?_, by omega, ?_, ?_⟩
  · refine Nat.le_floor ?_
    rw [le_div_iff₀ hplace]
    exact hsixteen.trans_le hlo
  · refine (Nat.floor_lt (by positivity)).mpr ?_
    rw [div_lt_iff₀ hplace]
    exact hhi.trans_eq hthirtytwo.symm
  · rw [← le_div_iff₀ hplace]
    exact Nat.floor_le (by positivity)
  · rw [← div_le_iff₀ hplace]
    exact (Nat.lt_floor_add_one _).le

section
variable {xs : List Float} {m : Float} (hleast : 2 ≤ xs.length) (hmost : xs.length ≤ 5)
  (hm : Between 0 10000 m) (hxs : ∀ x ∈ xs, Between 0 10000 x)

theorem isRounded_difference {x y : Float} (hx : Between 0 10000 x) (hy : Between 0 10000 y) :
    IsRounded (amount x - amount y) (x - y) ∧ |amount (x - y)| ≤ 10000 := by
  have hsmall : |amount x - amount y| ≤ 10000 := by
    exact abs_le.mpr ⟨by linarith [hx.ge, hy.le], by linarith [hx.le, hy.ge]⟩
  have hrnd := isRounded_sub hx.isFinite hy.isFinite (hsmall.trans (by norm_num))
  exact ⟨hrnd, hrnd.abs_amount_le (isDouble_natCast (n := 10000) (by decide)) hsmall⟩

include hleast hmost hm hxs

theorem le_variance {b c : ℚ} (hb : ∀ i ≤ 5, IsDouble ((i : ℕ) * b)) (hc : IsDouble c)
    (hpos : 0 ≤ b) (hle : 4 * c ≤ 5 * b)
    (hsqs : ∀ x ∈ xs, b ≤ amount (m - x) * amount (m - x)) :
    Between c (2 ^ 40) (variance xs m) := by
  have hhi : ∀ i ≤ 5, IsDouble ((i : ℕ) * (2 : ℚ) ^ 30) := by
    intro i hi
    have hdouble := isDouble_natCast (n := i * 1073741824) (by omega)
    push_cast at hdouble
    norm_num
    exact hdouble
  have hsq : ∀ x ∈ xs, Between b (2 ^ 30) ((m - x) * (m - x)) := by
    intro x hx
    obtain ⟨hd, hsmall⟩ := isRounded_difference hm (hxs x hx)
    have hle : amount (m - x) * amount (m - x) ≤ 2 ^ 30 := by
      obtain ⟨hlo, hhi⟩ := abs_le.mp hsmall
      nlinarith
    have hmul := isRounded_mul hd.isFinite hd.isFinite (by
      rw [abs_mul_self]
      exact hle.trans (by norm_num))
    exact hmul.between (by simpa using hb 1) (isDouble_twoPow 30) (hsqs x hx) hle
  have hwide : b ≤ 2 ^ 30 := by
    obtain ⟨x, hx⟩ := exists_mem_of_length_pos (show 0 < xs.length by omega)
    exact (hsq x hx).ge.trans (hsq x hx).le
  have hpres := present_some (fun x => (m - x) * (m - x)) xs
  have hall : ∀ y, some y ∈ xs.map (fun x => some ((m - x) * (m - x))) → Between b (2 ^ 30) y := by
    intro y hy
    obtain ⟨x, hx, hxy⟩ := mem_map.mp hy
    cases hxy
    exact hsq x hx
  obtain ⟨hsum, -⟩ := added_between hb hhi hpos hwide (by norm_num) hall (by omega)
  rw [hpres] at hsum
  have hfive : (xs.length : ℚ) ≤ 5 := by exact_mod_cast hmost
  have htwo : (2 : ℚ) ≤ xs.length := by exact_mod_cast hleast
  have hcast : ((xs.length - 1 : ℕ) : ℚ) = xs.length - 1 := by
    rw [Nat.cast_sub (by omega), Nat.cast_one]
  have hother : (0 : ℚ) < (xs.length - 1 : ℕ) := by rw [hcast]; linarith
  refine (isRounded_div_nearestInt hsum.isFinite ?_ (by omega) (by omega)).between hc
    (isDouble_twoPow 40) ?_ ?_
  · refine (hsum.abs_amount_le (by positivity)).trans ?_
    nlinarith
  · rw [le_div_iff₀ hother, hcast]
    refine le_trans ?_ hsum.ge
    nlinarith
  · rw [div_le_iff₀ hother, hcast]
    refine hsum.le.trans ?_
    nlinarith

theorem atMost_deviation {b c p : ℚ} (hb : ∀ i ≤ 5, IsDouble ((i : ℕ) * b)) (hc : IsDouble c)
    (hp : IsDouble p) (hpos : 0 ≤ b) (hle : 4 * c ≤ 5 * b) (hroot : p * p ≤ c)
    (hsqs : ∀ x ∈ xs, b ≤ amount (m - x) * amount (m - x)) {x : Float} (hx : x ∈ xs)
    (hnear : |amount (x - m)| ≤ p) :
    ¬ variance xs m < 0 ∧ (Num.float (apart x m)).atMost (.float (variance xs m).sqrt) := by
  have hvar := le_variance hleast hmost hm hxs hb hc hpos hle hsqs
  have hnonneg : 0 ≤ amount (variance xs m) := (mul_self_nonneg p).trans (hroot.trans hvar.ge)
  have h0 : amount 0 = 0 := rfl
  obtain ⟨hfin, hroots⟩ := roots_sqrt hvar.isFinite hnonneg (hvar.le.trans (by norm_num))
  obtain ⟨hd, -⟩ := isRounded_difference (hxs x hx) hm
  obtain ⟨hapart, hamt⟩ := amount_apart hd.isFinite
  refine ⟨?_, ?_⟩
  · rw [lt_iff_amount hvar.isFinite rfl, h0, not_lt]
    exact hnonneg
  · rw [Num.atMost_eq_amount (a := .float _) (b := .float _) hapart hfin, decide_eq_true_iff]
    change amount (apart x m) ≤ amount (variance xs m).sqrt
    rw [hamt]
    exact hnear.trans (hroots.ge p hp (hroot.trans hvar.ge))

theorem exists_kept
    (hgrain : ∀ x ∈ xs, amount x = amount m ∨ 2 ^ (-59 : ℤ) ≤ |amount x - amount m|) :
    ¬ variance xs m < 0 ∧
      ∃ x ∈ xs, (Num.float (apart x m)).atMost (.float (variance xs m).sqrt) := by
  have hne : xs.argmin (fun x => |amount x - amount m|) ≠ none := by
    intro hnone
    rw [argmin_eq_none.mp hnone] at hleast
    exact absurd hleast (by decide)
  obtain ⟨x, hargmin⟩ := Option.ne_none_iff_exists'.mp hne
  have hx : x ∈ xs := argmin_mem hargmin
  have hclosest : ∀ y ∈ xs, |amount x - amount m| ≤ |amount y - amount m| :=
    fun y hy => le_of_mem_argmin (f := fun x => |amount x - amount m|) hy hargmin
  have hd := (isRounded_difference (hxs x hx) hm).1
  rcases hgrain x hx with heq | hgrain
  · -- the mean itself was measured
    have hkept := atMost_deviation hleast hmost hm hxs (b := 0) (c := 0) (p := 0)
      (fun i _ => isDouble_mul_zero i) .zero .zero le_rfl (by norm_num) (by norm_num)
      (fun y _ => mul_self_nonneg _) hx (hd.abs_amount_le .zero (by rw [heq, sub_self, abs_zero]))
    exact ⟨hkept.1, x, hx, hkept.2⟩
  · obtain ⟨k, e, hlo, hhi, he, hbelow, habove⟩ := exists_grain hgrain
    have hdouble (n : ℕ) (hn : n < 2 ^ 53) : IsDouble (n * (2 ^ e * 2 ^ e)) := by
      rw [← zpow_add₀ two_ne_zero]
      exact isDouble_places n hn (by omega)
    have hplace : (0 : ℚ) < 2 ^ e * 2 ^ e := by positivity
    have hcut : k * k < 1024 := by nlinarith
    have hquarter : 4 * (k * k + k * k / 4) ≤ 5 * (k * k) := by omega
    have hnext : (k + 1) * (k + 1) ≤ k * k + k * k / 4 := by
      have hquarter : 2 * k + 1 ≤ k * k / 4 := by
        rw [Nat.le_div_iff_mul_le (by decide)]
        nlinarith
      nlinarith
    have hscaled : (4 : ℚ) * (k * k + k * k / 4 : ℕ) ≤ 5 * (k * k : ℕ) := mod_cast hquarter
    have hkept := atMost_deviation hleast hmost hm hxs
      (b := (k * k : ℕ) * (2 ^ e * 2 ^ e)) (c := (k * k + k * k / 4 : ℕ) * (2 ^ e * 2 ^ e))
      (p := (k + 1 : ℕ) * 2 ^ e)
      (fun i hi => by
        rw [← mul_assoc, ← Nat.cast_mul]
        exact hdouble _ (by nlinarith))
      (hdouble _ (by omega)) (isDouble_places _ (by omega) (by omega)) (by positivity)
      (by linarith [mul_le_mul_of_nonneg_right hscaled hplace.le])
      (by
        rw [mul_mul_mul_comm]
        exact mul_le_mul_of_nonneg_right (mod_cast hnext) hplace.le)
      (by
        intro y hy
        have hapart : k * 2 ^ e ≤ |amount (m - y)| := by
          refine (isRounded_difference hm (hxs y hy)).1.le_abs_amount
            (isDouble_places k (by omega) (by omega)) ?_
          rw [abs_sub_comm]
          exact hbelow.trans (hclosest y hy)
        rw [← abs_mul_abs_self (amount (m - y)), Nat.cast_mul, mul_mul_mul_comm]
        exact mul_self_le_mul_self (by positivity) hapart)
      hx
      (hd.abs_amount_le (isDouble_places _ (by omega) (by omega)) (by
        rw [Nat.cast_add, Nat.cast_one]
        exact habove))
    exact ⟨hkept.1, x, hx, hkept.2⟩

end

/-! ## Readings -/

structure IsDistance (x : Float) : Prop where
  between : Between 0 10000 x
  none_or_some : amount x = 0 ∨ 1 / 16 ≤ amount x

theorem isDistance_div {k : ℕ} (h : k ≤ 99999) : IsDistance (nearestInt k / 10) := by
  have hrnd : IsRounded ((k : ℚ) / 10) (nearestInt k / 10) :=
    isRounded_quotient (n := 10) (by omega) (by decide) (by decide)
  have hk : (k : ℚ) ≤ 99999 := by exact_mod_cast h
  have hbetween : Between 0 10000 (nearestInt k / 10) :=
    hrnd.between .zero (isDouble_natCast (n := 10000) (by decide))
      (by positivity) (by rw [div_le_iff₀ (by norm_num)]; linarith)
  refine ⟨hbetween, ?_⟩
  rcases Nat.eq_zero_or_pos k with rfl | hpos
  · refine .inl (le_antisymm (hrnd.rounds.le 0 .zero ?_) hbetween.ge)
    rw [Nat.cast_zero, zero_div]
  · have h1 : (1 : ℚ) ≤ k := by exact_mod_cast hpos
    refine .inr (hrnd.rounds.ge _ ⟨1, -4, by decide, by decide, by norm_num⟩ ?_)
    linarith

theorem exists_multiple {q : ℚ} (hq : IsDouble q) (h : q = 0 ∨ 1 / 128 ≤ q) :
    ∃ k : ℤ, q = k * 2 ^ (-59 : ℤ) := by
  rcases h with rfl | h
  · exact ⟨0, by simp⟩
  · obtain ⟨k, j, hk, -, rfl⟩ := hq
    have hj : -59 ≤ j := by
      by_contra hj
      have hplace : (2 : ℚ) ^ j ≤ 2 ^ (-60 : ℤ) := zpow_le_zpow_right₀ one_le_two (by omega)
      have hwide : (k : ℚ) < 2 ^ 53 := by exact_mod_cast (abs_lt.mp hk).2
      have hpos : (0 : ℚ) < 2 ^ j := by positivity
      have hsmall : (k : ℚ) * 2 ^ j < 2 ^ 53 * 2 ^ (-60 : ℤ) := by
        refine lt_of_lt_of_le (mul_lt_mul_of_pos_right hwide hpos) ?_
        exact mul_le_mul_of_nonneg_left hplace (by norm_num)
      norm_num at hsmall h
      linarith
    exact ⟨_, mul_two_zpow_of_le k hj⟩

section
variable {xs : List Float} (hleast : 2 ≤ xs.length) (hmost : xs.length ≤ 5)
  (hxs : ∀ x ∈ xs, IsDistance x)
include hleast hmost hxs

theorem mean_distances :
    Between 0 10000 (mean (xs.map some)) ∧
      (amount (mean (xs.map some)) = 0 ∨ 1 / 128 ≤ amount (mean (xs.map some))) := by
  have hpres : present (xs.map some) = xs.length := present_some id xs
  have hsome : ∀ y, some y ∈ xs.map some → y ∈ xs := by simp
  have hlo : ∀ i ≤ 5, IsDouble ((i : ℕ) * 0) := fun i _ => isDouble_mul_zero i
  have hhi : ∀ i ≤ 5, IsDouble ((i : ℕ) * (10000 : ℚ)) := by
    intro i hi
    exact_mod_cast isDouble_natCast (n := i * 10000) (by omega)
  have hall : ∀ y, some y ∈ xs.map some → Between 0 10000 y :=
    fun y hy => (hxs y (hsome y hy)).between
  have hbetween := mean_between hlo hhi le_rfl (by norm_num) (by norm_num) hall (by omega)
    (by omega) (by decide)
  refine ⟨hbetween, ?_⟩
  by_cases h0 : ∀ x ∈ xs, amount x = 0
  · have hstill : ∀ y, some y ∈ xs.map some → Between 0 0 y := fun y hy =>
      ⟨(hall y hy).isFinite, (h0 y (hsome y hy)).ge, (h0 y (hsome y hy)).le⟩
    have hnone := mean_between hlo hlo le_rfl le_rfl (by norm_num) hstill (by omega) (by omega)
      (by decide)
    exact .inl (le_antisymm hnone.le hnone.ge)
  · push Not at h0
    obtain ⟨x, hx, hne⟩ := h0
    have hbig : 1 / 16 ≤ amount x := (hxs x hx).none_or_some.resolve_left hne
    obtain ⟨hsum, hadded⟩ :=
      added_between hlo hhi le_rfl (by norm_num) (by norm_num) hall (by omega)
    have hle := hadded x (mem_map_of_mem hx)
    rw [hpres] at hsum
    have hfive : (xs.length : ℚ) ≤ 5 := by exact_mod_cast hmost
    have hcnt : (0 : ℚ) < xs.length := by exact_mod_cast (show 0 < xs.length by omega)
    have hrnd := isRounded_div_nearestInt hsum.isFinite (n := xs.length)
      ((hsum.abs_amount_le (by rw [mul_zero])).trans (by linarith)) (by omega) (by omega)
    refine .inr ?_
    unfold mean
    rw [hpres]
    refine hrnd.rounds.ge _ ⟨1, -7, by decide, by decide, by norm_num⟩ ?_
    rw [le_div_iff₀ hcnt]
    linarith

theorem trimmedMean?_distances :
    ∃ y, trimmedMean? (doubles (xs.map some)) = .ok (some (.float y)) ∧ y.isFinite ∧
      ∀ c : ℚ, (∀ i ≤ 5, IsDouble ((i : ℕ) * c)) → (∀ x ∈ xs, amount x ≤ c) → amount y ≤ c := by
  obtain ⟨hm, hmul⟩ := mean_distances hleast hmost hxs
  have hgrain : ∀ x ∈ xs, amount x = amount (mean (xs.map some)) ∨
      2 ^ (-59 : ℤ) ≤ |amount x - amount (mean (xs.map some))| := by
    intro x hx
    have hdist := hxs x hx
    obtain ⟨k, hk⟩ := exists_multiple (.amount hdist.between.isFinite)
      (hdist.none_or_some.imp_right (le_trans (by norm_num)))
    obtain ⟨l, hl⟩ := exists_multiple (.amount hm.isFinite) hmul
    rw [hk, hl]
    by_cases heq : k = l
    · exact .inl (by rw [heq])
    · refine .inr ?_
      have h1 : (1 : ℚ) ≤ |((k - l : ℤ) : ℚ)| := by
        exact_mod_cast Int.one_le_abs (sub_ne_zero.mpr heq)
      have hplace : (0 : ℚ) < 2 ^ (-59 : ℤ) := by positivity
      rw [← sub_mul, ← Int.cast_sub, abs_mul, abs_of_pos hplace]
      exact le_mul_of_one_le_left (by positivity) h1
  obtain ⟨hroot, x, hx, hkept⟩ :=
    exists_kept hleast hmost hm (fun x hx => (hxs x hx).between) hgrain
  rw [trimmedMean?_doubles hleast (by omega) hroot]
  generalize mean (xs.map some) = m at hkept ⊢
  generalize (variance xs m).sqrt = deviation at hkept ⊢
  have hlen : (kept xs m deviation).length = xs.length := length_map ..
  have hmem : ∀ y, some y ∈ kept xs m deviation → y ∈ xs := by
    intro y hy
    obtain ⟨x, hx, hxy⟩ := mem_map.mp hy
    split at hxy
    · cases hxy
      exact hx
    · cases hxy
  have hpres : present (kept xs m deviation) ≠ 0 := by
    have hsome : some x ∈ kept xs m deviation := mem_map.mpr ⟨x, hx, if_pos hkept⟩
    exact Nat.ne_of_gt (length_pos_of_mem (mem_filter.mpr ⟨hsome, rfl⟩))
  have hcnt : present (kept xs m deviation) ≤ 5 :=
    (length_filter_le ..).trans (hlen.le.trans hmost)
  have hbetween {c : ℚ} (hc : ∀ i ≤ 5, IsDouble ((i : ℕ) * c)) (hpos : 0 ≤ c)
      (hsmall : 5 * c ≤ 2 ^ 200) (hle : ∀ x ∈ xs, amount x ≤ c) :
      Between 0 c (mean (kept xs m deviation)) := by
    refine mean_between (fun i _ => isDouble_mul_zero i) hc le_rfl hpos (mod_cast hsmall)
      (fun y hy => ?_) hcnt hpres (by decide)
    have hdist := (hxs y (hmem y hy)).between
    exact ⟨hdist.isFinite, hdist.ge, hle y (hmem y hy)⟩
  have hmean : Between 0 10000 (mean (kept xs m deviation)) :=
    hbetween (fun i hi => mod_cast isDouble_natCast (n := i * 10000) (by omega)) (by norm_num)
      (by norm_num) fun x hx => (hxs x hx).between.le
  refine ⟨mean (kept xs m deviation), ?_, hmean.isFinite, ?_⟩
  · rw [mean?_doubles (by omega), if_neg hpres]
  · intro c hc hle
    rcases le_total c 10000 with hsmall | hbig
    · exact (hbetween hc ((hxs x hx).between.ge.trans (hle x hx)) (by linarith) hle).le
    · exact hmean.le.trans hbig

end

end Rover.Spread
