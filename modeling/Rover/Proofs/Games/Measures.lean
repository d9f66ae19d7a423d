import Rover.Games.ColorChase
import Rover.Games.LinePatrol
import Rover.Proofs.Bounded
import Rover.Proofs.WholePart

/-!
# Measures on a picture

What is measured on a picture is carried to the size of the picture that was given and cut to a whole
number. On pictures of up to a million pixels a side nothing of this leaves the numbers, and the
place of a line fits into the 32 bits that drawing allows for it.
-/

namespace Rover

structure Within (limit : Nat) (x : Float) : Prop where
  isFinite : x.isFinite
  le : |amount x| ≤ limit

def AtLeast (parts : Nat) (x : Float) : Prop := x.isFinite ∧ 1 ≤ parts * |amount x|

instance (parts : Nat) (x : Float) : Decidable (AtLeast parts x) :=
  inferInstanceAs (Decidable (_ ∧ _))

section
variable {limit limit' parts : Nat} {x y : Float}

theorem Becomes.within {q : ℚ} {u : Float.Model.UnpackedFloat} (h : Becomes q u)
    (hx : x.toModel = .pack u) (hq : |q| ≤ limit) (hlim : limit < 2 ^ 53) : Within limit x := by
  have hbig : (limit : ℚ) ≤ 2 ^ 200 := by
    have hlim' : (limit : ℚ) < 2 ^ 53 := by exact_mod_cast hlim
    linarith
  have hrnd := h.isRounded hx (hq.trans hbig)
  exact ⟨hrnd.isFinite, hrnd.abs_amount_le (isDouble_natCast hlim) hq⟩

theorem within_zero (limit : Nat) : Within limit 0.0 := by
  refine ⟨rfl, ?_⟩
  exact Nat.cast_nonneg limit

theorem Within.mono (h : Within limit x) (hle : limit ≤ limit') : Within limit' x :=
  ⟨h.isFinite, h.le.trans (by exact_mod_cast hle)⟩

section
variable (hx : Within limit x) (hy : Within limit' y)
include hx hy

theorem Within.add (hlim : limit + limit' < 2 ^ 53) : Within (limit + limit') (x + y) := by
  have hsum := (canonical_of_isFinite hx.isFinite).add (canonical_of_isFinite hy.isFinite)
  refine hsum.toBecomes.within rfl ?_ hlim
  push_cast
  exact (abs_add_le _ _).trans (add_le_add hx.le hy.le)

theorem Within.sub (hlim : limit + limit' < 2 ^ 53) : Within (limit + limit') (x - y) := by
  have hdiff := (canonical_of_isFinite hx.isFinite).sub (canonical_of_isFinite hy.isFinite)
  refine hdiff.toBecomes.within rfl ?_ hlim
  push_cast
  exact (abs_sub _ _).trans (add_le_add hx.le hy.le)

theorem Within.mul (hlim : limit * limit' < 2 ^ 53) : Within (limit * limit') (x * y) := by
  have hprod := (canonical_of_isFinite hx.isFinite).mul (canonical_of_isFinite hy.isFinite)
  refine hprod.toBecomes.within rfl ?_ hlim
  push_cast
  exact (abs_mul _ _).trans_le (mul_le_mul hx.le hy.le (abs_nonneg _) (Nat.cast_nonneg _))

end

theorem AtLeast.ne_zero (h : AtLeast parts y) : amount y ≠ 0 := by
  intro h0
  have hle := h.2
  rw [h0, abs_zero, mul_zero] at hle
  exact absurd hle (by norm_num)

theorem Within.div (hx : Within limit x) (hy : AtLeast parts y)
    (hlim : limit * parts < 2 ^ 53) : Within (limit * parts) (x / y) := by
  have hquot := (canonical_of_isFinite hx.isFinite).div (canonical_of_isFinite hy.1) hy.ne_zero
  refine hquot.within rfl ?_ hlim
  change |amount x / amount y| ≤ _
  rw [abs_div, div_le_iff₀ (abs_pos.mpr hy.ne_zero), Nat.cast_mul, mul_assoc]
  exact hx.le.trans (le_mul_of_one_le_right (Nat.cast_nonneg _) hy.2)

theorem AtLeast.beq_zero (h : AtLeast parts x) : (x == 0) = false := by
  rw [beq_eq_amount h.1 (y := 0) rfl]
  exact decide_eq_false h.ne_zero

theorem Within.toInteger (h : Within limit x) :
    ∃ n, (Value.float x).toInteger = .ok n ∧ n.natAbs ≤ limit :=
  ⟨_, Value.toInteger_float (wholePart?_eq_cut h.isFinite), natAbs_cut_le h.le⟩

theorem within_nearest {num den : Nat} (hden : den ≠ 0) (hlim : limit < 2 ^ 53)
    (h : num ≤ limit * den) (negative : Bool) : Within limit (nearest negative num den) := by
  obtain ⟨u, hu, hmodel⟩ := becomes_nearest negative num hden
  refine hu.within hmodel ?_ hlim
  rw [abs_signed, abs_of_nonneg (by positivity), div_le_iff₀ (by positivity)]
  exact_mod_cast h

theorem within_nearestInt {n : Int} (hn : n.natAbs ≤ limit) (hlim : limit < 2 ^ 53) :
    Within limit (nearestInt n) :=
  within_nearest one_ne_zero hlim (by omega) _

theorem within_measure (x : Float32) : Within 4096 (Canvas.measure x) := by
  unfold Canvas.measure
  dsimp only
  cases hb : Binary.ofFloat? x.toFloat with
  | none => exact within_zero _
  | some b =>
    dsimp only
    split
    · next hsmall =>
      have hbound : b.truncate.natAbs = b.fraction.1 / b.fraction.2 := by
        unfold Binary.truncate
        dsimp only
        split
        · rw [Int.natAbs_neg, Int.natAbs_natCast]
        · exact Int.natAbs_natCast _
      rw [hbound, Nat.div_lt_iff_lt_mul b.fraction_den_pos] at hsmall
      have hbd : Num.Bounded 4096 (.float x.toFloat) := ⟨b, hb, by exact_mod_cast hsmall.le⟩
      obtain ⟨hfin, hle⟩ := Num.bounded_iff.mp hbd
      exact ⟨hfin, by exact_mod_cast hle⟩
    · exact within_zero _

end

namespace Scale

theorem sub_zero_int (n : Int) : (Value.int n).sub (.int 0) = .ok (.int n) := by
  change Except.ok (Value.int (n - 0)) = _
  rw [Int.sub_zero]

variable {limit size given : Nat}

theorem convert_of_div {v q : Value} {y : Float} {w : Value} (hv : v.sub (.int 0) = .ok w)
    (hq : w.mul (.int given) = .ok q) (hy : q.div (.int size) = .ok (.float y))
    (hwithin : Within limit y) (hlim : limit < 2 ^ 53) :
    ∃ n, (convert v (.int 0) (.int size) (.int 0) (.int given) >>= Value.toInteger) = .ok n ∧
      n.natAbs ≤ limit := by
  have h0 : (nearestInt 0).isInf = false := rfl
  have hnone : Within 0 (nearestInt 0) := within_nearestInt (by decide) (by decide)
  obtain ⟨n, hn, hle⟩ := (hwithin.add hnone hlim).toInteger (x := y + nearestInt 0)
  refine ⟨n, ?_, hle⟩
  unfold convert
  simp only [hv, sub_zero_int, hq, hy, Value.float_add_int h0, bind, Except.bind]
  exact hn

theorem convert_float {x : Float} (hx : Within limit x)
    (hsize : AtLeast 1 (nearestInt size)) (hsize' : (nearestInt size).isInf = false)
    (hgiven : given < 2 ^ 53) (hlim : limit < 2 ^ 53) (hprod : limit * given < 2 ^ 53) :
    ∃ n, (convert (.float x) (.int 0) (.int size) (.int 0) (.int given) >>= Value.toInteger) =
      .ok n ∧ n.natAbs ≤ limit * given := by
  have h0 : (nearestInt 0).isInf = false := rfl
  have hnone : Within 0 (nearestInt 0) := within_nearestInt (by decide) (by decide)
  have hspan := within_nearestInt (n := given) (Nat.le_of_eq (Int.natAbs_natCast given)) hgiven
  have hoffset := (hx.sub hnone hlim)
  have hscaled := (hoffset.mul hspan hprod)
  have hquot := (hscaled.div hsize (by rwa [Nat.mul_one]))
  rw [Nat.mul_one] at hquot
  exact convert_of_div (Value.float_sub_int h0 x)
    (Value.float_mul_int (isInf_of_isFinite hspan.isFinite) _)
    (Value.float_div_int hsize' _ hsize.beq_zero) hquot hprod

theorem convert_int {n : Int} (hsize : size ≠ 0) (hlim : limit < 2 ^ 53)
    (h : (n * given).natAbs ≤ limit * size) :
    ∃ k, (convert (.int n) (.int 0) (.int size) (.int 0) (.int given) >>= Value.toInteger) =
      .ok k ∧ k.natAbs ≤ limit := by
  have hnearest := within_nearest hsize hlim h (decide (n * given < 0) != decide ((size : Int) < 0))
  have hwithin : Within limit (if n * given = 0 then 0.0 else nearest
      (decide (n * given < 0) != decide ((size : Int) < 0)) (n * given).natAbs size) := by
    split
    · exact within_zero _
    · exact hnearest
  refine convert_of_div (sub_zero_int n) rfl ?_ hwithin hlim
  change (if (size : Int) = 0 then Except.error Fault.divisionByZero else
    if (nearest (decide (n * given < 0) != decide ((size : Int) < 0)) (n * given).natAbs
      (size : Int).natAbs).isInf then .error .quotientTooLarge else .ok (Num.float (if n * given = 0
        then 0.0 else nearest (decide (n * given < 0) != decide ((size : Int) < 0))
          (n * given).natAbs (size : Int).natAbs))).map Num.toValue = _
  rw [if_neg (by omega), Int.natAbs_natCast, isInf_of_isFinite hnearest.isFinite]
  rfl

end Scale

structure Raster.Sized (picture : Raster) : Prop where
  width_pos : 0 < picture.width
  height_pos : 0 < picture.height
  width_le : picture.width ≤ 1048576
  height_le : picture.height ≤ 1048576

theorem Raster.Sized.visible {picture : Raster} (h : picture.Sized) :
    Games.visible picture = .ok picture := by
  have hwidth := h.width_pos
  have hheight := h.height_pos
  unfold Games.visible
  rw [if_neg (by simp; omega)]

theorem ColorChase.onPicture_completes {size given : Nat} (x : Float32)
    (hsize : size = Games.width ∨ size = Games.height) (hgiven : given ≤ 1048576) :
    ∃ n, onPicture x size given = .ok n := by
  have hlim : 4096 * given < 2 ^ 53 := by omega
  have hfin : (nearestInt size).isInf = false := by
    obtain rfl | rfl := hsize <;> decide +kernel
  have hlo : AtLeast 1 (nearestInt size) := by
    obtain rfl | rfl := hsize <;> decide +kernel
  obtain ⟨n, hn, -⟩ := Scale.convert_float (within_measure x) hlo hfin (by omega) (by omega) hlim
  exact ⟨n, hn⟩

namespace LinePatrol

theorem side_completes (x : Float32) (given : Nat) (hgiven : given ≤ 1048576) :
    ∃ k, (do
      let n := Value.int (← (Value.float (Canvas.measure x)).toInteger)
      (← Scale.convert n (.int 0) (.int Games.width) (.int 0) (.int given)).toInteger) = .ok k ∧
      k.natAbs ≤ 7 * given := by
  obtain ⟨n, hn, hle⟩ := (within_measure x).toInteger
  have hprod : (n * given).natAbs ≤ 7 * given * Games.width := by
    rw [Int.natAbs_mul, Int.natAbs_natCast, Nat.mul_right_comm]
    exact Nat.mul_le_mul_right _ (Nat.le_trans hle (by decide))
  obtain ⟨k, hk, hbd⟩ := Scale.convert_int (by decide) (by omega) hprod
  refine ⟨k, ?_, hbd⟩
  simp only [hn, bind, Except.bind] at hk ⊢
  exact hk

theorem middle?_completes {boxes : List ColorSpace.Range} (hboxes : boxes ≠ []) (picture : Raster)
    {given : Nat} (hgiven : given ≤ 1048576) (s : Strip) :
    ∃ m, middle? boxes picture given s = .ok m ∧ ∀ x, m = some x → Within (14 * given) x := by
  have htwo : AtLeast 1 (2 : Float) := by decide +kernel
  unfold middle?
  rw [List.getLast?_eq_some_getLast hboxes]
  dsimp only
  cases hlargest : Blob.largest Contour.doubleArea leastArea
      (((ColorSpace.selectLab (picture.rows s.first s.last)
        (boxes.getLast hboxes)).openBox.contours).map Contour.dominant) with
  | mk outline area =>
    cases outline with
    | none => exact ⟨none, rfl, nofun⟩
    | some outline =>
      obtain ⟨k, hk, hle⟩ := side_completes (Rectangle.around outline).x given hgiven
      obtain ⟨k', hk', hle'⟩ := side_completes (Rectangle.around outline).x' given hgiven
      have hsum : (k + k').natAbs ≤ 14 * given := by omega
      have hmid := ((within_nearestInt hsum (by omega)).div htwo (by omega))
      rw [Nat.mul_one] at hmid
      refine ⟨some (nearestInt (k + k') / 2), ?_, fun x hx => ?_⟩
      · simp only [bind, Except.bind] at hk hk' ⊢
        rw [hk, hk']
        rfl
      · cases hx
        exact hmid

def gather : Float × Float → Option Float × Float → Float × Float :=
  fun (total, weight) (m, w) =>
    match m with
    | some x => (total + x * w, weight + w)
    | none => (total, weight)

theorem weigh_eq (middles : List (Option Float × Float)) : weigh middles = (do
      let (total, weight) := middles.foldl gather (0.0, 0.0)
      if weight == 0 then return none
      return some (← (Value.float (total / weight)).toInteger)) := rfl

theorem within_gather {limit limit' : Nat} {s : Float × Float} {m : Option Float} {w : Float}
    (hsums : Within limit s.1) (hm : ∀ x, m = some x → Within limit' x) (hw : Within 1 w)
    (hlim : limit + limit' < 2 ^ 53) : Within (limit + limit') (gather s (m, w)).1 := by
  cases m with
  | none => exact hsums.mono (by omega)
  | some x =>
    have hprod := (hm x rfl).mul hw (by omega)
    rw [Nat.mul_one] at hprod
    exact hsums.add hprod hlim

theorem weigh_completes {limit : Nat} (hlim : 48 * limit < 2 ^ 53)
    {a b c : Option Float} (ha : ∀ x, a = some x → Within limit x)
    (hb : ∀ x, b = some x → Within limit x) (hc : ∀ x, c = some x → Within limit x) :
    ∃ r, weigh [(a, 0.1), (b, 0.3), (c, 0.6)] = .ok r ∧ ∀ n ∈ r, n.natAbs ≤ 48 * limit := by
  have htotal : Within (limit + limit + limit)
      ([(a, 0.1), (b, 0.3), (c, 0.6)].foldl gather (0.0, 0.0)).1 := by
    have hfst := within_gather (s := (0.0, 0.0)) (within_zero 0) ha
      (w := 0.1) ⟨by decide +kernel, by decide +kernel⟩ (by omega)
    rw [Nat.zero_add] at hfst
    have hsnd := within_gather hfst hb (w := 0.3) ⟨by decide +kernel, by decide +kernel⟩ (by omega)
    exact within_gather hsnd hc ⟨by decide +kernel, by decide +kernel⟩ (by omega)
  -- where the line was found at all, the weights sum up to a sixteenth at least
  have hweight : ∀ a b c : Bool, ([(a, 0.1), (b, 0.3), (c, 0.6)].foldl
      (fun w m => if m.1 then w + m.2 else w) (0.0 : Float) == 0) ∨
      AtLeast 16 ([(a, 0.1), (b, 0.3), (c, 0.6)].foldl
        (fun w m => if m.1 then w + m.2 else w) (0.0 : Float)) := by
    decide +kernel
  have hweight : (([(a, 0.1), (b, 0.3), (c, 0.6)].foldl gather (0.0, 0.0)).2 == 0) ∨
      AtLeast 16 ([(a, 0.1), (b, 0.3), (c, 0.6)].foldl gather (0.0, 0.0)).2 := by
    have hfound := hweight a.isSome b.isSome c.isSome
    cases a <;> cases b <;> cases c <;> exact hfound
  rw [weigh_eq]
  generalize [(a, (0.1 : Float)), (b, 0.3), (c, 0.6)].foldl gather (0.0, 0.0) = sums
    at htotal hweight ⊢
  obtain ⟨total, weight⟩ := sums
  dsimp only at htotal hweight ⊢
  obtain h0 | hlo := hweight
  · rw [if_pos h0]
    exact ⟨none, rfl, nofun⟩
  · obtain ⟨n, hn, hle⟩ := (htotal.div hlo (by omega)).toInteger (x := total / weight)
    rw [hlo.beq_zero, hn]
    refine ⟨some n, rfl, fun k hk => ?_⟩
    cases hk
    omega

end LinePatrol

end Rover
