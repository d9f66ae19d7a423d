import Rover.Proofs.Amount.Exact
import Rover.Proofs.Motion.Kinematics

/-!
# Movements in polar form

A movement given by two coordinates is turned into a length and a direction, and those into the
speeds of the wheels. In exact numbers nothing is lost on the way, whatever the signs are.
-/

namespace Rover.Chassis

open Real
open Arith (whole)
open Board (Driven Untouched)

section
variable {x : ℝ} (hx : x ≠ 0) (y : ℝ)
include hx

theorem hypotenuse_cos_arctan : √(x ^ 2 + y ^ 2) * cos (arctan (y / x)) = |x| := by
  have hsum : x ^ 2 + y ^ 2 = x ^ 2 * (1 + (y / x) ^ 2) := by field_simp
  have hroot : √(1 + (y / x) ^ 2) ≠ 0 := by positivity
  rw [cos_arctan, hsum, sqrt_mul (sq_nonneg x), sqrt_sq_eq_abs, mul_assoc, mul_one_div_cancel hroot,
    mul_one]

theorem hypotenuse_sin_arctan : √(x ^ 2 + y ^ 2) * sin (arctan (y / x)) = |x| * (y / x) := by
  have hcos : cos (arctan (y / x)) ≠ 0 := (cos_arctan_pos _).ne'
  rw [← hypotenuse_cos_arctan hx y, mul_assoc, mul_comm (cos _), ← tan_mul_cos hcos, tan_arctan]

end

/-- The direction of a point in degrees, by the signs of its coordinates. -/
noncomputable def bearing (x y : ℝ) : ℝ :=
  if x = 0 then if 0 ≤ y then 90 else 270
  else if y = 0 then if 0 < x then 0 else 180
  else arctan (y / x) * 180 / π + if x < 0 then 180 else if y < 0 then 360 else 0

theorem polar_exact (x y : ℝ) : polar x y = .ok (√(x ^ 2 + y ^ 2), bearing x y) := by
  have hlen : (Geometry.sqrt (x ^ 2 + y ^ 2) : Result ℝ) = .ok √(x ^ 2 + y ^ 2) :=
    if_neg (not_lt.mpr (by positivity))
  have h0 : (whole 0 : ℝ) = 0 := Int.cast_zero
  unfold polar bearing
  change (Geometry.sqrt (x ^ 2 + y ^ 2) >>= _) = _
  rw [hlen, h0]
  change (if decide (x = 0) then _ else if decide (y = 0) then _ else _) = _
  simp only [decide_eq_true_eq]
  by_cases hx : x = 0
  · rw [if_pos hx, if_pos hx]
    change Except.ok (_, (whole (if decide (0 ≤ y) then 90 else 270) : ℝ)) = _
    by_cases hy : 0 ≤ y <;> simp [hy, whole]
  rw [if_neg hx, if_neg hx]
  by_cases hy : y = 0
  · rw [if_pos hy, if_pos hy]
    change Except.ok (_, (whole (if decide (0 < x) then 0 else 180) : ℝ)) = _
    by_cases hx' : 0 < x <;> simp [hx', whole]
  rw [if_neg hy, if_neg hy]
  have hslope : Arith.div y x = .ok (y / x) := if_neg hx
  have hturn : Arith.div (arctan (y / x) * (whole 180 : ℝ)) Geometry.pi =
    .ok (arctan (y / x) * (whole 180 : ℝ) / π) := if_neg pi_ne_zero
  rw [hslope]
  change (Arith.div (arctan (y / x) * (whole 180 : ℝ)) Geometry.pi >>= _) = _
  rw [hturn]
  change (if decide (x < 0) then Except.ok (_, _ + (whole 180 : ℝ)) else
    if decide (y < 0) then .ok (_, _ + (whole 360 : ℝ)) else .ok _) = _
  by_cases hx' : x < 0 <;> by_cases hy' : y < 0 <;> simp [hx', hy', whole]

/-- A length, and a direction in degrees below a full turn, lead to a point. -/
structure LeadsTo (length direction x y : ℝ) : Prop where
  nonneg : 0 ≤ length
  least : 0 ≤ direction
  most : direction < 360
  cos_eq : length * cos (direction * (π / 180)) = x
  sin_eq : length * sin (direction * (π / 180)) = y

theorem leadsTo_of_angle {x y angle : ℝ} (hlo : 0 ≤ angle) (hhi : angle < 2 * π)
    (hcos : √(x ^ 2 + y ^ 2) * cos angle = x) (hsin : √(x ^ 2 + y ^ 2) * sin angle = y)
    {d : ℝ} (hd : d = angle * 180 / π) : LeadsTo √(x ^ 2 + y ^ 2) d x y := by
  have hangle : d * (π / 180) = angle := by
    rw [hd]
    field_simp
  refine ⟨sqrt_nonneg _, ?_, ?_, hangle ▸ hcos, hangle ▸ hsin⟩
  · rw [hd]
    positivity
  · rw [hd, div_lt_iff₀ pi_pos]
    linarith

theorem leadsTo_bearing (x y : ℝ) : LeadsTo √(x ^ 2 + y ^ 2) (bearing x y) x y := by
  have hpi := pi_pos
  unfold bearing
  obtain rfl | hx := eq_or_ne x 0
  · rw [if_pos rfl]
    split_ifs with hy
    · refine leadsTo_of_angle (by positivity) (by linarith) ?_ ?_
        (show (90 : ℝ) = π / 2 * 180 / π by field_simp; norm_num)
      · simp
      · simp [sqrt_sq_eq_abs, abs_of_nonneg hy]
    · refine leadsTo_of_angle (by positivity) (by linarith) ?_ ?_
        (show (270 : ℝ) = (π + π / 2) * 180 / π by field_simp; norm_num)
      · simp [cos_add]
      · simp [sin_add, sqrt_sq_eq_abs, abs_of_neg (not_le.mp hy)]
  rw [if_neg hx]
  obtain rfl | hy := eq_or_ne y 0
  · rw [if_pos rfl]
    split_ifs with hpos
    · refine leadsTo_of_angle le_rfl (by positivity) ?_ ?_ (by simp)
      · simp [sqrt_sq_eq_abs, abs_of_pos hpos]
      · simp
    · refine leadsTo_of_angle hpi.le (by linarith) ?_ ?_
        (show (180 : ℝ) = π * 180 / π by field_simp)
      · simp [sqrt_sq_eq_abs, abs_of_nonpos (not_lt.mp hpos)]
      · simp
  rw [if_neg hy]
  have hcos := hypotenuse_cos_arctan hx y
  have hsin := hypotenuse_sin_arctan hx y
  have habove := arctan_lt_pi_div_two (y / x)
  have hbelow := neg_pi_div_two_lt_arctan (y / x)
  split_ifs with hneg hdown
  · rw [abs_of_neg hneg] at hcos hsin
    refine leadsTo_of_angle (by linarith) (by linarith) ?_ ?_
      (show _ = (arctan (y / x) + π) * 180 / π by field_simp)
    · rw [cos_add_pi, mul_neg, hcos, neg_neg]
    · rw [sin_add_pi, mul_neg, hsin, neg_mul, neg_neg, mul_div_cancel₀ _ hx]
  all_goals
    have hpos : 0 < x := lt_of_le_of_ne (not_lt.mp hneg) hx.symm
    rw [abs_of_pos hpos] at hcos hsin
    rw [mul_div_cancel₀ _ hx] at hsin
  · have hlt : arctan (y / x) < 0 := arctan_lt_zero.mpr (div_neg_of_neg_of_pos hdown hpos)
    refine leadsTo_of_angle (by linarith) (by linarith) ?_ ?_
      (show _ = (arctan (y / x) + 2 * π) * 180 / π by field_simp; ring)
    · rw [cos_add_two_pi, hcos]
    · rw [sin_add_two_pi, hsin]
  · have hle : 0 ≤ arctan (y / x) := arctan_nonneg.mpr (div_nonneg (not_lt.mp hdown) hpos.le)
    exact leadsTo_of_angle hle (by linarith) hcos hsin (add_zero _)

noncomputable def wholePart (z : ℝ) : ℤ := if 0 ≤ z then ⌊z⌋ else ⌈z⌉

theorem wheelSpeeds_exact (halfWidth halfLength : ℝ) {v d x y : ℝ} (h : LeadsTo v d x y) :
    wheelSpeeds halfWidth halfLength v d (whole 0) =
      .ok ⟨wholePart (y + x), wholePart (y - x), wholePart (y - x), wholePart (y + x)⟩ := by
  have hdeg : Arith.div (Geometry.pi : ℝ) (whole 180) = .ok (π / 180) := by
    have hwhole : (whole 180 : ℝ) = 180 := by norm_num [whole]
    rw [hwhole]
    exact if_neg (by norm_num)
  have hx : Arith.mul v (cos (d * (π / 180))) = .ok x := congrArg _ h.cos_eq
  have hy : Arith.mul v (sin (d * (π / 180))) = .ok y := congrArg _ h.sin_eq
  have hturn : -(whole 0 : ℝ) * (halfWidth + halfLength) = 0 := by simp [whole]
  rw [wheelSpeeds_of_direction hdeg rfl rfl rfl hx hy rfl]
  change Except.ok (WheelSpeeds.mk (wholePart (y + x - _)) (wholePart (y - x + _))
    (wholePart (y - x - _)) (wholePart (y + x + _))) = _
  rw [hturn]
  simp only [sub_zero, add_zero]

/-- The speeds of the wheels for a movement given by its two coordinates. -/
def moveSpeeds {α : Type} [Geometry α] (halfWidth halfLength x y : α) : Result WheelSpeeds := do
  let (velocity, direction) ← polar x y
  wheelSpeeds halfWidth halfLength velocity direction (whole 0)

/-- Read exactly, the polar form of a movement leads to the point it was made from, and the wheels
turn at the whole parts of the sum and the difference of the coordinates. By the same steps the
chassis answers, and sends each of its four motors, in turn, the command for the speed of its
wheel. -/
theorem polar_leads_to_point (x y halfWidth halfLength : ℝ) :
    (∃ length direction, polar x y = .ok (length, direction) ∧ LeadsTo length direction x y) ∧
      moveSpeeds halfWidth halfLength x y =
        .ok ⟨wholePart (y + x), wholePart (y - x), wholePart (y - x), wholePart (y + x)⟩ ∧
      ∀ x y : Value,
        perform (.translation x y true) = (do
          let (length, direction) ← polar x y
          return .tuple [length, direction]) ∧
        ∀ (c : Chassis) {r : Rig}, r.board.motors.length = 4 → wp (c.translate x y)
          (fun _ t => ∃ w, moveSpeeds c.halfWidth c.halfLength x y = .ok w ∧ Driven w.speed r t)
          (fun e t => ((∃ f, moveSpeeds c.halfWidth c.halfLength x y = .error f ∧ e = .fault f) ∨
            2 ≤ r.pendingFaults ∧ e = .fault .bus) ∧ Untouched r t) r := by
  have hleads := leadsTo_bearing x y
  refine ⟨⟨_, _, polar_exact x y, hleads⟩, ?_, fun x y => ⟨rfl, fun c r hr => ?_⟩⟩
  · unfold moveSpeeds
    rw [polar_exact]
    exact wheelSpeeds_exact halfWidth halfLength hleads
  · apply wp_mono (translate_driven c x y hr)
    · rintro _ t ⟨w, hw, ht, -⟩
      exact ⟨w, hw, ht⟩
    · exact fun _ _ h => h

/-- Backwards to the right the wheels turn at different speeds, and a fresh chassis commands its
wheels. -/
theorem backwards_to_the_right :
    moveSpeeds (67 : ℝ) 59 3 (-4.5) = .ok ⟨-1, -7, -7, -1⟩ ∧
      ({} : Rig).board.motors.length = 4 ∧ wp (({} : Chassis).translate (.int 3) (.float (-4.5)))
        (fun _ t => ∃ w, moveSpeeds (Value.int 67) (.int 59) (.int 3) (.float (-4.5)) = .ok w ∧
          Driven w.speed {} t)
        (fun e t => (∃ f, moveSpeeds (Value.int 67) (.int 59) (.int 3) (.float (-4.5)) = .error f ∧
          e = .fault f) ∧ Untouched {} t) {} := by
  obtain ⟨-, hexact, hsteps⟩ := polar_leads_to_point 3 (-4.5) 67 59
  refine ⟨hexact.trans ?_, rfl, wp_mono ((hsteps (.int 3) (.float (-4.5))).2 {} rfl) ?_ ?_⟩
  · unfold wholePart
    norm_num
  · exact fun _ _ h => h
  · rintro e t ⟨hf | ⟨h, -⟩, ht⟩
    · exact ⟨hf, ht⟩
    · exact absurd h (by decide)

end Rover.Chassis
