import Rover.Proofs.Motion.Kinematics

/-!
# Driving ahead

Ahead is a quarter of a turn, where the cosine is not exactly zero. The wheels get their speeds
rounded: for a whole velocity that is not too large there are such speeds, and for a positive one
the front wheel on the left turns ahead.
-/

namespace Rover.Chassis

open Value

variable {n : Int} {w : WheelSpeeds}

theorem wheelSpeeds_ahead_iff (h : (nearestInt n).isInf = false) :
    wheelSpeeds (int 67) (.int 59) (.int n) (.int 90) (.int 0) = .ok w ↔
      let y := nearestInt n * 1.0
      let x := nearestInt n * shortfall
      wholePart? (y + x) = some w.frontLeft ∧ wholePart? (y - x) = some w.frontRight ∧
        wholePart? (y - x) = some w.backLeft ∧ wholePart? (y + x) = some w.backRight := by
  obtain ⟨hdeg, hangle, hcos, hsin⟩ := ahead_angle
  rw [wheelSpeeds_eq_joined hdeg hangle hcos hsin h]
  change joined _ _ (.int 0) = .ok w ↔ _
  refine (joined_eq_ok_iff (n := .int 0) rfl).trans ⟨?_, fun hw => ?_⟩
  · rintro ⟨t, ht, hw⟩
    cases ht
    simpa only [wholePart?_sub_zero isZero_nearestInt, wholePart?_add_zero isZero_nearestInt] using hw
  · refine ⟨nearestInt 0, toFloat_int rfl, ?_⟩
    simpa only [wholePart?_sub_zero isZero_nearestInt, wholePart?_add_zero isZero_nearestInt] using hw

theorem isInf_of_wheelSpeeds_ahead
    (hw : wheelSpeeds (int 67) (.int 59) (.int n) (.int 90) (.int 0) = .ok w) :
    (nearestInt n).isInf = false := by
  obtain ⟨hdeg, hangle, hcos, -⟩ := ahead_angle
  obtain ⟨_, hdeg', hw⟩ := eq_ok_of_bind hw
  obtain rfl := Except.ok.inj (hdeg.symm.trans hdeg')
  obtain ⟨_, hangle', hw⟩ := eq_ok_of_bind hw
  obtain rfl := Except.ok.inj (hangle.symm.trans hangle')
  obtain ⟨_, hcos', hw⟩ := eq_ok_of_bind hw
  obtain rfl := Except.ok.inj (hcos.symm.trans hcos')
  obtain ⟨x, hx, -⟩ := eq_ok_of_bind hw
  cases hinf : (nearestInt n).isInf with
  | false => rfl
  | true =>
    have hbig : (Num.int n).toFloat = .error .integerTooLarge := if_pos hinf
    change (do return Num.float ((← (Num.int n).toFloat) * (← Except.ok shortfall))).map
      Num.toValue = .ok x at hx
    rw [hbig] at hx
    cases hx

theorem between_sideways (h : (nearestInt n).isInf = false) (hn : 0 < n) :
    (nearestInt n * 1.0).isFinite ∧ 1 ≤ amount (nearestInt n * 1.0) ∧
      Between 0 (amount (nearestInt n * 1.0)) (nearestInt n * shortfall) := by
  have hrnd := isRounded_nearestInt h
  obtain ⟨hfin, hsame⟩ := amount_mul_one hrnd.isFinite
  have h1 : 1 ≤ amount (nearestInt n) := by
    refine hrnd.rounds.ge 1 ⟨1, 0, by decide, by decide, by norm_num⟩ ?_
    exact_mod_cast (show 1 ≤ n by omega)
  have hshortfall : Between 0 1 shortfall :=
    ⟨rfl, by decide +kernel, by decide +kernel⟩
  have hbecomes := (canonical_of_isFinite hrnd.isFinite).mul
    (canonical_of_isFinite hshortfall.isFinite)
  have hlo : 0 ≤ amount (nearestInt n) * amount shortfall :=
    mul_nonneg (zero_le_one.trans h1) hshortfall.ge
  have hhi : amount (nearestInt n) * amount shortfall ≤ amount (nearestInt n) :=
    mul_le_of_le_one_right (zero_le_one.trans h1) hshortfall.le
  have hprod := hbecomes.toBecomes.isRounded_of_le (x := nearestInt n * shortfall) rfl
    (.amount hrnd.isFinite) ((le_abs_self _).trans_lt (abs_amount_lt hrnd.isFinite))
    ((abs_of_nonneg hlo).trans_le hhi)
  rw [hsame]
  exact ⟨hfin, h1, hprod.between .zero (.amount hrnd.isFinite) hlo hhi⟩

theorem frontLeft_pos (hn : 0 < n)
    (hw : wheelSpeeds (int 67) (.int 59) (.int n) (.int 90) (.int 0) = .ok w) :
    0 < w.frontLeft := by
  have h := isInf_of_wheelSpeeds_ahead hw
  obtain ⟨hfin, h1, hside⟩ := between_sideways h hn
  obtain ⟨hfront, -⟩ := (wheelSpeeds_ahead_iff h).mp hw
  have hsum := (canonical_of_isFinite hfin).add (canonical_of_isFinite hside.isFinite)
  have hsum' := isFinite_of_wholePart? hfront
  have hrnd := hsum.toBecomes.isRounded_of_isInf rfl (isInf_of_isFinite hsum')
  rw [wholePart?_eq_cut hsum', Option.some_inj] at hfront
  rw [← hfront, cut_pos_iff]
  refine hrnd.rounds.ge 1 ⟨1, 0, by decide, by decide, by norm_num⟩ ?_
  exact h1.trans (le_add_of_nonneg_right hside.ge)

theorem exists_wheelSpeeds_ahead (hn : 0 < n) (hhi : n < 2 ^ 53) :
    ∃ w, wheelSpeeds (int 67) (.int 59) (.int n) (.int 90) (.int 0) = .ok w := by
  obtain ⟨hexact, hamt⟩ := amount_nearestInt (n := n) (abs_lt.mpr ⟨by omega, hhi⟩)
  have hinf := isInf_of_isFinite hexact
  obtain ⟨hfin, -, hside⟩ := between_sideways hinf hn
  have hn' : (n : ℚ) < 2 ^ 53 := by exact_mod_cast hhi
  rw [← hamt, ← (amount_mul_one hexact).2] at hn'
  obtain ⟨k, hk⟩ := exists_wholePart? (isRounded_add hfin hside.isFinite
    (abs_le.mpr ⟨by linarith [hside.ge, hside.le], by linarith [hside.le]⟩)).isFinite
  obtain ⟨l, hl⟩ := exists_wholePart? (isRounded_sub hfin hside.isFinite
    (abs_le.mpr ⟨by linarith [hside.le], by linarith [hside.ge]⟩)).isFinite
  exact ⟨⟨k, l, l, k⟩, (wheelSpeeds_ahead_iff hinf).mpr ⟨hk, hl, hl, hk⟩⟩

end Rover.Chassis
