import Rover.Games.Basic
import Rover.Proofs.Amount.Double
import Rover.Proofs.Rig

/-!
# The board

Commands to the board leave working hardware in working order, and servos do not touch the motors.
-/

namespace Rover

namespace Board

open Value

theorem length_of_setAt {items items' : List Value} {i : Int} {v : Value}
    (h : setAt items i v = .ok items') : items'.length = items.length := by
  simp only [setAt] at h
  generalize (if i < 0 then i + items.length else i) = place at h
  split at h
  · cases h
    exact List.length_set
  · cases h

theorem setAt_natCast (items : List Value) {i : Nat} (h : i < items.length) (v : Value) :
    setAt items i v = .ok (items.set i v) := by
  have hnonneg : ¬ (i : Int) < 0 := by omega
  simp only [setAt]
  rw [if_neg hnonneg, if_pos (by omega), Int.toNat_natCast]

theorem itemAt_natCast {items : List Value} {i : Nat} {v : Value} (h : items[i]? = some v)
    (sequence : String) : itemAt items sequence (.int i) = .ok v := by
  have hint : integer? (.int i) = some (i : Int) := rfl
  unfold itemAt
  rw [hint]
  simp only [Int.not_lt.mpr (Int.natCast_nonneg i), if_false, Int.toNat_natCast, h]

theorem atLeast_int (low n : Int) : atLeast low (.int n) = .ok (.int (max low n)) := by
  unfold atLeast
  rw [int_less_int]
  by_cases h : n < low
  · rw [decide_eq_true h, Int.max_eq_left (by omega)]
    rfl
  · rw [decide_eq_false h, Int.max_eq_right (by omega)]
    rfl

theorem atMost_int (high n : Int) : atMost high (.int n) = .ok (.int (min high n)) := by
  unfold atMost
  rw [int_greater_int]
  by_cases h : high < n
  · rw [decide_eq_true h, Int.min_eq_left (by omega)]
    rfl
  · rw [decide_eq_false h, Int.min_eq_right (by omega)]
    rfl

theorem sub_one (i : Nat) : sub (.int (i + 1)) (.int 1) = .ok (.int i) := by
  change Except.ok (Value.int ((i : Int) + 1 - 1)) = _
  rw [Int.add_sub_cancel]

/-! ## Motors -/

instance {cut : Prop} (index speed : Value) :
    Safe cut (Working FourMotors) (setMotor index speed) := by
  refine .except fun _ => .except fun command => .except fun place => .except fun _ => ?_
  have hrecord : Safe cut (Working FourMotors) (do
      let motors ← setAt (← get).board.motors (← recordPosition place) command
      modify fun r => { r with board := { r.board with motors } }) := by
    refine .base fun r hr => wp_except_bind (fun _ _ => ?_) fun _ _ => ⟨nofun, hr⟩
    refine wp_except_bind (fun motors hmot => ?_) fun _ _ => ⟨nofun, hr⟩
    exact { hr with motors := (length_of_setAt hmot).trans hr.motors }
  infer_instance

/-! ## Servos -/

section
variable {cut : Prop} {I : Rig → Prop}

/-- The property survives whatever is recorded of the servos, as long as none is lost. -/
class Recordable (I : Rig → Prop) : Prop where
  record : ∀ r angles pulses, I r → angles.length = r.board.angles.length →
    pulses.length = r.board.pulses.length →
    I { r with board := { r.board with angles, pulses } }

instance {P : List Value → Prop} : Recordable (Working P) where
  record _ _ _ hr hangles hpulses :=
    { hr with angles := hangles.trans hr.angles, pulses := hpulses.trans hr.pulses }

section
variable [hI : Recordable I]

theorem preserves_recordServo (place angle pulse : Value) :
    Preserves cut I (recordServo place angle pulse) := by
  intro r hr
  refine wp_except_bind (fun n _ => ?_) fun _ _ => ⟨nofun, hr⟩
  refine wp_except_bind (fun angles hangles => ?_) fun _ _ => ⟨nofun, hr⟩
  refine wp_except_bind (fun pulses hpulses => ?_) fun _ _ => ⟨nofun, hr⟩
  exact hI.record r angles pulses hr (length_of_setAt hangles) (length_of_setAt hpulses)

theorem preserves_encodeServos (commands : List (Value × Value)) :
    Preserves cut I (encodeServos commands) := by
  induction commands with
  | nil => exact .pure _
  | cons command rest ih =>
    refine .except fun _ => .except fun pulse => .except fun word => .except fun place => ?_
    intro r hr
    refine wp_except_bind (fun _ _ => ?_) fun _ _ => ⟨nofun, hr⟩
    refine wp_except_bind (fun pulses hpulses => ?_) fun _ _ => ⟨nofun, hr⟩
    have hpulsed := hI.record r r.board.angles pulses hr rfl (length_of_setAt hpulses)
    refine wp_except_bind (fun _ _ => ?_) fun _ _ => ⟨nofun, hpulsed⟩
    refine wp_except_bind (fun _ _ => ?_) fun _ _ => ⟨nofun, hpulsed⟩
    refine wp_except_bind (fun angles hangles => ?_) fun _ _ => ⟨nofun, hpulsed⟩
    exact (Op.Preserves.map ih) _ (hI.record _ angles _ hpulsed (length_of_setAt hangles) rfl)

instance (place angle pulse : Value) : Safe cut I (recordServo place angle pulse) :=
  .base (preserves_recordServo place angle pulse)

instance (commands : List (Value × Value)) : Safe cut I (encodeServos commands) :=
  .base (preserves_encodeServos commands)

set_option synthInstance.maxSize 4096 in
instance [Enduring I] (index pulse time : Value) : Safe cut I (setServoPulse index pulse time) := by
  unfold setServoPulse
  infer_instance

end

theorem recordServo_apply {r : Rig} {i : Nat} (hangles : i < r.board.angles.length)
    (hpulses : i < r.board.pulses.length) (angle pulse : Value) :
    recordServo (.int i) angle pulse r = .ok () { r with
      board := { r.board with
        angles := r.board.angles.set i angle, pulses := r.board.pulses.set i pulse } } := by
  have hat : recordPosition (.int i) = .ok (i : Int) := rfl
  have hangle := setAt_natCast r.board.angles hangles angle
  have hpulse := setAt_natCast r.board.pulses hpulses pulse
  refine (wp_outcome_iff (R := (· = EStateM.Result.ok () _))).mp ?_
  unfold recordServo
  simp only [wp_bind, wp_ofExcept, liftM_except, hat, wp_get, hangle, hpulse, wp_modify]

theorem wordBytes_int {n : Int} (hlo : 0 ≤ n) (hhi : n < 65536) :
    wordBytes (.int n) = .ok [.int (n % 256), .int (n / 256)] := by
  have hint : (Value.int n).integer? = some n := rfl
  unfold wordBytes
  rw [hint]
  simp only
  rw [if_neg (by omega), if_neg (by omega)]

theorem angleOfPulse_int {pulse angle : Int} (hfin : (nearestInt (pulse - 500)).isInf = false)
    (hangle : (Binary.ofFloat? (nearestInt (pulse - 500) * 0.09)).map Binary.truncate =
      some angle) : angleOfPulse (.int pulse) = .ok (.int angle) := by
  have hsub : sub (.int pulse) (.int 500) = .ok (.int (pulse - 500)) := rfl
  unfold angleOfPulse
  simp only [hsub, bind, Except.bind, int_mul_float hfin, toInteger_float hangle]
  rfl

end

end Board

/-! ## Wheels -/

namespace Chassis

def AtRest (motors : List Value) : Prop :=
  motors.length = 4 ∧ ∀ v ∈ motors, v.same (.int 0)

instance (motors : List Value) : Decidable (AtRest motors) := inferInstanceAs (Decidable (_ ∧ _))

theorem wheelSpeeds_zero :
    wheelSpeeds (Value.int 67) (.int 59) (.int 0) (.int 90) (.int 0) = .ok ⟨0, 0, 0, 0⟩ :=
  eq_ok_of_toOption (by decide +kernel)

end Chassis

/-! ## What games do to the hardware -/

namespace Games

variable {base : (α : Type) → Op Rig α → Prop}

section
variable [∀ e, Composed base (Rig.emit e)]

instance (name : Value) : Composed base (light name) := by
  unfold light Board.setLamp Board.showLamps
  infer_instance

instance : Composed base dark := inferInstanceAs (Composed _ (light _))

variable [∀ t, Composed base (Rig.sleep t)]

instance (duration : Value) : Composed base (beep duration) := by
  unfold beep Board.setBuzzer
  infer_instance

end

instance [∀ t, Composed base (Rig.sleep t)] (seconds : Float) : Composed base (pause seconds) :=
  inferInstanceAs (Composed _ (Rig.sleep _))

section
variable [∀ index speed, Composed base (Board.setMotor index speed)]

instance (speed direction rate : Value) : Composed base (drive speed direction rate) := by
  unfold drive Chassis.setVelocity Chassis.drive
  infer_instance

instance : Composed base halt := inferInstanceAs (Composed _ (drive _ _ _))

end

variable [∀ index pulse time, Composed base (Board.setServoPulse index pulse time)]

instance (index : Int) (pulse : Value) (time : Int) : Composed base (servo index pulse time) := by
  unfold servo
  infer_instance

instance (tilt pan : Value) : Composed base (look tilt pan) := by
  unfold look
  infer_instance

end Games

end Rover
