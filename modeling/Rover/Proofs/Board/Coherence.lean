import Rover.Proofs.Board.Servo

/-!
# Records of the motors

The record of each motor is the last byte that was delivered to its register, read in two's
complement, however the motors are driven and whatever transfers fail on the way.
-/

namespace Rover

open Rig List

variable {r : Rig}

def Event.byteTo? (register : Nat) : Event → Option Nat
  | .frame address [place, byte] =>
    if address = boardAddress ∧ place = register then some byte else none
  | _ => none

namespace Rig

def bytesTo (r : Rig) (register : Nat) : List Nat :=
  r.delivered.filterMap (Event.byteTo? register)

def signed (byte : Nat) : Int := if byte < 128 then byte else (byte : Int) - 256

theorem signed_emod {n : Int} (hlo : -128 ≤ n) (hhi : n < 128) : signed (n % 256).toNat = n := by
  unfold signed
  split <;> omega

def speedOf (r : Rig) (motor : Fin 4) : Int :=
  ((r.bytesTo (31 + motor)).getLast?.map signed).getD 0

theorem speedOf_of_delivered {t : Rig} (h : t.delivered = r.delivered) (motor : Fin 4) :
    t.speedOf motor = r.speedOf motor := by
  unfold speedOf bytesTo
  rw [h]

theorem speedOf_push {e : Event} {motor : Fin 4} (h : e.byteTo? (31 + motor) = none) :
    speedOf { r with events := r.events.push e } motor = r.speedOf motor := by
  have hnothing :
      ([e].filter fun e => !isFailure e).filterMap (Event.byteTo? (31 + motor)) = [] := by
    cases hfailure : isFailure e <;> simp [hfailure, h]
  unfold speedOf bytesTo delivered
  rw [Array.toList_push, filter_append, filterMap_append, hnothing, append_nil]

end Rig

namespace Board

variable (o : MotorOrder)

theorem MotorOrder.byteTo?_frame (motor : Fin 4) :
    o.frame.byteTo? (31 + motor) =
      if motor = o.motor then some (o.speed % 256).toNat else none := by
  unfold frame Event.byteTo?
  simp only [true_and]
  by_cases h : motor = o.motor
  · rw [if_pos h, if_pos (by rw [h])]
  · rw [if_neg h, if_neg (by omega)]

theorem MotorOrder.bytesTo_deliver (r : Rig) (motor : Fin 4) :
    (o.deliver r).bytesTo (31 + motor) =
      r.bytesTo (31 + motor) ++ if motor = o.motor then [(o.speed % 256).toNat] else [] := by
  unfold bytesTo
  rw [o.delivered_deliver, filterMap_append, filterMap_cons, o.byteTo?_frame]
  split <;> simp_all

theorem MotorOrder.speedOf_deliver (r : Rig) (motor : Fin 4) :
    (o.deliver r).speedOf motor = if motor = o.motor then o.speed else r.speedOf motor := by
  have hlo := o.low
  have hhi := o.high
  unfold speedOf
  rw [o.bytesTo_deliver]
  by_cases h : motor = o.motor
  · rw [if_pos h, if_pos h, getLast?_append]
    exact signed_emod (by omega) (by omega)
  · rw [if_neg h, if_neg h, append_nil]

/-- The records of the motors agree with what was delivered, and no motor is too fast. -/
structure Coherent (r : Rig) : Prop where
  four : r.board.motors.length = 4
  agrees : ∀ motor : Fin 4, ∃ v, r.board.motors[(motor : Nat)]? = some v ∧
    v.integer? = some (r.speedOf motor)
  bounded : ∀ motor : Fin 4, -100 ≤ r.speedOf motor ∧ r.speedOf motor ≤ 100

theorem Coherent.of_speedOf {t : Rig} (h : Coherent r) (hmot : t.board.motors = r.board.motors)
    (hspeed : ∀ motor, t.speedOf motor = r.speedOf motor) : Coherent t := by
  refine ⟨hmot ▸ h.four, fun motor => ?_, fun motor => ?_⟩
  · rw [hmot, hspeed]
    exact h.agrees motor
  · rw [hspeed]
    exact h.bounded motor

theorem Coherent.failed (h : Coherent r) : Coherent r.failed :=
  h.of_speedOf rfl (speedOf_of_delivered r.delivered_failed)

theorem Coherent.deliver (h : Coherent r) (o : MotorOrder) : Coherent (o.deliver r) := by
  have hfour := h.four
  -- of the motor that the order is for, the record and the last byte change together
  refine ⟨fourMotors_deliver h.four, fun motor => ?_, fun motor => ?_⟩
  · rw [o.speedOf_deliver]
    have hrecord : (o.deliver r).board.motors = r.board.motors.set o.motor o.command := rfl
    by_cases hmotor : motor = o.motor
    · rw [hrecord, if_pos hmotor, hmotor]
      exact ⟨o.command, getElem?_set_self (by omega), o.integer⟩
    · rw [hrecord, if_neg hmotor, getElem?_set_ne (by omega)]
      exact h.agrees motor
  · rw [o.speedOf_deliver]
    split
    · exact ⟨o.low, o.high⟩
    · exact h.bounded motor

theorem getMotor_of_record {motor : Fin 4} {v : Value}
    (h : r.board.motors[(motor : Nat)]? = some v) : getMotor (.int (motor + 1)) r = .ok v r := by
  have hcheck : checkMotor (.int (motor + 1)) = .ok () := by
    unfold checkMotor
    rw [Value.int_less_int, Value.int_greater_int, decide_eq_false (by omega),
      decide_eq_false (by omega)]
    rfl
  refine (wp_outcome_iff (R := (· = .ok v r))).mp ?_
  unfold getMotor
  simp only [wp_bind, liftM_except, wp_ofExcept, wp_get, hcheck, sub_one, itemAt_natCast h]

theorem keeps_setMotor (index speed : Value) : Keeps Coherent (setMotor index speed) :=
  keeps_setMotor_of (fun _ h => h.four) (fun _ h => h.failed) (fun _ o h => h.deliver o) index speed

theorem keeps_modify {f : Rig → Rig} (hmot : ∀ r, (f r).board.motors = r.board.motors)
    (hev : ∀ r, (f r).events = r.events) : Keeps Coherent (modify f : Op Rig PUnit) := by
  refine .modify fun r hr => hr.of_speedOf (hmot r) (speedOf_of_delivered ?_)
  unfold delivered
  rw [hev]

theorem keeps_emit {e : Event} (h : ∀ motor : Fin 4, e.byteTo? (31 + motor) = none) :
    Keeps Coherent (emit e) :=
  .modify fun _ hr => hr.of_speedOf rfl fun motor => speedOf_push (h motor)

theorem keeps_meetFault : Keeps Coherent Rig.meetFault := Rig.keeps_meetFault fun _ h => h.failed

theorem keeps_frame {address : Nat} {values : List Value}
    (h : ∀ bytes, bytesOf values = .ok bytes →
      ∀ motor : Fin 4, (Event.frame address bytes).byteTo? (31 + motor) = none) :
    Keeps Coherent (writeFrame address values) := by
  rw [keeps_iff_wp]
  intro r hr
  refine wp_except_bind (fun bytes hbytes => ?_) fun _ _ => hr
  exact (Op.Preserves.bind keeps_meetFault fun _ => keeps_emit (h bytes hbytes)).wp hr

instance : Recordable Coherent := ⟨fun _ _ _ hr _ _ => hr.of_speedOf rfl fun _ => rfl⟩

theorem keeps_setServoAngle (index angle : Value) : Keeps Coherent (setServoAngle index angle) := by
  rcases setServoAngle_cases index angle with ⟨f, hfail⟩ | ⟨o, ⟨-, -, -, k, -, hk⟩, hgive⟩
  · rw [hfail]
    exact .fail f
  · have hframe : Keeps Coherent (writeFrame boardAddress o.values) := by
      refine keeps_frame fun bytes hbytes motor => ?_
      cases o.frame.symm.trans hbytes
      rw [hk]
      -- the registers of the servos are not those of the motors
      exact if_neg (by omega)
    have htransfer := Op.Preserves.bind hframe fun _ =>
      preserves_recordServo (.int o.servo) o.angle o.pulse
    rw [hgive]
    exact .map (.guarded htransfer fun _ => htransfer)

end Board

end Rover
