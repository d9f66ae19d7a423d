import Rover.Proofs.Board.Motor

/-!
# What a command to the wheels comes to

A command to the four wheels that gets through leads to one state of the hardware. Whether it gets
through is decided by the faults that are pending on the bus: one is met by the second attempt, two
keep the command from all wheels.
-/

namespace Rover

open Board List Chassis

open Board (MotorOrder)
open Chassis (AtRest)

/-! ## Getting through -/

def Rig.attempt? (r : Rig) : Option Rig :=
  if r.pendingFaults ≤ 0 then some r else if r.pendingFaults = 1 then some r.failed else none

theorem Rig.attempt?_of_calm {r : Rig} (h : r.pendingFaults ≤ 0) : r.attempt? = some r := if_pos h

theorem Rig.attempt?_eq_none {r : Rig} : r.attempt? = none ↔ 2 ≤ r.pendingFaults := by
  unfold attempt?
  split
  · exact iff_of_false nofun (by omega)
  · split
    · exact iff_of_false nofun (by omega)
    · exact iff_of_true rfl (by omega)

theorem Rig.attempt?_isSome {r : Rig} : r.attempt?.isSome ↔ r.pendingFaults ≤ 1 := by
  rw [Option.isSome_iff_ne_none, ne_eq, attempt?_eq_none]
  omega

theorem Rig.attempt?_cases {r s : Rig} (h : r.attempt? = some s) :
    s.pendingFaults ≤ 0 ∧ (s = r ∨ s = r.failed) := by
  unfold attempt? at h
  split at h
  · cases h
    exact ⟨by assumption, .inl rfl⟩
  · split at h
    · cases h
      refine ⟨?_, .inr rfl⟩
      change r.pendingFaults - 1 ≤ 0
      omega
    · cases h

theorem Rig.delivered_attempt? {r s : Rig} (h : r.attempt? = some s) :
    s.delivered = r.delivered := by
  obtain ⟨-, rfl | rfl⟩ := attempt?_cases h
  · rfl
  · exact r.delivered_failed

namespace Board

/-! ## Orders one after the other -/

def commandEach (speeds : Fin 4 → Value) : List (Fin 4) → Op Rig Unit
  | [] => return
  | i :: rest => do
    let _ ← setMotor (.int (i + 1)) (speeds i)
    commandEach speeds rest

def Carry (orders : Fin 4 → MotorOrder) (speeds : Fin 4 → Value) : Prop :=
  ∀ i : Fin 4, (orders i).motor = i ∧
    motorCommand (.int (i + 1)) (speeds i) = .ok (orders i).command

theorem checkMotor_motor (i : Fin 4) : checkMotor (.int (i + 1)) = .ok () := by
  unfold checkMotor
  rw [Value.int_less_int, Value.int_greater_int, decide_eq_false (by omega),
    decide_eq_false (by omega)]
  rfl

section
variable {orders : Fin 4 → MotorOrder} {speeds : Fin 4 → Value} {r : Rig}

theorem wp_setMotor_carry {Q : Value → Rig → Prop} {E : Exit → Rig → Prop}
    (h : Carry orders speeds) (i : Fin 4) (hr : r.board.motors.length = 4) :
    wp (setMotor (.int (i + 1)) (speeds i)) Q E r ↔ wp (orders i).give Q E r := by
  obtain ⟨hmotor, hcmd⟩ := h i
  have hplace : Value.sub (.int (i + 1)) (.int 1) = .ok (.int (orders i).motor) := by
    rw [hmotor]
    exact sub_one i
  unfold wp
  rw [setMotor_order (orders i) (checkMotor_motor i) hcmd hplace hr]

def turned (orders : Fin 4 → MotorOrder) (r : Rig) : Rig :=
  { r with
    events := r.events ++ (ofFn fun i => (orders i).frame).toArray
    board := { r.board with motors := ofFn fun i => (orders i).command } }

theorem delivered_turned (orders : Fin 4 → MotorOrder) (r : Rig) :
    (turned orders r).delivered = r.delivered ++ ofFn fun i => (orders i).frame := by
  unfold Rig.delivered turned
  rw [Array.toList_append, filter_append]
  rfl

theorem foldl_deliver (hmotor : ∀ i, (orders i).motor = i) (hr : FourMotors r.board.motors) :
    ([0, 1, 2, 3] : List (Fin 4)).foldl (fun s i => (orders i).deliver s) r = turned orders r := by
  have hmot : ((((r.board.motors.set (orders 0).motor (orders 0).command).set
      (orders 1).motor (orders 1).command).set (orders 2).motor (orders 2).command).set
      (orders 3).motor (orders 3).command) = ofFn fun i => (orders i).command := by
    rw [hmotor 0, hmotor 1, hmotor 2, hmotor 3]
    -- each of the four records is overwritten
    match r.board.motors, hr with
    | [_, _, _, _], _ => rfl
  unfold turned
  rw [← hmot]
  rfl

variable {Q : Unit → Rig → Prop} {E : Exit → Rig → Prop}

theorem wp_commandEach_of_calm (h : Carry orders speeds) (motors : List (Fin 4))
    (hr : FourMotors r.board.motors) (hcalm : r.pendingFaults ≤ 0) :
    wp (commandEach speeds motors) Q E r ↔
      Q () (motors.foldl (fun s i => (orders i).deliver s) r) := by
  induction motors generalizing r with
  | nil => rfl
  | cons i rest ih =>
    unfold commandEach
    rw [wp_bind, wp_setMotor_carry h i hr, MotorOrder.wp_give, if_pos hcalm]
    exact ih (fourMotors_deliver hr) hcalm

theorem wp_commandEach (h : Carry orders speeds) (hr : FourMotors r.board.motors) :
    wp (commandEach speeds [0, 1, 2, 3]) Q E r ↔ match r.attempt? with
      | some s => Q () (turned orders s)
      | none => E (.fault .bus) r.failed.failed := by
  have hrest : ∀ s : Rig, FourMotors s.board.motors → s.pendingFaults ≤ 0 →
      (wp (commandEach speeds [1, 2, 3]) Q E ((orders 0).deliver s) ↔ Q () (turned orders s)) := by
    intro s hs hcalm
    rw [wp_commandEach_of_calm h _ (fourMotors_deliver hs) hcalm,
      ← foldl_deliver (fun i => (h i).1) hs]
    rfl
  unfold commandEach Rig.attempt?
  rw [wp_bind, wp_setMotor_carry h 0 hr, MotorOrder.wp_give]
  by_cases hnone : r.pendingFaults ≤ 0
  · rw [if_pos hnone, if_pos hnone]
    exact hrest r hr hnone
  · rw [if_neg hnone, if_neg hnone]
    by_cases h1 : r.pendingFaults = 1
    · rw [if_pos h1, if_pos h1]
      refine hrest r.failed hr ?_
      change r.pendingFaults - 1 ≤ 0
      omega
    · rw [if_neg h1, if_neg h1]

end

/-! ## Speeds -/

/-- A speed as it is sent to a motor: those on the left are mounted the other way round, and no
speed exceeds 100. -/
def mounted (i : Fin 4) (n : Int) : Int :=
  max (-100) (min 100 (if i = 1 ∨ i = 3 then n else -n))

theorem mounted_eq_zero {i : Fin 4} {n : Int} : mounted i n = 0 ↔ n = 0 := by
  unfold mounted
  omega

theorem cut_int (n : Int) :
    (do atLeast (-100) (← atMost 100 (.int n))) = .ok (Value.int (max (-100) (min 100 n))) := by
  rw [atMost_int]
  exact atLeast_int _ _

theorem motorCommand_mounted (i : Fin 4) (n : Int) :
    motorCommand (.int (i + 1)) (.int n) = .ok (.int (mounted i n)) := by
  have hright : (Value.same (.int (i + 1)) (.int 2) || Value.same (.int (i + 1)) (.int 4)) =
      decide (i = 1 ∨ i = 3) := by
    rw [Value.int_same_int, Value.int_same_int, ← Bool.decide_or, decide_eq_decide, Fin.ext_iff,
      Fin.ext_iff]
    omega
  unfold motorCommand mounted
  simp only [hright, decide_eq_true_eq]
  split
  · exact cut_int n
  · exact cut_int (-n)

end Board

namespace WheelSpeeds

variable (w : WheelSpeeds)

def speed : Fin 4 → Value
  | 0 => .int w.frontLeft
  | 1 => .int w.frontRight
  | 2 => .int w.backLeft
  | 3 => .int w.backRight

def wheel : Fin 4 → Int
  | 0 => w.frontLeft
  | 1 => w.frontRight
  | 2 => w.backLeft
  | 3 => w.backRight

def order (i : Fin 4) : MotorOrder where
  motor := i
  command := .int (mounted i (w.wheel i))
  speed := mounted i (w.wheel i)
  integer := rfl
  low := by unfold mounted; omega
  high := by unfold mounted; omega

theorem carry_order : Board.Carry w.order w.speed := by
  have hspeed : ∀ i, w.speed i = .int (w.wheel i) := by
    intro i
    unfold speed wheel
    split <;> rfl
  intro i
  rw [hspeed i]
  exact ⟨rfl, motorCommand_mounted i _⟩

def frames : List Event := ofFn fun i => (w.order i).frame

def records : List Value := ofFn fun i => (w.order i).command

def turned (r : Rig) : Rig := Board.turned w.order r

theorem fourMotors_records : FourMotors w.records := length_ofFn

theorem atRest_records {w : WheelSpeeds} : AtRest w.records ↔ w = ⟨0, 0, 0, 0⟩ := by
  have hrec : AtRest w.records ↔ ∀ i, w.wheel i = 0 := by
    refine ⟨fun h i => ?_, fun h => ⟨w.fourMotors_records, fun v hv => ?_⟩⟩
    · have hsame := h.2 _ (mem_ofFn.mpr ⟨i, rfl⟩)
      exact mounted_eq_zero.mp (of_decide_eq_true ((Value.int_same_int ..).symm.trans hsame))
    · obtain ⟨i, rfl⟩ := mem_ofFn.mp hv
      exact (Value.int_same_int ..).trans (decide_eq_true (mounted_eq_zero.mpr (h i)))
  obtain ⟨frontLeft, frontRight, backLeft, backRight⟩ := w
  rw [hrec]
  simp [Fin.forall_fin_succ, wheel]

end WheelSpeeds

section
variable {Q : Unit → Rig → Prop} {E : Exit → Rig → Prop} {r : Rig}

namespace Chassis

variable {w : WheelSpeeds}

theorem drive_eq_commandEach (w : WheelSpeeds) :
    drive w = commandEach w.speed [0, 1, 2, 3] := rfl

theorem wp_drive (hr : FourMotors r.board.motors) : wp (drive w) Q E r ↔ match r.attempt? with
      | some s => Q () (w.turned s)
      | none => E (.fault .bus) r.failed.failed := by
  rw [drive_eq_commandEach]
  exact Board.wp_commandEach w.carry_order hr

theorem wp_setVelocity {c : Chassis} {speed direction rate : Value} {Q : Chassis → Rig → Prop}
    (hw : wheelSpeeds c.halfWidth c.halfLength speed direction rate = .ok w)
    (hr : FourMotors r.board.motors) :
    wp (c.setVelocity speed direction rate) Q E r ↔ match r.attempt? with
      | some s =>
        Q { c with velocity := speed, direction, turnRate := rate } (w.turned s)
      | none => E (.fault .bus) r.failed.failed := by
  unfold setVelocity
  rw [wp_ok_bind hw, if_neg Bool.false_ne_true, wp_bind, wp_drive hr]
  rfl

theorem setVelocity_outcome (c : Chassis) (speed direction rate : Value)
    (hr : FourMotors r.board.motors) :
    wp (c.setVelocity speed direction rate)
      (fun _ t => ∃ (w : WheelSpeeds) (s : Rig), r.attempt? = some s ∧ t = w.turned s)
      (fun _ t => t = r ∨ r.attempt? = none ∧ t = r.failed.failed) r := by
  cases hw : wheelSpeeds c.halfWidth c.halfLength speed direction rate with
  | error f =>
    unfold setVelocity
    rw [hw]
    exact .inl rfl
  | ok w =>
    rw [wp_setVelocity hw hr]
    cases htry : r.attempt? with
    | some s => exact ⟨w, s, rfl, rfl⟩
    | none => exact .inr ⟨rfl, rfl⟩

theorem translate_outcome (c : Chassis) (x y : Value) (hr : FourMotors r.board.motors) :
    wp (c.translate x y)
      (fun _ t => ∃ (w : WheelSpeeds) (s : Rig), r.attempt? = some s ∧ t = w.turned s)
      (fun _ t => t = r ∨ r.attempt? = none ∧ t = r.failed.failed) r := by
  apply wp_except_bind
  · intro polar _
    exact setVelocity_outcome c polar.1 polar.2 (.int 0) hr
  · intro f _
    exact .inl rfl

end Chassis

/-! ## Games that drive -/

namespace Games

variable {w : WheelSpeeds} {speed direction rate : Value}

theorem wp_drive (hw : wheelSpeeds (Value.int 67) (.int 59) speed direction rate = .ok w)
    (hr : FourMotors r.board.motors) : wp (drive speed direction rate) Q E r ↔ match r.attempt? with
      | some s => Q () (w.turned s)
      | none => E (.fault .bus) r.failed.failed := by
  unfold drive
  rw [wp_bind, wp_setVelocity (c := {}) hw hr]
  rfl

theorem wp_halt (hr : FourMotors r.board.motors) : wp halt Q E r ↔ match r.attempt? with
      | some s => Q () (WheelSpeeds.turned ⟨0, 0, 0, 0⟩ s)
      | none => E (.fault .bus) r.failed.failed :=
  wp_drive wheelSpeeds_zero hr

theorem wp_drive_of_working
    (hw : wheelSpeeds (Value.int 67) (.int 59) speed direction rate = .ok w)
    (hr : Working FourMotors r) : wp (drive speed direction rate) Q E r ↔ Q () (w.turned r) := by
  rw [wp_drive hw hr.motors, Rig.attempt?_of_calm hr.faults]

theorem halt_completes (hr : Working FourMotors r) :
    wp halt (fun _ q => Working AtRest q) never r := by
  unfold halt
  rw [wp_drive_of_working wheelSpeeds_zero hr]
  exact { hr with motors := WheelSpeeds.atRest_records.mpr rfl }

end Games

end

end Rover
