import Rover.Proofs.Motion.Limit
import Rover.Proofs.Remote.Watchman

/-!
# Driving the motors

All that drives the motors comes down to commands for single motors, so the records of the motors
agree with the bus after any sequence of it, whatever transfers fail. A call from outside that sets
several motors is looked through before the first of them is told anything.
-/

namespace Rover

open Board List Play

open Board (Coherent keeps_setMotor keeps_modify keeps_frame)

namespace Rig

theorem coherent_sleep (t : Value) : Keeps Coherent (sleep t) := by
  have hpush : ∀ {r : Rig} {e : Event}, (∀ motor : Fin 4, e.byteTo? (31 + motor) = none) →
      Coherent r → Coherent { r with events := r.events.push e } :=
    fun h hr => hr.of_speedOf rfl fun motor => speedOf_push (h motor)
  -- however a sleep ends, all that happens besides the clock is one event without bytes
  refine keeps_sleep_of (fun _ _ _ hr _ _ _ => ?_) fun _ _ hr _ => ?_
  · exact (hpush (e := .slept t) (fun _ => rfl) hr).of_speedOf rfl fun _ => rfl
  · exact (hpush (e := .frozen) (fun _ => rfl) hr).of_speedOf rfl fun _ => rfl

theorem coherent_question (address : Nat) (v : Value) :
    Keeps Coherent (writeFrame address [v]) := by
  refine keeps_frame fun bytes hbytes motor => ?_
  match bytes, length_of_bytesOf hbytes with
  | [_], _ => rfl

instance (e : Rig → Rig) [hmot : ∀ r, Same (e r).board.motors r.board.motors]
    [hev : ∀ r, Same (e r).events r.events] : Safe True Coherent (modify e : Op Rig PUnit) :=
  .base (keeps_modify (fun r => (hmot r).eq) fun r => (hev r).eq)

instance : Safe True Coherent meetFault := .base Board.keeps_meetFault

instance (address : Nat) (v : Value) : Safe True Coherent (writeFrame address [v]) :=
  .base (coherent_question address v)

theorem Elementary.coherent (α : Type) (op : Op Rig α) (h : Elementary α op) :
    Keeps Coherent op := by
  cases h with
  | motor index speed => exact keeps_setMotor index speed
  | servo index angle => exact keeps_setServoAngle index angle
  | sleep t => exact coherent_sleep t
  | note => exact .of_parts (p := modify _)
  | _ =>
    dsimp only [Sonar.getDistance, readSonar, readLine, getBattery, readBattery]
    exact .of_parts

end Rig

instance {α : Type} {op : Op Rig α} [h : Composed Rig.Elementary op] : Safe True Coherent op :=
  h.mono Rig.Elementary.coherent

theorem Motion.Order.keeps_perform (m : Motion) (o : Order) : Keeps Coherent (o.perform m) := by
  unfold perform
  cases o <;> exact .of_parts

namespace Remote

variable {p : Play Server}

inductive Drive where
  | motor (index speed : Value)
  | velocity (c : Chassis) (velocity direction turnRate : Value) (trial : Bool)
  | translation (c : Chassis) (x y : Value)
  | rest (c : Chassis)
  | motion (m : Motion) (o : Motion.Order)
  | setMotors (args : List Value)
  | move (angle : Value)

def Drive.perform : Drive → Server.M Unit
  | motor index speed => do let _ ← onRig (setMotor index speed)
  | velocity c v direction turnRate trial => do
    let _ ← onRig (c.setVelocity v direction turnRate trial)
  | translation c x y => do let _ ← onRig (c.translate x y)
  | rest c => do let _ ← onRig c.stop
  | motion m o => onRig (o.perform m)
  | setMotors args => do let _ ← Method.setMotors args
  | move angle => do let _ ← Method.move angle

structure FaultyDrive where
  faults : Int
  drive : Drive

def FaultyDrive.perform (d : FaultyDrive) : Server.M Unit := do
  modify fun p => { p with rig := { p.rig with pendingFaults := d.faults } }
  d.drive.perform

instance {α : Type} {op : Op Rig α} [Safe True Coherent op] :
    Safe True (fun p : Play Server => Coherent p.rig) (onRig op) :=
  .base (.onPart (fun _ hp => hp) (fun _ _ _ hr => hr) .of_parts)

theorem Drive.keeps_perform (d : Drive) :
    Keeps (fun p : Play Server => Coherent p.rig) d.perform := by
  cases d with
  | motion m o =>
    have hperform : Safe True Coherent (o.perform m) := .base (o.keeps_perform m)
    exact .of_parts (p := onRig _)
  | _ =>
    dsimp only [perform, Method.setMotors, Method.move, Method.tried]
    exact .of_parts

theorem FaultyDrive.keeps_perform (d : FaultyDrive) :
    Keeps (fun p : Play Server => Coherent p.rig) d.perform :=
  .bind (.modify fun _ h => { h with }) fun _ => d.drive.keeps_perform

theorem coherent_of_fresh {r : Rig} (hmot : r.board.motors = replicate 4 (.int 0))
    (hev : r.events = #[]) : Coherent r := by
  have hspeed : ∀ motor : Fin 4, r.speedOf motor = 0 := by
    intro motor
    unfold Rig.speedOf Rig.bytesTo Rig.delivered
    rw [hev]
    rfl
  refine ⟨by rw [hmot]; rfl, fun motor => ⟨.int 0, ?_, ?_⟩, fun motor => ?_⟩
  · rw [hmot, getElem?_replicate_of_lt motor.isLt]
  · rw [hspeed]
    rfl
  · rw [hspeed]
    decide

def driven (drives : List FaultyDrive) (p : Play Server) : Rig :=
  (Op.runAll FaultyDrive.perform drives p).rig

theorem coherent_driven (drives : List FaultyDrive) (hp : Coherent p.rig) :
    Coherent (driven drives p) :=
  runAll_keeps (I := fun p : Play Server => Coherent p.rig) (fun d => d.keeps_perform) drives hp

/-- From the state in which the motors have not been driven yet, after any driving and with any
faults on the bus: what is recorded of a motor is the speed that was last delivered to it and is
within the bounds, and a motor command that fails changes neither the records nor what was
delivered. -/
theorem records_match_bus (p : Play Server)
    (hmotors : p.rig.board.motors = replicate 4 (.int 0)) (hevents : p.rig.events = #[])
    (drives : List FaultyDrive) {r : Rig} (hr : driven drives p = r) :
    (∀ motor : Fin 4, ∃ v, getMotor (.int (motor + 1)) r = .ok v r ∧
      v.integer? = some (r.speedOf motor) ∧ -100 ≤ r.speedOf motor ∧ r.speedOf motor ≤ 100) ∧
    ∀ (faults : Int) (index speed : Value) (e : Exit) (t : Rig),
      setMotor index speed { r with pendingFaults := faults } = .error e t →
        t.board.motors = r.board.motors ∧ t.delivered = r.delivered := by
  have hcoherent : Coherent r := by
    rw [← hr]
    exact coherent_driven drives (coherent_of_fresh hmotors hevents)
  constructor
  · intro motor
    obtain ⟨v, hv, hspeed⟩ := hcoherent.agrees motor
    exact ⟨v, getMotor_of_record hv, hspeed, hcoherent.bounded motor⟩
  · intro faults index speed e t herror
    have hobeyed := (Op.wp_of_error herror).mp
      (setMotor_obeyed index speed (r := { r with pendingFaults := faults }) hcoherent.four)
    refine ⟨hobeyed.motors, ?_⟩
    rw [hobeyed.delivered, map_nil, append_nil]
    rfl

def disturbed : List FaultyDrive := [
  ⟨1, .motor (.int 1) (.int 150)⟩,
  ⟨2, .motor (.int 2) (.int 30)⟩,
  ⟨3, .motion {} (.move .left (.int 40))⟩,
  ⟨0, .setMotors [.int 3, .int 20, .int 4, .bool true]⟩]

theorem records_match_bus_disturbed :
    (finRange 4).map (driven disturbed started).speedOf = [-100, 0, -20, 1] ∧
      ∀ motor : Fin 4, ∃ v,
        getMotor (.int (motor + 1)) (driven disturbed started) =
          .ok v (driven disturbed started) ∧
        v.integer? = some ((driven disturbed started).speedOf motor) := by
  refine ⟨by decide +kernel, fun motor => ?_⟩
  obtain ⟨v, hv, hspeed, -⟩ := (records_match_bus started rfl rfl disturbed rfl).1 motor
  exact ⟨v, hv, hspeed⟩

/-! ## Motors set from outside -/

section
open Board (MotorOrder Obeyed mounted widths)
open Method (setMotors anyOutside done refused)

def IsMotor (n : Int) : Prop := 1 ≤ n ∧ n ≤ 4

instance (n : Int) : Decidable (IsMotor n) := inferInstanceAs (Decidable (_ ∧ _))

def motorAt (n : Int) : Fin 4 := ⟨(n - 1).toNat % 4, by omega⟩

variable {motor : Fin 4} {n : Int}

theorem IsMotor.number (h : IsMotor n) : (motorAt n : Int) + 1 = n := by
  obtain ⟨hlo, hhi⟩ := h
  unfold motorAt
  dsimp only
  omega

theorem IsMotor.motorAt_eq (h : IsMotor n) : motorAt n = motor ↔ n = motor + 1 := by
  have hnum := h.number
  omega

def motorOrder (c : Int × Int) : MotorOrder where
  motor := motorAt c.1
  command := .int (mounted (motorAt c.1) c.2)
  speed := mounted (motorAt c.1) c.2
  integer := rfl
  low := by unfold mounted; omega
  high := by unfold mounted; omega

theorem setMotor_motorOrder (h : IsMotor n) (speed : Int) {r : Rig}
    (hr : r.board.motors.length = 4) :
    setMotor (.int n) (.int speed) r = (motorOrder (n, speed)).give r := by
  have hcheck := checkMotor_motor (motorAt n)
  have hcmd := motorCommand_mounted (motorAt n) speed
  have hplace := sub_one (motorAt n)
  rw [h.number] at hcheck hcmd hplace
  exact setMotor_order (motorOrder (n, speed)) hcheck hcmd hplace hr

theorem anyOutside_int (ns : List Int) :
    anyOutside 1 4 (ns.map .int) = .ok (decide (∃ n ∈ ns, ¬ IsMotor n)) := by
  induction ns with
  | nil => rfl
  | cons n rest ih =>
    have houtside : Method.outside 1 4 (.int n) = .ok (decide (n < 1) || decide (4 < n)) := by
      unfold Method.outside
      rw [Value.int_less_int, Value.int_greater_int]
      cases decide (n < 1) <;> rfl
    have hmotor : (decide (n < 1) || decide (4 < n)) = !decide (IsMotor n) := by
      rw [← Bool.decide_or, ← decide_not]
      exact decide_eq_decide.mpr (by unfold IsMotor; omega)
    rw [map_cons, anyOutside, houtside, hmotor]
    by_cases h : IsMotor n
    · simp only [mem_cons, exists_eq_or_imp, h, not_true_eq_false, false_or]
      exact ih
    · simp only [mem_cons, exists_eq_or_imp, h, not_false_eq_true, true_or]
      rfl

variable {cs : List (Int × Int)}

theorem commandAll_obeyed (hcs : ∀ c ∈ cs, IsMotor c.1) (hfaults : p.rig.pendingFaults ≤ 0)
    (hmot : p.rig.board.motors.length = 4) :
    wp (forIn (cs.map fun c => (Value.int c.1, Value.int c.2)) ⟨⟩ fun c _ => do
        let _ ← onRig (setMotor c.1 c.2)
        return ForInStep.yield ⟨⟩ : Server.M PUnit)
      (fun _ q => Obeyed (cs.map motorOrder) p.rig q.rig) never p := by
  induction cs generalizing p with
  | nil => exact Obeyed.refl _
  | cons c rest ih =>
    rw [forall_mem_cons] at hcs
    have hstart := (Obeyed.refl p.rig).deliver (motorOrder c)
    rw [map_cons, forIn_cons]
    simp only [wp_bind, wp_onRig, wp_pure]
    unfold wp
    rw [setMotor_motorOrder hcs.1 c.2 hmot]
    refine MotorOrder.wp_give.mpr ?_
    rw [if_pos hfaults]
    refine wp_of_total (ih hcs.2 (p := { p with rig := (motorOrder c).deliver p.rig }) hfaults
      (fourMotors_deliver hmot)) fun _ q hq => ?_
    exact hstart.trans hq

theorem recordOrders_other {orders : List MotorOrder} (motors : List Value)
    (h : ∀ o ∈ orders, o.motor ≠ motor) :
    (recordOrders orders motors)[(motor : Nat)]? = motors[(motor : Nat)]? := by
  induction orders generalizing motors with
  | nil => rfl
  | cons o rest ih =>
    rw [forall_mem_cons] at h
    refine (ih _ h.2).trans (getElem?_set_ne ?_)
    exact fun heq => h.1 (Fin.ext heq)

theorem recordOrders_last {motors : List Value} (hmot : motors.length = 4) {o : MotorOrder}
    (hmotor : o.motor = motor) (before : List MotorOrder)
    {after : List MotorOrder} (h : ∀ o ∈ after, o.motor ≠ motor) :
    (recordOrders (before ++ o :: after) motors)[(motor : Nat)]? = some o.command := by
  have hlen := (length_recordOrders before motors).trans hmot
  subst hmotor
  rw [recordOrders, foldl_append]
  refine (recordOrders_other _ h).trans (getElem?_set_self ?_)
  exact o.motor.isLt.trans_eq hlen.symm

/-- Each motor has the record of its last command, or else the one it had before. -/
def LastRecorded (cs : List (Int × Int)) (motors motors' : List Value) : Prop :=
  ∀ motor : Fin 4,
    (∀ before speed after, cs = before ++ ((motor : Int) + 1, speed) :: after →
      (∀ c ∈ after, c.1 ≠ motor + 1) →
      motors'[(motor : Nat)]? = some (.int (mounted motor speed))) ∧
    ((∀ c ∈ cs, c.1 ≠ motor + 1) → motors'[(motor : Nat)]? = motors[(motor : Nat)]?)

theorem lastRecorded_recordOrders (hcs : ∀ c ∈ cs, IsMotor c.1)
    {motors : List Value} (hmot : motors.length = 4) :
    LastRecorded cs motors (recordOrders (cs.map motorOrder) motors) := by
  intro motor
  constructor
  · rintro before speed after rfl hafter
    rw [forall_mem_append, forall_mem_cons] at hcs
    have hmotor := hcs.2.1.motorAt_eq.mpr rfl
    rw [map_append, map_cons]
    refine (recordOrders_last hmot hmotor _
      (forall_mem_map.mpr fun c hc heq => ?_)).trans
        (congrArg (fun i => some (Value.int (mounted i speed))) hmotor)
    exact hafter c hc ((hcs.2.2 c hc).motorAt_eq.mp heq)
  · intro hnone
    refine recordOrders_other _ (forall_mem_map.mpr fun c hc heq => ?_)
    exact hnone c hc ((hcs c hc).motorAt_eq.mp heq)

theorem setMotors_of_even {args : List Int} (heven : args.length % 2 = 0)
    (hfaults : p.rig.pendingFaults ≤ 0) (hmot : p.rig.board.motors.length = 4) :
    wp (setMotors (args.map .int))
      (fun v q => if ∀ c ∈ widths args, IsMotor c.1 then
          v = done "SetBrushMotor" ∧ Obeyed ((widths args).map motorOrder) p.rig q.rig
        else v = refused "SetBrushMotor" .argument ∧ q = p) never p := by
  have hany := anyOutside_int ((widths args).map Prod.fst)
  rw [map_map] at hany
  unfold setMotors Method.tried
  simp only [length_map, heven, ne_eq, not_true_eq_false, if_false]
  rw [wp_guarded, pairs_int, map_map]
  refine (wp_ok_bind hany _).mpr ?_
  by_cases hval : ∀ c ∈ widths args, IsMotor c.1
  · rw [decide_eq_false (by simpa using hval), if_neg Bool.false_ne_true, wp_bind]
    exact wp_of_total (commandAll_obeyed hval hfaults hmot)
      fun _ q hq => (if_pos hval).mpr ⟨rfl, hq⟩
  · rw [decide_eq_true (by simpa using hval), if_pos rfl]
    exact (if_neg hval).mpr ⟨rfl, rfl⟩

/-- The call that sets motors, with any whole numbers and no fault on the bus, refuses an odd number
of them, then motors that do not exist, and in both cases nothing has changed. Otherwise each pair
is delivered in turn, and of each motor the last speed is recorded. -/
theorem setMotors_validated (args : List Int) {p : Play Server}
    (hfaults : p.rig.pendingFaults ≤ 0) (hmotors : p.rig.board.motors.length = 4) :
    ∃ v q, setMotors (args.map .int) p = .ok v q ∧
      (v = refused "SetBrushMotor" .argumentCount ↔ args.length % 2 = 1) ∧
      (v = refused "SetBrushMotor" .argument ↔
        args.length % 2 = 0 ∧ ∃ c ∈ widths args, ¬ IsMotor c.1) ∧
      (v = done "SetBrushMotor" ↔ args.length % 2 = 0 ∧ ∀ c ∈ widths args, IsMotor c.1) ∧
      (v ≠ done "SetBrushMotor" → q = p) ∧
      (v = done "SetBrushMotor" →
        q.rig.delivered = p.rig.delivered ++ (widths args).map (fun c => (motorOrder c).frame) ∧
        LastRecorded (widths args) p.rig.board.motors q.rig.board.motors) := by
  rcases Nat.mod_two_eq_zero_or_one args.length with heven | hodd
  · obtain ⟨v, q, hq, houtcome⟩ := Op.wp_false_iff.mp (setMotors_of_even heven hfaults hmotors)
    refine ⟨v, q, hq, ?_⟩
    by_cases hvalid : ∀ c ∈ widths args, IsMotor c.1
    · rw [if_pos hvalid] at houtcome
      obtain ⟨rfl, hobeyed⟩ := houtcome
      refine ⟨by simp [heven, done, refused], ?_, ?_, fun h => absurd rfl h, fun _ => ⟨?_, ?_⟩⟩
      · simpa [heven, done, refused] using hvalid
      · simpa [heven] using hvalid
      · rw [hobeyed.delivered, map_map]
        rfl
      · rw [hobeyed.motors]
        exact lastRecorded_recordOrders hvalid hmotors
    · rw [if_neg hvalid] at houtcome
      obtain ⟨rfl, rfl⟩ := houtcome
      simpa [heven, done, refused, Trouble.text] using hvalid
  · refine ⟨refused "SetBrushMotor" .argumentCount, p, ?_, ?_⟩
    · unfold setMotors
      rw [length_map, if_pos (by omega)]
      rfl
    · simp [hodd, done, refused, Trouble.text]

/-- The first motor is set twice, and its second speed is recorded. -/
theorem setMotors_validated_twice :
    ∃ q, setMotors ([1, 50, 4, 300, 1, -30].map .int) started = .ok (done "SetBrushMotor") q ∧
      q.rig.board.motors[0]? = some (.int 30) ∧ q.rig.board.motors[3]? = some (.int 100) := by
  obtain ⟨v, q, hq, -, -, hdone, -, hrecords⟩ :=
    setMotors_validated [1, 50, 4, 300, 1, -30] (p := started) (by decide) rfl
  obtain rfl := hdone.mpr (by decide)
  obtain ⟨-, hlast⟩ := hrecords rfl
  exact ⟨q, hq, (hlast 0).1 [(1, 50), (4, 300)] (-30) [] rfl (by decide),
    (hlast 3).1 [(1, 50)] 300 [(1, -30)] rfl (by decide)⟩

end

end Remote

end Rover
