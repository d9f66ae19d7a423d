import Rover.Proofs.Board

/-!
# Motor commands

A motor command either is refused and changes nothing, or it stands for an order to one of the four
motors: one byte for the motor's register, which is recorded once it has been delivered. What the
bus makes of the order depends on the faults that are pending and on nothing else.
-/

namespace Rover.Board

open Rig Value

/-! ## Bounds -/

section
variable {u v w : Value} {low high n : Int}

theorem atMost_cases (h : atMost high v = .ok w) :
    w = .int high ∨ w = v ∧ v.greater (.int high) = .ok false := by
  rcases cases_of_test h with ⟨-, rfl⟩ | ⟨hgt, rfl⟩
  · exact .inl rfl
  · exact .inr ⟨rfl, hgt⟩

theorem atLeast_cases (h : atLeast low v = .ok w) :
    w = .int low ∨ w = v ∧ v.less (.int low) = .ok false := by
  rcases cases_of_test h with ⟨-, rfl⟩ | ⟨hless, rfl⟩
  · exact .inl rfl
  · exact .inr ⟨rfl, hless⟩

theorem le_of_atMost (h : atMost high v = .ok w) (hw : w.integer? = some n) : n ≤ high := by
  rcases atMost_cases h with rfl | ⟨rfl, hgt⟩
  · cases hw
    exact Int.le_refl _
  · rw [greater_of_integer? hw] at hgt
    have hnot : decide (high < n) = false := Except.ok.inj hgt
    have hle := of_decide_eq_false hnot
    omega

theorem le_of_atLeast (h : atLeast low v = .ok w) (hw : w.integer? = some n) : low ≤ n := by
  rcases atLeast_cases h with rfl | ⟨rfl, hless⟩
  · cases hw
    exact Int.le_refl _
  · rw [less_of_integer? hw] at hless
    have hnot : decide (n < low) = false := Except.ok.inj hless
    have hle := of_decide_eq_false hnot
    omega

theorem bounds_of_atLeast (hbounds : low ≤ high) (hhi : atMost high v = .ok u)
    (hlo : atLeast low u = .ok w) (hw : w.integer? = some n) : low ≤ n ∧ n ≤ high := by
  refine ⟨le_of_atLeast hlo hw, ?_⟩
  rcases atLeast_cases hlo with rfl | ⟨rfl, -⟩
  · cases hw
    exact hbounds
  · exact le_of_atMost hhi hw

theorem bounds_of_atMost (hbounds : low ≤ high) (hlo : atLeast low v = .ok u)
    (hhi : atMost high u = .ok w) (hw : w.integer? = some n) : low ≤ n ∧ n ≤ high := by
  refine ⟨?_, le_of_atMost hhi hw⟩
  rcases atMost_cases hhi with rfl | ⟨rfl, -⟩
  · cases hw
    exact hbounds
  · exact le_of_atLeast hlo hw

theorem bounds_of_clamped (hbounds : low ≤ high)
    (h : (do atLeast low (← atMost high v)) = .ok w) (hw : w.integer? = some n) :
    low ≤ n ∧ n ≤ high := by
  cases hhi : atMost high v with
  | error f =>
    rw [hhi] at h
    cases h
  | ok u =>
    rw [hhi] at h
    exact bounds_of_atLeast hbounds hhi h hw

end

theorem signedByte_eq_ok_iff {v b : Value} :
    signedByte v = .ok b ↔ ∃ n, v.integer? = some n ∧ -128 ≤ n ∧ n < 128 ∧ b = .int (n % 256) := by
  unfold signedByte
  cases v.integer? with
  | none => simp
  | some n =>
    simp only [Option.some.injEq]
    split
    · rename_i hrange
      constructor
      · intro h
        cases h
        exact ⟨n, rfl, hrange.1, hrange.2, rfl⟩
      · rintro ⟨_, rfl, -, -, rfl⟩
        rfl
    · rename_i hrange
      constructor
      · intro h
        cases h
      · rintro ⟨_, rfl, hlo, hhi, -⟩
        exact absurd ⟨hlo, hhi⟩ hrange

/-! ## Numbers of motors and servos -/

theorem passed_of_check {low high : Result Bool} {shown : Result Value} {complaint : Value → Fault}
    (h : (do if (← low) || (← high) then throw (complaint (← shown)) : Result Unit) =
      .ok ()) : low = .ok false ∧ high = .ok false := by
  cases low with
  | error f => cases h
  | ok below =>
    cases high with
    | error f => cases h
    | ok above =>
      cases below <;> cases above
      · exact ⟨rfl, rfl⟩
      all_goals cases shown <;> cases h

variable {index : Value}

theorem number_cases {n : Nat} (hlo : index.less (.int 1) = .ok false)
    (hhi : index.greater (.int n) = .ok false) :
    (∃ i : Fin n, index.integer? = some ((i : Int) + 1) ∧ index.sub (.int 1) = .ok (.int i)) ∨
      ∃ x, index = .float x := by
  have hrange : ∀ m, index.integer? = some m → ∃ i : Fin n, m = (i : Int) + 1 := by
    intro m hm
    rw [less_of_integer? hm] at hlo
    rw [greater_of_integer? hm] at hhi
    have hpos := of_decide_eq_false (Except.ok.inj hlo)
    have hbd := of_decide_eq_false (Except.ok.inj hhi)
    refine ⟨⟨(m - 1).toNat, by omega⟩, ?_⟩
    simp only
    omega
  cases index with
  | int m =>
    obtain ⟨i, rfl⟩ := hrange m rfl
    exact .inl ⟨i, rfl, sub_one i⟩
  | bool b =>
    obtain ⟨i, hi⟩ := hrange (if b then 1 else 0) rfl
    refine .inl ⟨i, congrArg some hi, ?_⟩
    change Except.ok (int ((if b then 1 else 0) - 1)) = _
    rw [hi, Int.add_sub_cancel]
  | float x => exact .inr ⟨x, rfl⟩
  | none | str | list | tuple | dict | range | object => cases hlo

theorem checkServo_ok_cases (h : checkServo index = .ok ()) :
    (∃ i : Fin 6, index.integer? = some ((i : Int) + 1) ∧ index.sub (.int 1) = .ok (.int i)) ∨
      ∃ x, index = .float x := by
  obtain ⟨hlo, hhi⟩ := passed_of_check h
  exact number_cases (n := 6) hlo hhi

/-! ## Orders to the motors -/

/-- An order to a motor: the command that is recorded, and the speed that it stands for. -/
structure MotorOrder where
  motor : Fin 4
  command : Value
  speed : Int
  integer : command.integer? = some speed
  low : -100 ≤ speed
  high : speed ≤ 100

namespace MotorOrder

variable (o : MotorOrder)

def frame : Event :=
  .frame boardAddress [31 + o.motor, (o.speed % 256).toNat]

def deliver (r : Rig) : Rig :=
  { r with
    events := r.events.push o.frame
    board := { r.board with motors := r.board.motors.set o.motor o.command } }

theorem delivered_deliver (r : Rig) : (o.deliver r).delivered = r.delivered ++ [o.frame] := by
  unfold delivered deliver
  rw [Array.toList_push, List.filter_append]
  rfl

def give : Op Rig Value := do
  twice (transfer o.deliver)
  return o.command

end MotorOrder

theorem checkMotor_ok_cases (h : checkMotor index = .ok ()) :
    (∃ i : Fin 4, index.integer? = some ((i : Int) + 1) ∧ index.sub (.int 1) = .ok (.int i)) ∨
      ∃ x, index.sub (.int 1) = .ok (.float x) := by
  obtain ⟨hlo, hhi⟩ := passed_of_check h
  rcases number_cases (n := 4) hlo hhi with hwhole | ⟨x, rfl⟩
  · exact .inl hwhole
  · exact .inr ⟨x - nearestInt 1, float_sub_int (by decide +kernel) x⟩

def sendCommand (register place command : Value) : Op Rig Unit := do
  let byte ← signedByte command
  writeFrame boardAddress [register, byte]
  let motors ← setAt (← get).board.motors (← recordPosition place) command
  modify fun r => { r with board := { r.board with motors } }

variable {r : Rig}

theorem sendCommand_order (o : MotorOrder) (hr : r.board.motors.length = 4) :
    sendCommand (.int (31 + o.motor)) (.int o.motor) o.command r = transfer o.deliver r := by
  have hbyte : signedByte o.command = .ok (.int (o.speed % 256)) := by
    have hlo := o.low
    have hhi := o.high
    exact signedByte_eq_ok_iff.mpr ⟨o.speed, o.integer, by omega, by omega, rfl⟩
  have hbytes : bytesOf [.int (31 + o.motor), .int (o.speed % 256)] =
      .ok [31 + (o.motor : Nat), (o.speed % 256).toNat] := by
    have hframe := bytesOf_int [31 + (o.motor : Int), o.speed % 256] (by simp; omega)
    exact hframe
  -- there is a record of the motor, so only the transfer can fail
  have hset := setAt_natCast r.board.motors (i := o.motor) (by omega) o.command
  have hat : recordPosition (.int o.motor) = .ok (o.motor : Int) := rfl
  refine (wp_outcome_iff (R := (· = transfer o.deliver r))).mp ?_
  rw [transfer_apply]
  unfold sendCommand writeFrame
  simp only [wp_bind, liftM_except, wp_ofExcept, hbyte, hbytes, wp_meetFault_iff]
  by_cases hfault : 0 < r.pendingFaults
  · simp only [if_pos hfault]
  · simp only [if_neg hfault, wp_emit, wp_get, hat, hset, wp_modify]
    rfl

theorem fourMotors_deliver {o : MotorOrder} (hr : r.board.motors.length = 4) :
    (o.deliver r).board.motors.length = 4 :=
  List.length_set.trans hr

theorem motorCommand_bounds {index speed command : Value} {n : Int}
    (h : motorCommand index speed = .ok command) (hn : command.integer? = some n) :
    -100 ≤ n ∧ n ≤ 100 := by
  unfold motorCommand at h
  simp only at h
  split at h
  · exact bounds_of_clamped (by decide) h hn
  · cases hneg : speed.neg with
    | error f =>
      rw [hneg] at h
      cases h
    | ok turned =>
      rw [hneg] at h
      exact bounds_of_clamped (by decide) h hn

theorem twice_sendCommand_order (o : MotorOrder) (hr : r.board.motors.length = 4) :
    (do twice (sendCommand (.int (31 + o.motor)) (.int o.motor) o.command)
        return o.command : Op Rig Value) r = o.give r :=
  order_congr (I := fun r => r.board.motors.length = 4) o.deliver o.command (fun _ h => h)
    (fun _ h => fourMotors_deliver h) (fun _ h => sendCommand_order o h) hr

theorem setMotor_order (o : MotorOrder) {index speed : Value} (hcheck : checkMotor index = .ok ())
    (hcmd : motorCommand index speed = .ok o.command)
    (hplace : index.sub (.int 1) = .ok (.int o.motor))
    (hr : r.board.motors.length = 4) : setMotor index speed r = o.give r := by
  unfold setMotor
  rw [hcheck, hcmd, hplace]
  exact twice_sendCommand_order o hr

theorem setMotor_cases (index speed : Value) :
    Op.RefusedOr (fun op => ∃ o : MotorOrder, index.integer? = some ((o.motor : Int) + 1) ∧
      motorCommand index speed = .ok o.command ∧
      ∀ r : Rig, r.board.motors.length = 4 → op r = o.give r) (setMotor index speed) := by
  refine .bind fun _ hcheck => .bind fun command hcmd => .bind fun place hplace => ?_
  refine .bind fun register hreg => ?_
  change Op.RefusedOr _ (do twice (sendCommand register place command); return command)
  cases hbyte : signedByte command with
  | error f =>
    refine .inl ⟨f, ?_⟩
    unfold sendCommand
    rw [hbyte]
    rfl
  | ok byte =>
    rcases checkMotor_ok_cases hcheck with ⟨i, hidx, hi⟩ | ⟨x, hx⟩
    · cases hi.symm.trans hplace
      cases hreg
      obtain ⟨n, hn, -⟩ := signedByte_eq_ok_iff.mp hbyte
      obtain ⟨hlo, hhi⟩ := motorCommand_bounds hcmd hn
      let o : MotorOrder := ⟨i, command, n, hn, hlo, hhi⟩
      exact .inr ⟨o, hidx, hcmd, fun r hr => twice_sendCommand_order o hr⟩
    · -- a number that is not whole gets as far as the frame, but not into it
      cases hx.symm.trans hplace
      cases hreg
      refine .inl ⟨.notInteger "float", ?_⟩
      unfold sendCommand writeFrame
      rw [hbyte]
      rfl

theorem keeps_setMotor_of {I : Rig → Prop} (hfour : ∀ r, I r → r.board.motors.length = 4)
    (hfailed : ∀ r, I r → I r.failed) (hdeliver : ∀ r (o : MotorOrder), I r → I (o.deliver r))
    (index speed : Value) : Keeps I (setMotor index speed) := by
  rcases setMotor_cases index speed with ⟨f, hfail⟩ | ⟨o, -, -, hgive⟩
  · rw [hfail]
    exact .fail f
  · have htransfer : Keeps I (transfer o.deliver) :=
      keeps_transfer hfailed fun r hr => hdeliver r o hr
    have hgiven : Keeps I o.give := .map (.guarded htransfer fun _ => htransfer)
    intro r hr
    unfold wp
    rw [hgive r (hfour r hr)]
    exact hgiven r hr

/-! ## What was delivered -/

def recordOrders (orders : List MotorOrder) (motors : List Value) : List Value :=
  orders.foldl (fun motors o => motors.set o.motor o.command) motors

theorem length_recordOrders (orders : List MotorOrder) (motors : List Value) :
    (recordOrders orders motors).length = motors.length := by
  induction orders generalizing motors with
  | nil => rfl
  | cons o rest ih => exact (ih _).trans List.length_set

/-- From one state to another these orders and no others have been delivered and recorded. -/
structure Obeyed (orders : List MotorOrder) (r t : Rig) : Prop where
  delivered : t.delivered = r.delivered ++ orders.map MotorOrder.frame
  motors : t.board.motors = recordOrders orders r.board.motors

namespace Obeyed

variable {orders orders' : List MotorOrder} {r s t : Rig}

theorem refl (r : Rig) : Obeyed [] r r := ⟨(List.append_nil _).symm, rfl⟩

theorem trans (h : Obeyed orders r s) (h' : Obeyed orders' s t) :
    Obeyed (orders ++ orders') r t := by
  refine ⟨?_, ?_⟩
  · rw [h'.delivered, h.delivered, List.map_append, List.append_assoc]
  · rw [h'.motors, h.motors]
    exact List.foldl_append.symm

theorem failed (h : Obeyed orders r t) : Obeyed orders r t.failed :=
  ⟨(delivered_failed t).trans h.delivered, h.motors⟩

theorem deliver (h : Obeyed orders r t) (o : MotorOrder) : Obeyed (orders ++ [o]) r (o.deliver t) :=
  h.trans ⟨o.delivered_deliver t, rfl⟩

end Obeyed

theorem MotorOrder.wp_give {o : MotorOrder} {r : Rig} {Q : Value → Rig → Prop}
    {E : Exit → Rig → Prop} :
    wp o.give Q E r ↔
      if r.pendingFaults ≤ 0 then Q o.command (o.deliver r)
      else if r.pendingFaults = 1 then Q o.command (o.deliver r.failed)
      else E (.fault .bus) r.failed.failed :=
  wp_order

theorem MotorOrder.give_obeyed (o : MotorOrder) (r : Rig) :
    wp o.give (fun v t => v = o.command ∧ Obeyed [o] r t) (fun _ t => Obeyed [] r t) r := by
  have hstart := Obeyed.refl r
  rw [wp_give]
  split
  · exact ⟨rfl, hstart.deliver o⟩
  · split
    · exact ⟨rfl, hstart.failed.deliver o⟩
    · exact hstart.failed.failed

theorem setMotor_obeyed (index speed : Value) {r : Rig} (hr : r.board.motors.length = 4) :
    wp (setMotor index speed)
      (fun _ t => ∃ o : MotorOrder, index.integer? = some ((o.motor : Int) + 1) ∧
        motorCommand index speed = .ok o.command ∧ Obeyed [o] r t)
      (fun _ t => Obeyed [] r t) r := by
  rcases setMotor_cases index speed with ⟨f, hfail⟩ | ⟨o, hidx, hcmd, hgive⟩
  · rw [hfail]
    exact Obeyed.refl r
  · unfold wp
    rw [hgive r hr]
    exact wp_post (o.give_obeyed r) fun _ t ht => ⟨o, hidx, hcmd, ht.2⟩

end Rover.Board
