import Rover.Commands
import Rover.Proofs.Bounded
import Rover.Proofs.Motion.Drive

/-!
# Commands to the four wheels

A command to the wheels is all or nothing. What can fail in the calculation fails before the first
motor is told anything, and a speed that can be sent to one motor can be sent to all of them, either
way round.
-/

namespace Rover

open Chassis Board Obeyed

open Value (larger smaller within)
variable {speed : Value}

namespace Board

section
variable {orders : Fin 4 → MotorOrder} {speeds : Fin 4 → Value} {r : Rig}

/-- From one state to another each motor has got one order, in turn, with the command for its speed,
and that is what its record shows. -/
def Driven (speeds : Fin 4 → Value) (r t : Rig) : Prop :=
  ∃ orders : Fin 4 → MotorOrder, Carry orders speeds ∧
    t.delivered = r.delivered ++ List.ofFn (fun i => (orders i).frame) ∧
    t.board.motors = List.ofFn fun i => (orders i).command

def Untouched (r t : Rig) : Prop :=
  t.delivered = r.delivered ∧ t.board.motors = r.board.motors

theorem Obeyed.untouched {r t : Rig} (h : Obeyed [] r t) : Untouched r t :=
  ⟨h.delivered.trans (List.append_nil _), h.motors⟩

theorem Untouched.trans {r s t : Rig} (h : Untouched r s) (h' : Untouched s t) : Untouched r t :=
  ⟨h'.1.trans h.1, h'.2.trans h.2⟩

theorem Untouched.driven {r s t : Rig} (h : Untouched r s) (h' : Driven speeds s t) :
    Driven speeds r t := by
  obtain ⟨orders, hcarry, hdel, hmot⟩ := h'
  exact ⟨orders, hcarry, hdel.trans (congrArg (· ++ _) h.1), hmot⟩

theorem commandEach_driven (hcarry : Carry orders speeds) (hr : r.board.motors.length = 4) :
    wp (commandEach speeds [0, 1, 2, 3]) (fun _ t => Driven speeds r t)
      (fun e t => (2 ≤ r.pendingFaults ∧ e = .fault .bus) ∧ Untouched r t) r := by
  rw [wp_commandEach hcarry hr]
  cases htry : r.attempt? with
  | some s => exact ⟨orders, hcarry, by rw [delivered_turned, Rig.delivered_attempt? htry], rfl⟩
  | none => exact ⟨⟨Rig.attempt?_eq_none.mp htry, rfl⟩, (refl r).failed.failed.untouched⟩

end

/-! ## Speeds that can be sent -/

theorem cut_of_bounded {v : Value} {limit : Int} (h : v.Bounded limit) (hlim : limit ≤ 100) :
    (do atLeast (-100) (← atMost 100 v)) = .ok v := by
  have hhi : atMost 100 v = .ok v := by
    unfold atMost
    rw [h.not_above hlim]
    rfl
  rw [hhi]
  change atLeast (-100) v = _
  unfold atLeast
  rw [h.not_below hlim]
  rfl

def Sendable (v : Value) : Prop :=
  ∀ index, ∃ command n, motorCommand index v = .ok command ∧ command.integer? = some n

def Unsendable (v : Value) : Prop :=
  ∀ index, ∃ command, motorCommand index v = .ok command ∧ command.integer? = none

theorem sendable_of_integer? {v : Value} {n : Int} (h : v.integer? = some n) : Sendable v := by
  intro index
  cases v with
  | int k =>
    unfold motorCommand
    simp only
    split
    · exact ⟨_, _, cut_int k, rfl⟩
    · exact ⟨_, _, cut_int (-k), rfl⟩
  | bool b =>
    unfold motorCommand
    simp only
    cases b <;> split <;> exact ⟨_, _, rfl, rfl⟩
  | float | none | str | list | tuple | dict | range | object => cases h

section
variable {x : Float} (h : x.isFinite)
include h

theorem cut_of_large (hbig : 100 < |amount x|) :
    ∃ n : Int, (do atLeast (-100) (← atMost 100 (.float x))) = .ok (Value.int n) := by
  have hgt := Value.greater_eq_amount (v := .float x) rfl h 100
  have hless := Value.less_eq_amount (v := .float x) rfl h (-100)
  simp only [Num.amount, Int.cast_neg, Int.cast_ofNat] at hgt hless
  rcases lt_abs.mp hbig with hbig | hbig
  · rw [decide_eq_true hbig] at hgt
    unfold atMost
    rw [hgt]
    exact ⟨100, rfl⟩
  · rw [decide_eq_false (by linarith)] at hgt
    rw [decide_eq_true (by linarith)] at hless
    have hhi : atMost 100 (.float x) = .ok (.float x) := by
      unfold atMost
      rw [hgt]
      rfl
    rw [hhi]
    show ∃ n, atLeast (-100) (.float x) = .ok (Value.int n)
    unfold atLeast
    rw [hless]
    exact ⟨_, rfl⟩

theorem sendable_of_large (hbig : 100 < |amount x|) : Sendable (.float x) := by
  intro index
  obtain ⟨hback, hamt⟩ := amount_neg h
  unfold motorCommand
  simp only
  split
  · obtain ⟨n, hn⟩ := cut_of_large h hbig
    exact ⟨_, n, hn, rfl⟩
  · obtain ⟨n, hn⟩ := cut_of_large hback (by rwa [hamt, abs_neg])
    exact ⟨_, n, hn, rfl⟩

theorem unsendable_of_small (hsmall : |amount x| ≤ 100) : Unsendable (.float x) := by
  intro index
  have hbd : Num.Bounded 100 (.float x) := Num.bounded_iff.mpr ⟨h, by exact_mod_cast hsmall⟩
  -- a double within the bounds is left as it is
  have hcut : ∀ {y : Float}, Num.Bounded 100 (.float y) →
      (do atLeast (-100) (← atMost 100 (.float y))) = .ok (Value.float y) :=
    fun hy => cut_of_bounded ⟨_, rfl, hy⟩ (Int.le_refl _)
  unfold motorCommand
  simp only
  split
  · exact ⟨_, hcut hbd, rfl⟩
  · exact ⟨_, hcut hbd.neg, rfl⟩

end

theorem exists_orders {speeds : Fin 4 → Value} (h : ∀ i, Sendable (speeds i)) :
    ∃ orders, Carry orders speeds := by
  have horder : ∀ i : Fin 4, ∃ o : MotorOrder,
      o.motor = i ∧ motorCommand (.int (i + 1)) (speeds i) = .ok o.command := by
    intro i
    obtain ⟨command, n, hcmd, hn⟩ := h i (.int (i + 1))
    obtain ⟨hlo, hhi⟩ := motorCommand_bounds hcmd hn
    exact ⟨⟨i, command, n, hn, hlo, hhi⟩, rfl, hcmd⟩
  exact Classical.axiomOfChoice horder

theorem setMotor_of_unsendable (h : Unsendable speed) (index : Value) :
    ∃ f, setMotor index speed = Op.fail f := by
  rcases setMotor_cases index speed with hfail | ⟨o, -, hcmd, -⟩
  · exact hfail
  · obtain ⟨command, hcmd', hnone⟩ := h index
    rw [hcmd] at hcmd'
    cases hcmd'
    rw [o.integer] at hnone
    cases hnone

/-! ## Operations that drive -/

/-- The operation gives the four wheels the speeds that are computed for them, or leaves the wheels
alone. -/
def Drives {α : Type} (computed : Result (Fin 4 → Value)) (op : Op Rig α) : Prop :=
  ∀ r : Rig, r.board.motors.length = 4 →
    wp op (fun _ t => ∃ speeds, computed = .ok speeds ∧ Driven speeds r t)
      (fun _ t => Untouched r t) r

section
variable {α β : Type} {computed : Except Fault (Fin 4 → Value)} {speeds : Fin 4 → Value}

theorem Drives.except_bind {e : Result β} {f : β → Op Rig α}
    (h : ∀ b, e = .ok b → Drives computed (f b)) : Drives computed (do f (← liftM e)) := by
  intro r hr
  apply wp_except_bind
  · intro b hb
    exact h b hb r hr
  · intro _ _
    exact (refl r).untouched

theorem Drives.discard {op : Op Rig α} (h : Drives computed op) :
    Drives computed (do let _ ← op) := by
  intro r hr
  rw [wp_bind]
  exact h r hr

theorem Drives.log {op : Op Rig α} (text : String) (h : Drives computed op) :
    Drives computed (do Rig.info text; op) := by
  intro r hr
  have hlog : Untouched r { r with log := r.log.push ⟨.info, text⟩ } := ⟨rfl, rfl⟩
  apply wp_mono (h { r with log := r.log.push ⟨.info, text⟩ } hr)
  · rintro _ t ⟨speeds, hspeeds, ht⟩
    exact ⟨speeds, hspeeds, hlog.driven ht⟩
  · intro _ t ht
    exact hlog.trans ht

theorem drives_of_sendable (h : ∀ i, Sendable (speeds i)) :
    Drives (.ok speeds) (commandEach speeds [0, 1, 2, 3]) := by
  intro r hr
  obtain ⟨orders, hcarry⟩ := exists_orders h
  apply wp_mono (commandEach_driven hcarry hr)
  · intro _ t ht
    exact ⟨speeds, rfl, ht⟩
  · intro _ t ht
    exact ht.2

theorem drives_of_unsendable (h : Unsendable (speeds 0)) :
    Drives computed (commandEach speeds [0, 1, 2, 3]) := by
  intro r _
  obtain ⟨f, hfail⟩ := setMotor_of_unsendable h (.int ((0 : Fin 4) + 1))
  unfold commandEach
  rw [hfail, wp_bind, Op.wp_fail]
  exact (refl r).untouched

end

end Board

/-! ## The chassis -/

theorem WheelSpeeds.sendable (w : WheelSpeeds) (i : Fin 4) : Board.Sendable (w.speed i) := by
  unfold speed
  split <;> exact sendable_of_integer? rfl

namespace Chassis

open Board (Driven Untouched Obeyed)

def Order.isTrial : Order → Bool
  | .velocity _ _ _ trial | .translation _ _ trial => trial
  | .stop => false

variable (c : Chassis)

def Order.wheels : Order → Result WheelSpeeds
  | .velocity speed direction turnRate _ =>
    wheelSpeeds c.halfWidth c.halfLength speed direction turnRate
  | .translation x y _ => do
    let (speed, direction) ← polar x y
    wheelSpeeds c.halfWidth c.halfLength speed direction (.int 0)
  | .stop => .ok ⟨0, 0, 0, 0⟩

def Order.commanded : Order → Result Chassis
  | .velocity speed direction turnRate _ =>
    .ok { c with velocity := speed, direction, turnRate }
  | .translation x y _ => do
    let (speed, direction) ← polar x y
    return { c with velocity := speed, direction, turnRate := .int 0 }
  | .stop => .ok { c with velocity := .int 0, direction := .int 0, turnRate := .int 0 }

variable {r : Rig}

theorem drive_driven (w : WheelSpeeds) (hr : r.board.motors.length = 4) :
    wp (drive w) (fun _ t => Driven w.speed r t)
      (fun e t => (2 ≤ r.pendingFaults ∧ e = .fault .bus) ∧ Untouched r t) r := by
  obtain ⟨orders, hcarry⟩ := exists_orders w.sendable
  rw [drive_eq_commandEach]
  exact commandEach_driven hcarry hr

theorem drives_drive (w : WheelSpeeds) : Board.Drives (.ok w.speed) (drive w) :=
  drives_of_sendable w.sendable

theorem wp_become {command : Chassis → Op Rig Chassis} {Q : Value → Rig × Chassis → Prop}
    {E : Exit → Rig × Chassis → Prop} {c : Chassis} : wp (become command) Q E (r, c) ↔
      wp (command c) (fun c' t => Q .none (t, c')) (fun e t => E e (t, c)) r := by
  unfold become HasRig.onRig
  simp only [wp_bind, wp_get, wp_onPart, wp_modify, wp_pure]
  rfl

def Order.Fails (o : Order) (r : Rig) (c : Chassis) (e : Exit) : Prop :=
  (∃ f, o.wheels c = .error f ∧ e = .fault f) ∨ 2 ≤ r.pendingFaults ∧ e = .fault .bus

def Order.Done (o : Order) (r : Rig) (c : Chassis) (t : Rig) (c' : Chassis) : Prop :=
  ∃ w, o.wheels c = .ok w ∧ Driven w.speed r t ∧ o.commanded c = .ok c'

theorem setVelocity_driven (speed direction turnRate : Value) (hr : r.board.motors.length = 4) :
    wp (c.setVelocity speed direction turnRate)
      (fun c' t => (Order.velocity speed direction turnRate false).Done r c t c')
      (fun e t => (Order.velocity speed direction turnRate false).Fails r c e ∧ Untouched r t)
      r := by
  apply wp_except_bind
  · intro w hw
    rw [if_neg Bool.false_ne_true, wp_bind]
    apply wp_mono (drive_driven w hr)
    · intro _ t ht
      exact ⟨w, hw, ht, rfl⟩
    · intro e t ht
      exact ⟨.inr ht.1, ht.2⟩
  · intro f hf
    exact ⟨.inl ⟨f, hf, rfl⟩, (refl r).untouched⟩

theorem drives_setVelocity (speed direction turnRate : Value) :
    Board.Drives
      (do return (← wheelSpeeds c.halfWidth c.halfLength speed direction turnRate).speed)
      (c.setVelocity speed direction turnRate) := by
  intro r hr
  apply wp_mono (setVelocity_driven c speed direction turnRate hr)
  · rintro _ t ⟨w, hw, ht, -⟩
    have hw : wheelSpeeds c.halfWidth c.halfLength speed direction turnRate = .ok w := hw
    rw [hw]
    exact ⟨w.speed, rfl, ht⟩
  · intro _ t ht
    exact ht.2

theorem translation_of_polar {x y direction : Value} (h : polar x y = .ok (speed, direction))
    (c : Chassis) :
    (Order.translation x y false).wheels c =
        (Order.velocity speed direction (.int 0) false).wheels c ∧
      (Order.translation x y false).commanded c =
        (Order.velocity speed direction (.int 0) false).commanded c := by
  constructor
  · simp only [Order.wheels, h, bind, Except.bind]
  · simp only [Order.commanded, h, bind, Except.bind, pure, Except.pure]

theorem wheels_of_polar_error {x y : Value} {f : Fault} (h : polar x y = .error f) (c : Chassis)
    (trial : Bool) : (Order.translation x y trial).wheels c = .error f := by
  simp only [Order.wheels, h, bind, Except.bind]

theorem translate_driven (x y : Value) (hr : r.board.motors.length = 4) :
    wp (c.translate x y) (fun c' t => (Order.translation x y false).Done r c t c')
      (fun e t => (Order.translation x y false).Fails r c e ∧ Untouched r t) r := by
  apply wp_except_bind
  · rintro ⟨speed, direction⟩ hpolar
    unfold Order.Done Order.Fails
    obtain ⟨hwheels, hcommanded⟩ := translation_of_polar hpolar c
    rw [hwheels, hcommanded]
    exact setVelocity_driven c speed direction (.int 0) hr
  · intro f hf
    exact ⟨.inl ⟨f, wheels_of_polar_error hf c false, rfl⟩, (refl r).untouched⟩

theorem stop_driven (hr : r.board.motors.length = 4) :
    wp c.stop (fun c' t => Order.stop.Done r c t c')
      (fun e t => Order.stop.Fails r c e ∧ Untouched r t) r := by
  unfold stop
  rw [wp_bind]
  apply wp_mono (drive_driven ⟨0, 0, 0, 0⟩ hr)
  · intro _ t ht
    exact ⟨_, rfl, ht, rfl⟩
  · intro e t ht
    exact ⟨.inr ht.1, ht.2⟩

theorem become_done {o : Order} (command : Chassis → Op Rig Chassis) {c : Chassis}
    (h : wp (command c) (fun c' t => o.Done r c t c')
      (fun e t => o.Fails r c e ∧ Untouched r t) r) :
    wp (become command) (fun _ s => o.Done r c s.1 s.2)
      (fun e s => o.Fails r c e ∧ Untouched r s.1 ∧ s.2 = c) (r, c) := by
  rw [wp_become]
  apply wp_mono h
  · intro c' t ht
    exact ht
  · intro e t ht
    exact ⟨ht.1, ht.2, rfl⟩

theorem perform_done (o : Order) (c : Chassis) (hr : r.board.motors.length = 4) : wp (perform o)
      (fun _ s => if o.isTrial then s = (r, c) else o.Done r c s.1 s.2)
      (fun e s => o.Fails r c e ∧ Untouched r s.1 ∧ s.2 = c) (r, c) := by
  have hstart := (refl r).untouched
  cases o with
  | velocity speed direction turnRate trial =>
    cases trial with
    | false =>
      exact become_done (fun c => c.setVelocity speed direction turnRate)
        (setVelocity_driven c speed direction turnRate hr)
    | true =>
      unfold perform setVelocity
      rw [wp_become]
      apply wp_except_bind
      · intro _ _
        exact rfl
      · intro f hf
        exact ⟨.inl ⟨f, hf, rfl⟩, hstart, rfl⟩
  | translation x y trial =>
    cases trial with
    | false => exact become_done (fun c => c.translate x y) (translate_driven c x y hr)
    | true =>
      apply wp_except_bind
      · intro _ _
        exact rfl
      · intro f hf
        exact ⟨.inl ⟨f, wheels_of_polar_error hf c true, rfl⟩, hstart, rfl⟩
  | stop => exact become_done stop (stop_driven c hr)

end Chassis

namespace Motion

open Board (Drives Driven Untouched Sendable Unsendable commandEach drives_of_sendable
  drives_of_unsendable)

/-! ## Orders to the wheels -/

inductive Order where
  | move (kind : Move) (speed : Value)
  | stop
  | atAngle (angle speed : Value)
  | along (x y : Value)

def Order.perform (m : Motion) : Order → Op Rig Unit
  | .move kind speed => m.move kind speed
  | .stop => Motion.stop
  | .atAngle angle speed => m.moveAtAngle angle speed
  | .along x y => moveAlong x y

def Order.steered (m : Motion) : Order → Option (Result WheelSpeeds)
  | .move .. | .stop => none
  | .atAngle angle speed => some do
    wheelSpeeds (Value.int 67) (.int 59) (← m.clampSpeed speed) angle (.int 0)
  | .along x y => some do
    let x ← within (-100) 100 (.int (← x.toInteger))
    let y ← within (-100) 100 (.int (← y.toInteger))
    let (velocity, direction) ← polar x y
    wheelSpeeds (Value.int 67) (.int 59) velocity direction (.int 0)

/-! ## Speeds within the limit -/

section
variable {limit low high : Int} {v w : Value}

theorem smaller_cases (h : smaller (.int high) v = .ok w) :
    w = .int high ∨ w = v ∧ v.less (.int high) = .ok true := by
  rcases Value.cases_of_test h with ⟨hless, rfl⟩ | ⟨-, rfl⟩
  · exact .inr ⟨rfl, hless⟩
  · exact .inl rfl

theorem larger_cases (h : larger (.int low) v = .ok w) :
    w = .int low ∨ w = v ∧ v.greater (.int low) = .ok true := by
  rcases Value.cases_of_test h with ⟨hgt, rfl⟩ | ⟨-, rfl⟩
  · exact .inr ⟨rfl, hgt⟩
  · exact .inl rfl

theorem within_int (low high n : Int) :
    within low high (.int n) = .ok (.int (max low (min high n))) := by
  have hsmaller : smaller (.int high) (.int n) = .ok (.int (min high n)) := by
    unfold smaller
    rw [Value.int_less_int]
    by_cases h : n < high
    · rw [decide_eq_true h, Int.min_eq_right (by omega)]
      rfl
    · rw [decide_eq_false h, Int.min_eq_left (by omega)]
      rfl
  have hlarger : larger (.int low) (.int (min high n)) = .ok (.int (max low (min high n))) := by
    unfold larger
    rw [Value.int_greater_int]
    by_cases h : low < min high n
    · rw [decide_eq_true h, Int.max_eq_right (by omega)]
      rfl
    · rw [decide_eq_false h, Int.max_eq_left (by omega)]
      rfl
  unfold Value.within
  rw [hsmaller]
  exact hlarger

theorem within_cases (h : v.within (-limit) limit = .ok w) :
    w = .int (-limit) ∨ w = .int limit ∨ w.Bounded limit := by
  unfold Value.within at h
  cases hsmaller : smaller (.int limit) v with
  | error f =>
    rw [hsmaller] at h
    cases h
  | ok u =>
    rw [hsmaller] at h
    rcases larger_cases h with rfl | ⟨rfl, hgt⟩
    · exact .inl rfl
    · rcases smaller_cases hsmaller with rfl | ⟨rfl, hless⟩
      · exact .inr (.inl rfl)
      · rw [Value.greater_int] at hgt
        rw [Value.less_int] at hless
        cases hnum : w.num? with
        | none =>
          rw [hnum] at hless
          cases hless
        | some x =>
          rw [hnum] at hgt hless
          have hbetween := Num.bounded_of_between (Except.ok.inj hgt) (Except.ok.inj hless)
          exact .inr (.inr ⟨x, hnum, hbetween⟩)

end

def Move.turn (kind : Move) : Fin 4 → Turn
  | 0 => kind.frontLeft
  | 1 => kind.frontRight
  | 2 => kind.backLeft
  | 3 => kind.backRight

def Turn.choose (ahead back : Value) : Turn → Value
  | .ahead => ahead
  | .back => back

theorem Turn.choose_of_both {P : Value → Prop} {ahead back : Value} (h : P ahead ∧ P back)
    (t : Turn) : P (t.choose ahead back) := by
  cases t with
  | ahead => exact h.1
  | back => exact h.2

def Order.speeds (m : Motion) (o : Order) : Result (Fin 4 → Value) :=
  match o, o.steered m with
  | _, some computed => do return (← computed).speed
  | .move kind speed, none => do
    let ahead ← m.clampSpeed speed
    let back ← ahead.neg
    return fun i => (kind.turn i).choose ahead back
  | _, none => .ok (WheelSpeeds.speed ⟨0, 0, 0, 0⟩)

section
variable {limit : Int} {v w : Value}

theorem sendable_or_unsendable (h : w.Bounded limit) :
    ∃ back, w.neg = .ok back ∧ (Sendable w ∧ Sendable back ∨ Unsendable w ∧ Unsendable back) := by
  obtain ⟨x, hx, hbd⟩ := h
  have hneg : w.neg = .ok x.neg.toValue := by
    unfold Value.neg
    rw [hx]
  refine ⟨_, hneg, ?_⟩
  cases w with
  | int n =>
    cases hx
    exact .inl ⟨sendable_of_integer? rfl, sendable_of_integer? rfl⟩
  | bool b =>
    cases hx
    exact .inl ⟨sendable_of_integer? rfl, sendable_of_integer? rfl⟩
  | float y =>
    cases hx
    have hy : y.isFinite := (Num.bounded_iff.mp hbd).1
    -- the sign makes no difference to the size
    obtain ⟨hback, hamt⟩ := amount_neg hy
    have hsize : |amount (-y)| = |amount y| := by rw [hamt, abs_neg]
    rcases lt_or_ge 100 |amount y| with hbig | hsmall
    · exact .inl ⟨sendable_of_large hy hbig, sendable_of_large hback (by rwa [hsize])⟩
    · exact .inr ⟨unsendable_of_small hy hsmall,
        unsendable_of_small hback (by rwa [hsize])⟩
  | none | str | list | tuple | dict | range | object => cases hx

theorem exists_bounded_of_within (h : v.within (-limit) limit = .ok w) : ∃ k, w.Bounded k := by
  rcases within_cases h with rfl | rfl | hbd
  · exact ⟨limit.natAbs, Value.bounded_int.mpr ⟨by omega, by omega⟩⟩
  · exact ⟨limit.natAbs, Value.bounded_int.mpr ⟨by omega, by omega⟩⟩
  · exact ⟨limit, hbd⟩

end

theorem wheel_eq (index : Int) {turned : Value} {t : Turn} (h : t.speed speed = .ok turned) :
    wheel index speed t = (do let _ ← setMotor (.int index) turned) := by
  unfold wheel
  rw [h]
  rfl

theorem wheels_eq_commandEach {kind : Move} {speeds : Fin 4 → Value}
    (h : ∀ i, (kind.turn i).speed speed = .ok (speeds i)) :
    (do wheel 1 speed kind.frontLeft
        wheel 2 speed kind.frontRight
        wheel 3 speed kind.backLeft
        wheel 4 speed kind.backRight) = commandEach speeds [0, 1, 2, 3] := by
  have hfst := wheel_eq 1 (h 0)
  have hsnd := wheel_eq 2 (h 1)
  have hthird := wheel_eq 3 (h 2)
  have hfourth := wheel_eq 4 (h 3)
  unfold Move.turn at hfst hsnd hthird hfourth
  rw [hfst, hsnd, hthird, hfourth]
  simp only [bind_assoc, pure_bind]
  rfl

theorem exists_speeds {m : Motion} {ahead : Value} (hclamp : m.clampSpeed speed = .ok ahead)
    (kind : Move) :
    ∃ speeds, (Order.move kind speed).speeds m = .ok speeds ∧
      (∀ i, (kind.turn i).speed ahead = .ok (speeds i)) ∧
      ((∀ i, Sendable (speeds i)) ∨ ∀ i, Unsendable (speeds i)) := by
  obtain ⟨k, hbd⟩ := exists_bounded_of_within hclamp
  obtain ⟨back, hback, hsendable⟩ := sendable_or_unsendable hbd
  refine ⟨fun i => (kind.turn i).choose ahead back, ?_, ?_, ?_⟩
  · simp only [Order.speeds, Order.steered, hclamp, hback, bind, Except.bind]
    rfl
  · intro i
    show (kind.turn i).speed ahead = .ok ((kind.turn i).choose ahead back)
    cases kind.turn i with
    | ahead => rfl
    | back => exact hback
  · exact hsendable.imp (fun h i => Turn.choose_of_both h (kind.turn i))
      fun h i => Turn.choose_of_both h (kind.turn i)

theorem drives_move (m : Motion) (kind : Move) (speed : Value) :
    Drives ((Order.move kind speed).speeds m) (m.move kind speed) := by
  apply Drives.except_bind
  intro ahead hclamp
  obtain ⟨speeds, hspeeds, hturn, hsendable⟩ := exists_speeds hclamp kind
  rw [hspeeds]
  apply Drives.log
  rw [wheels_eq_commandEach hturn]
  rcases hsendable with hsend | hrefused
  · exact drives_of_sendable hsend
  · exact drives_of_unsendable (hrefused 0)

theorem drives_perform (m : Motion) (o : Order) : Drives (o.speeds m) (o.perform m) := by
  cases o with
  | move kind speed => exact drives_move m kind speed
  | stop => exact Drives.log _ (drives_drive ⟨0, 0, 0, 0⟩)
  | atAngle angle speed =>
    apply Drives.except_bind
    intro velocity hvel
    apply Drives.except_bind
    intro shown _
    apply Drives.log
    simp only [Order.speeds, Order.steered, hvel, bind, Except.bind]
    exact (drives_setVelocity {} velocity angle (.int 0)).discard
  | along x y =>
    apply Drives.except_bind
    intro n hn
    apply Drives.except_bind
    intro right hright
    apply Drives.except_bind
    intro k hk
    apply Drives.except_bind
    intro ahead hahead
    apply Drives.log
    apply Drives.discard
    apply Drives.except_bind
    rintro ⟨velocity, direction⟩ hpolar
    simp only [Order.speeds, Order.steered, hn, hright, hk, hahead, hpolar, bind, Except.bind]
    exact drives_setVelocity {} velocity direction (.int 0)

/-! ## The words of programs -/

/-- A word with which programs command the wheels, and the order that it gives. -/
structure Word where
  name : String
  order : List Value → Order

def words : List Word := [
  ⟨"qianjin", fun args => .move .forward (args.getD 0 .none)⟩,
  ⟨"houtui", fun args => .move .backward (args.getD 0 .none)⟩,
  ⟨"zuopingyi", fun args => .move .left (args.getD 0 .none)⟩,
  ⟨"youpingyi", fun args => .move .right (args.getD 0 .none)⟩,
  ⟨"xuanzhuan", fun args => .move .clockwise (args.getD 0 .none)⟩,
  ⟨"fxuanzhuan", fun args => .move .counterClockwise (args.getD 0 .none)⟩,
  ⟨"xiaozuozhuan", fun args => .move .counterClockwise (args.getD 0 .none)⟩,
  ⟨"xiaoyouzhuan", fun args => .move .clockwise (args.getD 0 .none)⟩,
  ⟨"tingzhi", fun _ => .stop⟩,
  ⟨"yidong_angle", fun args => .atAngle (args.getD 0 .none) (args.getD 1 .none)⟩,
  ⟨"yidong_xy", fun args => .along (args.getD 0 .none) (args.getD 1 .none)⟩]

def Word.act (word : Word) (args : List Value) : Op Vehicle Value := do
  let m := (← get).motion
  Vehicle.onRig ((word.order args).perform m)
  return .none

theorem act_of_word {word : Word} (hword : word ∈ words) {c : Command}
    (hc : Command.find? word.name = some c) (args : List Value) : c.act args = word.act args := by
  funext v
  simp only [words, List.mem_cons, List.not_mem_nil, or_false] at hword
  rcases hword with rfl | rfl | rfl | rfl | rfl | rfl | rfl | rfl | rfl | rfl | rfl
  all_goals
    cases hc
    rfl

theorem act_driven (word : Word) (args : List Value) {v : Vehicle}
    (hmot : v.rig.board.motors.length = 4) :
    wp (word.act args)
      (fun _ w => ∃ speeds, (word.order args).speeds v.motion = .ok speeds ∧
        Driven speeds v.rig w.rig)
      (fun _ w => Untouched v.rig w.rig) v := by
  unfold Word.act Vehicle.onRig HasRig.onRig
  simp only [wp_bind, wp_get, wp_onPart, wp_pure]
  exact drives_perform v.motion (word.order args) v.rig hmot

/-- A command to the four wheels, given to the chassis or by a word of a program, is carried out on
all wheels, or fails and leaves all of them and the chassis alone. -/
theorem wheels_all_or_nothing {r : Rig} (hr : r.board.motors.length = 4) :
    (∀ (o : Chassis.Order) (c : Chassis), wp (perform o)
      (fun _ s => if o.isTrial then s = (r, c) else o.Done r c s.1 s.2)
      (fun e s => o.Fails r c e ∧ Untouched r s.1 ∧ s.2 = c) (r, c)) ∧
    ∀ word ∈ words, ∀ c, Command.find? word.name = some c →
      ∀ (positional : List Value) (named : List (String × Value)) (v : Vehicle), v.rig = r →
        wp (c.call positional named)
          (fun _ w => ∃ args speeds, c.signature.bind positional named = .ok args ∧
            (word.order args).speeds v.motion = .ok speeds ∧ Driven speeds r w.rig)
          (fun _ w => Untouched r w.rig) v := by
  refine ⟨fun o c => perform_done o c hr, ?_⟩
  rintro word hword c hc positional named v rfl
  unfold Command.call
  apply wp_except_bind
  · intro args hargs
    rw [act_of_word hword hc]
    apply wp_mono (act_driven word args hr)
    · rintro _ w ⟨speeds, hspeeds, hdriven⟩
      exact ⟨args, speeds, hargs, hspeeds, hdriven⟩
    · intro _ w hw
      exact hw
  · intro _ _
    exact ⟨rfl, rfl⟩

def disturbed (faults : Int) : Rig := { pendingFaults := faults }

/-- One fault does not keep the wheels from their speeds, two faults keep all of them. -/
theorem wheels_all_or_nothing_disturbed :
    (∃ a t c w, perform (.translation (.int 33) (.int 0) false) (disturbed 1, {}) =
        .ok a (t, c) ∧ Driven (WheelSpeeds.speed w) (disturbed 1) t) ∧
      ∃ c e w, Command.find? "qianjin" = some c ∧
        c.call [.int 30] [] { rig := disturbed 2 } = .error e w ∧
        Untouched (disturbed 2) w.rig := by
  constructor
  · have hcompletes : (perform (.translation (.int 33) (.int 0) false)).completes
        (disturbed 1, {}) = true := by
      decide +kernel
    obtain ⟨a, ⟨t, c⟩, h⟩ := Op.exists_result_of_completes hcompletes
    have hdone := (wheels_all_or_nothing (r := disturbed 1) rfl).1
      (.translation (.int 33) (.int 0) false) {}
    rw [Op.wp_of_ok h] at hdone
    have hdone : Chassis.Order.Done _ _ _ _ _ := hdone
    obtain ⟨w, -, hdriven, -⟩ := hdone
    exact ⟨a, t, c, w, h, hdriven⟩
  · obtain ⟨c, hc⟩ : ∃ c, Command.find? "qianjin" = some c := ⟨_, rfl⟩
    have hfails : (c.call [.int 30] []).completes { rig := disturbed 2 } = false := by
      cases hc
      decide +kernel
    obtain ⟨e, w, h⟩ := Op.exists_error_of_not_completes hfails
    have hword : words[0] ∈ words := List.getElem_mem _
    have huntouched := (wheels_all_or_nothing (r := disturbed 2) rfl).2 words[0] hword c hc
      [.int 30] [] { rig := disturbed 2 } rfl
    rw [Op.wp_of_error h] at huntouched
    exact ⟨c, e, w, hc, h, huntouched⟩

end Motion

end Rover
