import Rover.Proofs.Op
import Rover.Rig.Bus
import Rover.Rig.Camera

/-!
# Reasoning about the hardware

What the single operations of the hardware do to it, and what holds of hardware that works: no
transfer fails, nothing is cut short, and the board keeps its records.
-/

namespace Rover.Rig

variable {seconds : Float}

section
variable {Q : PUnit → Rig → Prop} {E : Exit → Rig → Prop} {r : Rig} {bytes : List Nat}

@[simp] theorem wp_emit (e : Event) :
    wp (emit e) Q E r ↔ Q ⟨⟩ { r with events := r.events.push e } := Iff.rfl

@[simp] theorem wp_info (text : String) :
    wp (info text) Q E r ↔ Q ⟨⟩ { r with log := r.log.push ⟨.info, text⟩ } := Iff.rfl

@[simp] theorem wp_warn (text : String) :
    wp (warn text) Q E r ↔ Q ⟨⟩ { r with log := r.log.push ⟨.warning, text⟩ } := Iff.rfl

@[simp] theorem wp_error (text : String) :
    wp (error text) Q E r ↔ Q ⟨⟩ { r with log := r.log.push ⟨.error, text⟩ } := Iff.rfl

@[simp] theorem wp_now {Q : Float → Rig → Prop} : wp now Q E r ↔ Q r.clock r := Iff.rfl

theorem wp_meetFault (h : r.pendingFaults ≤ 0) : wp meetFault Q E r ↔ Q ⟨⟩ r := by
  unfold meetFault
  rw [wp_bind, wp_get, wp_ite, if_neg (by omega), wp_pure]

theorem wp_writeFrame (h : r.pendingFaults ≤ 0) (address : Nat) (values : List Value) :
    wp (writeFrame address values) Q E r ↔ match bytesOf values with
      | .ok bytes => Q ⟨⟩ { r with events := r.events.push (.frame address bytes) }
      | .error f => E (.fault f) r := by
  unfold writeFrame
  rw [wp_bind, liftM_except, wp_ofExcept]
  cases bytesOf values with
  | error f => rfl
  | ok bytes => exact (wp_bind ..).trans (wp_meetFault h)

theorem wp_sleep (hsleeps : r.sleepsLeft = none) (hdue : r.deadline = none) (t : Value) :
    wp (sleep t) Q E r ↔ match sleepLength t with
      | .ok seconds => Q ⟨⟩ { r with
          clock := r.clock + seconds, sleeps := r.sleeps + 1, events := r.events.push (.slept t) }
      | .error f => E (.fault f) r := by
  unfold sleep
  cases sleepLength t with
  | error f => rfl
  | ok seconds => simp [hsleeps, hdue]

theorem wp_twice {α : Type} {Q : α → Rig → Prop} {transfer : Op Rig α}
    (h : wp transfer Q never r) : wp (twice transfer) Q E r := by
  unfold twice
  rw [wp_guarded]
  exact wp_mono h (fun _ _ hq => hq) fun _ _ hfalse => hfalse.elim

theorem byteOf_int {n : Int} (h : 0 ≤ n ∧ n < 256) : byteOf (.int n) = .ok n.toNat := by
  have hidx : Value.toIndex (.int n) = .ok n := rfl
  unfold byteOf
  simp only [hidx, bind, Except.bind]
  rw [if_pos h]
  rfl

theorem bytesOf_int (ns : List Int) (h : ∀ n ∈ ns, 0 ≤ n ∧ n < 256) :
    bytesOf (ns.map Value.int) = .ok (ns.map Int.toNat) := by
  induction ns with
  | nil => rfl
  | cons n rest ih =>
    rw [List.forall_mem_cons] at h
    simp only [List.map_cons, bytesOf, byteOf_int h.1, ih h.2]
    rfl

theorem integer?_of_byteOf {v : Value} {b : Nat} (h : byteOf v = .ok b) :
    v.integer? = some (b : Int) := by
  unfold byteOf Value.toIndex at h
  cases hv : v.integer? with
  | none =>
    rw [hv] at h
    cases h
  | some n =>
    rw [hv] at h
    change (if 0 ≤ n ∧ n < 256 then (Except.ok n.toNat : Result Nat) else _) = _ at h
    split at h
    · cases h
      rw [Int.toNat_of_nonneg (by omega)]
    · cases h

theorem bytesOf_cons_eq_ok {v : Value} {rest : List Value} (h : bytesOf (v :: rest) = .ok bytes) :
    ∃ b others, bytes = b :: others ∧ byteOf v = .ok b ∧ bytesOf rest = .ok others := by
  unfold bytesOf at h
  cases hbyte : byteOf v with
  | error f =>
    rw [hbyte] at h
    cases h
  | ok b =>
    cases hrest : bytesOf rest with
    | error f =>
      rw [hbyte, hrest] at h
      cases h
    | ok others =>
      rw [hbyte, hrest] at h
      cases h
      exact ⟨b, others, rfl, rfl, rfl⟩

theorem length_of_bytesOf {values : List Value}
    (h : bytesOf values = .ok bytes) : bytes.length = values.length := by
  induction values generalizing bytes with
  | nil =>
    cases h
    rfl
  | cons v rest ih =>
    obtain ⟨b, others, rfl, -, hrest⟩ := bytesOf_cons_eq_ok h
    rw [List.length_cons, List.length_cons, ih hrest]

theorem integer?_of_mem {values : List Value} (h : bytesOf values = .ok bytes) :
    ∀ v ∈ values, ∃ b : Nat, v.integer? = some (b : Int) := by
  induction values generalizing bytes with
  | nil => simp
  | cons v rest ih =>
    obtain ⟨b, others, -, hbyte, hrest⟩ := bytesOf_cons_eq_ok h
    rw [List.forall_mem_cons]
    exact ⟨⟨b, integer?_of_byteOf hbyte⟩, ih hrest⟩

end

/-- Hardware on which nothing fails and nothing is cut short; `P` is said of the motors. -/
structure Working (P : List Value → Prop) (r : Rig) : Prop where
  faults : r.pendingFaults ≤ 0
  sleepsLeft : r.sleepsLeft = none
  deadline : r.deadline = none
  motors : P r.board.motors
  angles : r.board.angles.length = 6
  pulses : r.board.pulses.length = 6

def FourMotors (motors : List Value) : Prop := motors.length = 4

section
variable {P : List Value → Prop}

theorem Working.mono {P' : List Value → Prop} {r : Rig} (hr : Working P r)
    (h : ∀ motors, P motors → P' motors) : Working P' r :=
  { hr with motors := h _ hr.motors }

theorem sleepLength_float {x : Float} (hnan : x.isNaN = false) (hneg : ¬ x < 0) :
    sleepLength (.float x) = .ok x := by
  have hnum : (Value.float x).num? = some (.float x) := rfl
  have hfloat : (Num.float x).toFloat = .ok x := rfl
  unfold sleepLength
  simp only [hnum, hfloat, bind, Except.bind, hnan, hneg]
  rfl

theorem sleep_completes {r : Rig} (hr : Working P r) {x : Float} (hnan : x.isNaN = false)
    (hneg : ¬ x < 0) : wp (sleep (.float x)) (fun _ q => Working P q) never r := by
  rw [wp_sleep hr.sleepsLeft hr.deadline, sleepLength_float hnan hneg]
  exact { hr with }

/-- A property that survives events, sleeps and what becomes of a transfer. -/
class Enduring (I : Rig → Prop) : Prop where
  emit : ∀ e, Uncut I (emit e)
  sleep : ∀ t, Uncut I (sleep t)
  meetFault : Uncut I meetFault

instance : Enduring (Working P) where
  emit _ := fun _ hr => { hr with }
  sleep t := by
    intro r hr
    rw [wp_sleep hr.sleepsLeft hr.deadline]
    split
    · exact { hr with }
    · exact ⟨nofun, hr⟩
  meetFault := by
    intro r hr
    rw [wp_meetFault hr.faults]
    exact hr

instance {α : Type} {base : (α : Type) → Op Rig α → Prop} {op : Op Rig α} [h : Composed base op] :
    Composed base (twice op) := .guarded h fun _ => h

section
variable {cut : Prop} {I : Rig → Prop} [hI : Enduring I]

instance (e : Event) : Safe cut I (emit e) := (hI.emit e).safe

instance (t : Value) : Safe cut I (sleep t) := (hI.sleep t).safe

instance (address : Nat) (values : List Value) : Safe cut I (writeFrame address values) :=
  .except fun _ => .bind hI.meetFault.safe inferInstance

instance (address : Nat) (register value : Value) :
    Safe cut I (writeRegister address register value) := .bind hI.meetFault.safe inferInstance

instance (index : Int) : Safe cut I (openCamera index) := by
  unfold openCamera
  infer_instance

instance (index : Int) : Safe cut I (releaseCamera index) := by
  unfold releaseCamera
  infer_instance

end

end

variable (r : Rig)

def failed : Rig :=
  { r with pendingFaults := r.pendingFaults - 1, events := r.events.push .failed }

def isFailure : Event → Bool
  | .failed => true
  | _ => false

def delivered : List Event := r.events.toList.filter fun e => !isFailure e

theorem delivered_failed : r.failed.delivered = r.delivered := by
  unfold delivered failed
  rw [Array.toList_push, List.filter_append]
  exact List.append_nil _

variable (effect : Rig → Rig)

def transfer : Op Rig Unit := do
  meetFault
  modify effect

theorem meetFault_apply :
    meetFault r = if 0 < r.pendingFaults then .error (.fault .bus) r.failed else .ok ⟨⟩ r := by
  change (if 0 < r.pendingFaults then _ else pure () : Op Rig Unit) r = _
  split
  · rfl
  · rfl

theorem transfer_apply (r : Rig) :
    transfer effect r =
      if 0 < r.pendingFaults then .error (.fault .bus) r.failed else .ok ⟨⟩ (effect r) := by
  change EStateM.bind meetFault (fun _ => modify effect) r = _
  unfold EStateM.bind
  rw [meetFault_apply]
  by_cases hfault : 0 < r.pendingFaults
  · simp only [if_pos hfault]
  · simp only [if_neg hfault]
    rfl

variable {E : Exit → Rig → Prop} {r : Rig} {Q : PUnit → Rig → Prop}

theorem wp_meetFault_iff :
    wp meetFault Q E r ↔ if 0 < r.pendingFaults then E (.fault .bus) r.failed else Q ⟨⟩ r := by
  unfold wp
  rw [meetFault_apply]
  by_cases hfault : 0 < r.pendingFaults
  · simp only [if_pos hfault]
  · simp only [if_neg hfault]

theorem twice_transfer (r : Rig) :
    twice (transfer effect) r =
      if r.pendingFaults ≤ 0 then .ok ⟨⟩ (effect r)
      else if r.pendingFaults = 1 then .ok ⟨⟩ (effect r.failed)
      else .error (.fault .bus) r.failed.failed := by
  have hfail : r.failed.pendingFaults = r.pendingFaults - 1 := rfl
  unfold twice Op.guarded
  rw [transfer_apply]
  by_cases hnone : r.pendingFaults ≤ 0
  · rw [if_neg (by omega), if_pos hnone]
  · rw [if_pos (by omega), if_neg hnone]
    simp only
    rw [transfer_apply]
    by_cases h1 : r.pendingFaults = 1
    · rw [if_neg (by omega), if_pos h1]
    · rw [if_pos (by omega), if_neg h1]

variable {I : Rig → Prop}

theorem twice_congr {α : Type} {op op' : Op Rig α} (hkeeps : Keeps I op')
    (h : ∀ r, I r → op r = op' r) (hr : I r) : twice op r = twice op' r := by
  have hafter := hkeeps.wp hr
  unfold twice Op.guarded
  unfold wp at hafter
  rw [h r hr]
  cases hout : op' r with
  | ok a t => rfl
  | error e t =>
    rw [hout] at hafter
    cases e with
    | fault f => exact h t hafter
    | ended => rfl

theorem keeps_meetFault (hfail : ∀ r, I r → I r.failed) : Keeps I meetFault := by
  rw [keeps_iff_wp]
  intro r hr
  rw [wp_meetFault_iff]
  split
  · exact hfail r hr
  · exact hr

theorem keeps_transfer {effect : Rig → Rig} (hfail : ∀ r, I r → I r.failed)
    (heffect : ∀ r, I r → I (effect r)) : Keeps I (transfer effect) :=
  .bind (keeps_meetFault hfail) fun _ => .modify heffect

/-- One effect on the hardware, tried twice. -/
def order (answer : Value) : Op Rig Value := do
  twice (transfer effect)
  return answer

theorem wp_order {effect : Rig → Rig} {answer : Value} {Q : Value → Rig → Prop} :
    wp (order effect answer) Q E r ↔
      if r.pendingFaults ≤ 0 then Q answer (effect r)
      else if r.pendingFaults = 1 then Q answer (effect r.failed)
      else E (.fault .bus) r.failed.failed := by
  unfold order
  rw [wp_bind, wp, twice_transfer]
  by_cases hnone : r.pendingFaults ≤ 0
  · rw [if_pos hnone, if_pos hnone]
    rfl
  · rw [if_neg hnone, if_neg hnone]
    by_cases h1 : r.pendingFaults = 1
    · rw [if_pos h1, if_pos h1]
      rfl
    · rw [if_neg h1, if_neg h1]

theorem order_congr {op : Op Rig Unit} (effect : Rig → Rig) (answer : Value)
    (hfail : ∀ r, I r → I r.failed) (heffect : ∀ r, I r → I (effect r))
    (h : ∀ r, I r → op r = transfer effect r) (hr : I r) :
    (do twice op; return answer : Op Rig Value) r = order effect answer r := by
  have htwice := twice_congr (keeps_transfer hfail heffect) h hr
  change EStateM.bind (twice _) _ r = EStateM.bind (twice _) _ r
  unfold EStateM.bind
  rw [htwice]

def slept (t : Value) (wake : Float) (left : Option Nat) : Rig :=
  { r with
    clock := wake, sleeps := r.sleeps + 1, sleepsLeft := left, events := r.events.push (.slept t) }

def frozen (limit : Float) : Rig :=
  { r with clock := limit, events := r.events.push .frozen }

def awake (t : Value) (now : Float) : Op Rig PUnit := do
  emit (.slept t)
  modify fun s => { s with clock := now, sleeps := s.sleeps + 1 }
  match (← get).sleepsLeft with
  | some n =>
    modify fun r => { r with sleepsLeft := some (n - 1) }
    if n ≤ 1 then Op.cutShort
  | Option.none => pure ()

section
variable {I : Rig → Prop} {t : Value}
  (hslept : ∀ r seconds left, I r → sleepLength t = .ok seconds →
    (∀ limit, r.deadline = some limit → ¬ limit < r.clock + seconds) →
    (r.sleepsLeft = none → left = none) → I (r.slept t (r.clock + seconds) left))
include hslept

theorem awake_keeps {r : Rig} (hr : I r) (hlen : sleepLength t = .ok seconds)
    (hdue : ∀ limit, r.deadline = some limit → ¬ limit < r.clock + seconds) :
    wp (awake t (r.clock + seconds)) (fun _ q => I q) (fun _ q => I q) r := by
  simp only [awake, wp_bind, wp_get, wp_emit, wp_modify]
  cases hleft : r.sleepsLeft with
  | none => exact hslept r seconds none hr hlen hdue fun _ => rfl
  | some n =>
    have hnext := hslept r seconds (some (n - 1)) hr hlen hdue (by simp [hleft])
    simp only [wp_bind, wp_modify]
    split <;> exact hnext

/-- What holds after a sleep to its end, and after one that the deadline ends, holds after any. -/
theorem keeps_sleep_of (hfrozen : ∀ r limit, I r → r.deadline = some limit → I (r.frozen limit)) :
    Keeps I (sleep t) := by
  rw [keeps_iff_wp]
  intro r hr
  refine wp_except_bind (fun seconds hsec => ?_) fun _ _ => hr
  rw [wp_bind, wp_get, wp_bind, wp_get]
  cases hdue : r.deadline with
  | none => exact awake_keeps hslept hr hsec (by simp [hdue])
  | some limit =>
    by_cases hlim : limit < r.clock + seconds
    · simp only [hlim, if_true]
      exact hfrozen r limit hr hdue
    · simp only [hlim]
      exact awake_keeps hslept hr hsec (by simp [hdue, hlim])

end

structure Unlimited (r : Rig) : Prop where
  deadline : r.deadline = none
  sleepsLeft : r.sleepsLeft = none

/-- Where no sleep is cut short, the clock, the events and the faults to come may change. -/
theorem enduring_of_unlimited (hlim : ∀ r, I r → Unlimited r)
    (h : ∀ r clock sleeps events faults, I r → I { r with
      clock, sleeps, events, pendingFaults := faults }) : Enduring I where
  emit _ := fun r hr => h r _ _ _ _ hr
  sleep t := by
    intro r hr
    rw [wp_sleep (hlim r hr).sleepsLeft (hlim r hr).deadline]
    cases sleepLength t with
    | error f => exact ⟨nofun, hr⟩
    | ok seconds => exact h r _ _ _ _ hr
  meetFault := by
    intro r hr
    rw [wp_meetFault_iff]
    split
    · exact ⟨nofun, h r _ _ _ _ hr⟩
    · exact hr

theorem wp_sleep_of_unlimited (hr : r.Unlimited) {t : Value}
    (hsec : sleepLength t = .ok seconds) :
    wp (sleep t) Q E r ↔ Q ⟨⟩ { r with
      clock := r.clock + seconds, sleeps := r.sleeps + 1, events := r.events.push (.slept t) } := by
  rw [wp_sleep hr.sleepsLeft hr.deadline, hsec]

theorem not_lt_of_sleepLength {t : Value} (h : sleepLength t = .ok seconds) :
    seconds.isNaN = false ∧ ¬ seconds < 0 := by
  unfold sleepLength at h
  cases hnum : t.num? with
  | none =>
    rw [hnum] at h
    cases h
  | some x =>
    rw [hnum] at h
    cases hfloat : x.toFloat with
    | error f =>
      simp only [hfloat, bind, Except.bind] at h
      cases h
    | ok y =>
      simp only [hfloat, bind, Except.bind] at h
      split at h
      · cases h
      · rename_i hnan
        split at h
        · cases h
        · rename_i hneg
          cases h
          exact ⟨by simpa using hnan, hneg⟩

end Rover.Rig

namespace Rover

export Rig (Enduring FourMotors Unlimited Working sleep_completes wp_emit wp_info wp_warn
  wp_writeFrame)

end Rover
