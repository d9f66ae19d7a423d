import Rover.Proofs.Executor.Run
import Rover.Proofs.Link.Sending
import Rover.Proofs.Bounded

/-!
# The clock while a program runs

A program can sleep as long as it likes, but not beyond its deadline, so with a time limit the clock
shows a time whenever the program has ended. A program sends nothing to the cloud.
-/

namespace Rover

namespace Rig

/-! ## What the devices leave alone -/

/-- Properties that depend neither on the devices nor on the log, and of what was done only on what
was sent to the cloud. -/
class Aloof (I : Rig → Prop) : Prop where
  devices : ∀ (r : Rig) board sonar line battery log, I r →
    I { r with board, sonar, line, battery, log }
  recorded : ∀ (r : Rig) (e : Event), e.sentText? = none → I r →
    I { r with events := r.events.push e }
  failed : ∀ r : Rig, I r → I r.failed

namespace Aloof

variable {I : Rig → Prop} [hI : Aloof I]

theorem keeps_emit {e : Event} (he : e.sentText? = none) : Keeps I (emit e) :=
  .modify fun r hr => hI.recorded r e he hr

instance : Safe True I meetFault := .base (keeps_meetFault hI.failed)

instance (address : Nat) (values : List Value) : Safe True I (writeFrame address values) :=
  .except fun _ => .bind inferInstance fun _ => .base (keeps_emit rfl)

instance {r : Rig} {board sonar line battery log} :
    Leads (I r) (I { r with board, sonar, line, battery, log }) := ⟨hI.devices _ _ _ _ _ _⟩

set_option synthInstance.maxSize 1000000000 in
instance [∀ t, Safe True I (sleep t)] : Hardy I := by
  refine ⟨fun α op h => ?_⟩
  cases h with
  | sleep => exact .of_parts
  | _ =>
    dsimp only [note, Board.setMotor, Board.setServoAngle, Board.recordServo, Sonar.getDistance,
      readSonar, Board.getBattery, readBattery, readLine]
    exact .of_parts

end Aloof

/-! ## Time -/

structure Sound (r : Rig) : Prop where
  clock : r.clock.isFinite
  faults : r.pendingFaults ≤ 0

/-- While a program with a deadline runs: what was sent before is all that has been sent. -/
structure Timely (limit : Float) (texts : List String) (r : Rig) : Prop extends Sound r where
  deadline : r.deadline = some limit
  sent : r.sent = texts

variable {limit : Float} {texts : List String}

instance : Aloof (Timely limit texts) where
  devices _ _ _ _ _ _ h := { h with }
  recorded r e he h := { h with sent := (r.sent_push_of_none he).trans h.sent }
  failed r h := by
    refine ⟨⟨h.clock, ?_⟩, h.deadline, r.sent_failed.trans h.sent⟩
    have hfaults := h.faults
    change r.pendingFaults - 1 ≤ 0
    omega

theorem keeps_timely_sleep (hlim : limit.isFinite) (t : Value) :
    Keeps (Timely limit texts) (sleep t) := by
  refine keeps_sleep_of (fun r seconds _ hr hlen hbefore _ => ?_) fun r _ hr hdue => ?_
  · obtain ⟨hnan, hneg⟩ := not_lt_of_sleepLength hlen
    have hwake := (upward_add hr.clock hnan hneg).isFinite hlim (hbefore limit hr.deadline)
    exact ⟨⟨hwake, hr.faults⟩, hr.deadline, (r.sent_push_of_none (e := .slept t) rfl).trans hr.sent⟩
  · obtain rfl : limit = _ := Option.some.inj (hr.deadline.symm.trans hdue)
    exact ⟨⟨hlim, hr.faults⟩, hr.deadline, (r.sent_push_of_none (e := .frozen) rfl).trans hr.sent⟩

/-! ## Limits -/

def Unnumbered (r : Rig) : Prop := r.sleepsLeft = none

instance : Aloof Unnumbered := ⟨fun _ _ _ _ _ _ h => h, fun _ _ _ h => h, fun _ h => h⟩

instance (t : Value) : Safe True Unnumbered (sleep t) :=
  .base (keeps_sleep_of (fun _ _ _ hr _ _ hleft => hleft hr) fun _ _ hr _ => hr)

instance : Aloof Unlimited :=
  ⟨fun _ _ _ _ _ _ h => { h with }, fun _ _ _ h => { h with }, fun _ h => { h with }⟩

instance (t : Value) : Safe True Unlimited (sleep t) := by
  refine .base (keeps_iff_wp.mpr fun r hr => ?_)
  rw [wp_sleep hr.sleepsLeft hr.deadline]
  split
  · exact { hr with }
  · exact hr

/-! ## What is sent -/

variable (texts : List String)

def Sent (r : Rig) : Prop := r.sent = texts

instance : Aloof (Sent texts) where
  devices _ _ _ _ _ _ h := h
  recorded r _ he h := (r.sent_push_of_none he).trans h
  failed r h := r.sent_failed.trans h

instance (t : Value) : Safe True (Sent texts) (sleep t) :=
  .base (keeps_sleep_of (fun r _ _ h _ _ _ => (r.sent_push_of_none (e := .slept t) rfl).trans h)
    fun r _ h _ => (r.sent_push_of_none (e := .frozen) rfl).trans h)

end Rig

namespace Runner

theorem keeps_unlimited_start (code processId timeout : Value) :
    Keeps (Holds Unlimited) (start undisturbed code processId timeout) :=
  keeps_start_of (I := Rig.Unnumbered) (fun _ _ h => h.sleepsLeft) (fun _ h => ⟨rfl, h⟩) (fun _ => none) code processId timeout

/-! ## Deadlines -/

theorem exists_deadlineAt {clock : Float} (hclock : clock.isFinite) {most : Int}
    (hhi : most ≤ 9223372036) {limit : Value} (hlim : limit.Seconds most) :
    ∃ d, deadlineAt clock limit = .ok (some d) ∧ d.isFinite := by
  obtain ⟨x, y, hx, hy, hfin, hsmall⟩ := hlim.toFloat (by omega)
  have hless : x.less (.float waitLimit) := by
    obtain ⟨⟨_, hx', hbd⟩, -⟩ := hlim
    cases hx.symm.trans hx'
    obtain ⟨hxfin, hle⟩ := Num.bounded_iff.mp hbd
    have hlimit : amount waitLimit = 4835703278458517 / 524288 := by decide +kernel
    have hmost : (most : ℚ) ≤ 9223372036 := by exact_mod_cast hhi
    rw [Num.less_eq_amount (b := .float waitLimit) hxfin rfl, decide_eq_true_iff]
    change _ < amount waitLimit
    rw [hlimit]
    linarith [le_abs_self x.amount]
  refine ⟨clock + y, ?_, (isRounded_add_of_small hclock hfin hsmall).isFinite⟩
  rw [deadlineAt_of_num clock hx]
  unfold waitTime
  rw [if_pos hless, hy]
  rfl

theorem Runs.sound {code timeout : Value} {r r' : Runner} {ending : Ending}
    (h : Runs undisturbed code timeout r ending r') (hr : r.vehicle.rig.Sound) {most : Int}
    (hhi : most ≤ 9223372036)
    (hlim : (limitFor timeout r.executor.timeout).Seconds most) :
    r'.vehicle.rig.Sound ∧ r'.vehicle.rig.sent = r.vehicle.rig.sent := by
  obtain ⟨-, hdue, hrun⟩ := h
  obtain ⟨d, hd, hfin⟩ := exists_deadlineAt hr.clock hhi hlim
  cases hd.symm.trans hdue
  have hrun' : runUntil (asking fun _ => none) _ (some d) r.occupied = .ok ending r' := hrun
  have (t : Value) : Safe True (Rig.Timely d r.vehicle.rig.sent) (Rig.sleep t) :=
    .base (Rig.keeps_timely_sleep hfin t)
  obtain ⟨s, hs, rfl⟩ := runUntil_keeps hrun' rfl
    (show Rig.Timely d r.vehicle.rig.sent _ from ⟨⟨hr.clock, hr.faults⟩, rfl, rfl⟩)
  exact ⟨⟨hs.clock, hs.faults⟩, hs.sent⟩

end Runner

end Rover
