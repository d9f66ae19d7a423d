import Rover.Proofs.Board.Coherence
import Rover.Proofs.Chronicle
import Rover.Remote.Methods

/-!
# A single fault on the bus

A transfer to the board that fails is made once more. So a single fault leaves one failed transfer
among the events and no other trace: what is returned or complained of, the frames and the records
are those of a bus without faults.
-/

namespace Rover

open Rig Board HasRig Command

open Rig (Apart Persistent)

namespace Chronicle

def Pending (calm struck : Chronicle) : Prop :=
  calm.faults = 0 ∧ struck = { calm with faults := 1 }

def Met (calm struck : Chronicle) : Prop :=
  calm.faults = 0 ∧ ∃ before later, calm.events.toList = before ++ later ∧
    struck = { calm with events := (before ++ .failed :: later).toArray }

def Struck (calm struck : Chronicle) : Prop := Pending calm struck ∨ Met calm struck

instance fair_met : Fair Met := by
  refine { noted := ?_, happened := ?_, faults := ?_, failed := ?_ }
  · rintro a b entry ⟨hfaults, before, later, hev, rfl⟩
    exact ⟨hfaults, before, later, hev, rfl⟩
  · rintro a b e ⟨hfaults, before, later, hev, rfl⟩
    refine ⟨hfaults, before, later ++ [e], ?_, ?_⟩
    · simp [happened, hev]
    · simp [happened]
  · rintro a b ⟨hfaults, before, later, hev, rfl⟩
    rfl
  · rintro a b ⟨hfaults, -⟩ hpos
    omega

instance : Steady Struck := by
  constructor
  · rintro a b entry (⟨hfaults, rfl⟩ | hmet)
    · exact .inl ⟨hfaults, rfl⟩
    · exact .inr (fair_met.noted a b entry hmet)
  · rintro a b e (⟨hfaults, rfl⟩ | hmet)
    · exact .inl ⟨hfaults, rfl⟩
    · exact .inr (fair_met.happened a b e hmet)

theorem Pending.met {a b : Chronicle} (h : Pending a b) : Met a b.failed := by
  obtain ⟨hfaults, rfl⟩ := h
  refine ⟨hfaults, a.events.toList, [], (List.append_nil _).symm, ?_⟩
  have hev : (a.events.toList ++ [Event.failed]).toArray = a.events.push .failed := by
    rw [← Array.toList_push, Array.toArray_toList]
  rw [hev]
  simp [failed, hfaults]

end Chronicle

open Chronicle (Met Struck fair_met)

namespace Rig

structure Kept (r : Rig) : Prop where
  motors : r.board.motors.length = 4
  angles : r.board.angles.length = 6
  pulses : r.board.pulses.length = 6

theorem Kept.failed {r : Rig} (h : r.Kept) : r.failed.Kept := { h with }

def Shaken (r t : Rig) : Prop := Apart Struck r t ∧ r.Kept

theorem Kept.keeps_meetFault : Keeps Kept meetFault := Rig.keeps_meetFault fun _ h => h.failed

theorem Kept.keeps_writeFrame (address : Nat) (values : List Value) :
    Keeps Kept (writeFrame address values) :=
  .except fun _ => .bind Kept.keeps_meetFault fun _ => .modify fun _ h => { h with }

theorem Kept.keeps_sleep (t : Value) : Keeps Kept (sleep t) :=
  keeps_sleep_of (fun _ _ _ h _ _ _ => { h with }) fun _ _ h _ => { h with }

section
variable {α : Type}

/-- A transfer that fails on a fault before it does anything, and on nothing else. -/
structure Firm (attempt : Op Rig α) : Prop where
  meets : ∀ r : Rig, 0 < r.pendingFaults → attempt r = .error (.fault .bus) r.failed
  completes : ∀ r : Rig, r.Kept → r.pendingFaults = 0 → wp attempt (fun _ _ => True) never r
  alike : Alike (Apart Met) attempt
  keeps : Keeps Kept attempt

theorem alike_of_met {op : Op Rig α} (halike : Alike (Apart Met) op) (hkeeps : Keeps Kept op)
    {r t : Rig} (h : Apart Met r t) (hr : r.Kept) : SameOutcome Shaken (op r) (op t) := by
  refine (halike.and_keeps hkeeps r t ⟨h, hr⟩).mono ?_
  rintro r' t' ⟨⟨c, rfl, hc⟩, hr'⟩
  exact ⟨⟨c, rfl, .inr hc⟩, hr'⟩

theorem Firm.alike_twice {attempt : Op Rig α} (h : Firm attempt) :
    Alike Shaken (twice attempt) := by
  rintro r t ⟨⟨c, rfl, hc⟩, hr⟩
  rcases hc with hpend | hmet
  · obtain ⟨hfaults, rfl⟩ := hpend
    obtain ⟨a, r', hres, -⟩ := wp_false_iff.mp (h.completes r hr hfaults)
    have hmet := Chronicle.Pending.met ⟨hfaults, rfl⟩
    have hsnd := alike_of_met h.alike h.keeps ⟨_, rfl, hmet⟩ hr
    rw [hres] at hsnd
    unfold twice Op.guarded
    rw [hres, h.meets _ (show (0 : Int) < 1 by decide)]
    exact hsnd
  · exact alike_of_met (.guarded h.alike fun _ => h.alike) (.guarded h.keeps fun _ => h.keeps)
      ⟨c, rfl, hmet⟩ hr

theorem alike_twice_writeFrame {address : Nat} {values : List Value} {rest : Op Rig α}
    (hdone : ∀ bytes, bytesOf values = .ok bytes → ∀ r : Rig, r.Kept → r.pendingFaults = 0 →
      wp rest (fun _ _ => True) never r)
    (halike : Alike (Apart Met) rest) (hkeeps : Keeps Kept rest) : Alike Shaken (twice do
      writeFrame address values
      rest) := by
  cases hbytes : bytesOf values with
  | error f =>
    -- what is not a byte is found before the bus is used, by both attempts
    have hfail : (do
        writeFrame address values
        rest) = Op.fail f := by
      unfold writeFrame
      rw [hbytes]
      rfl
    rw [hfail]
    exact .fail f
  | ok bytes =>
    apply Firm.alike_twice
    constructor
    · intro r hr
      have hmeets : meetFault r = .error (.fault .bus) r.failed := by
        rw [meetFault_apply, if_pos hr]
      refine (wp_outcome_iff (R := (· = EStateM.Result.error (.fault .bus) r.failed))).mp ?_
      unfold writeFrame
      simp only [wp_bind, liftM_except, wp_ofExcept, hbytes, wp_of_error hmeets]
    · intro r hr hfaults
      rw [wp_bind, wp_writeFrame (by omega), hbytes]
      exact hdone bytes hbytes _ { hr with } hfaults
    · exact .bind .of_parts fun _ => halike
    · exact .bind (Kept.keeps_writeFrame _ _) fun _ => hkeeps

end

end Rig

open Rig (Kept Shaken)

namespace Board

theorem alike_setMotor_shaken (index speed : Value) : Alike Shaken (setMotor index speed) := by
  rcases setMotor_cases index speed with ⟨f, hfail⟩ | ⟨o, -, -, hgive⟩
  · rw [hfail]
    exact .fail f
  · have hfirm : Rig.Firm (transfer o.deliver) := by
      constructor
      · intro r hr
        rw [transfer_apply, if_pos hr]
      · intro r _ hfaults
        rw [wp_of_ok ((transfer_apply o.deliver r).trans (if_neg (by omega)))]
        trivial
      · refine .bind .of_parts fun _ => .modify ?_
        rintro r t ⟨c, rfl, hc⟩
        exact ⟨c.happened o.frame, rfl, fair_met.happened _ _ _ hc⟩
      · exact keeps_transfer (fun _ h => h.failed) fun _ h =>
          { h with motors := fourMotors_deliver h.motors }
    have hgiven : Alike Shaken o.give := .map hfirm.alike_twice
    rintro r t ⟨⟨c, rfl, hc⟩, hr⟩
    rw [hgive r hr.motors, hgive (r.withChronicle c) hr.motors]
    exact hgiven _ _ ⟨⟨c, rfl, hc⟩, hr⟩

instance : Recordable Kept := ⟨fun _ _ _ hr hangles hpulses =>
  { hr with angles := hangles.trans hr.angles, pulses := hpulses.trans hr.pulses }⟩

theorem recordServo_completes_of_kept {r : Rig} (hr : r.Kept) (i : Fin 6) (angle pulse : Value) :
    wp (recordServo (.int i) angle pulse) (fun _ _ => True) never r := by
  have hangles : (i : Nat) < r.board.angles.length := by rw [hr.angles]; exact i.isLt
  have hpulses : (i : Nat) < r.board.pulses.length := by rw [hr.pulses]; exact i.isLt
  rw [wp_of_ok (recordServo_apply hangles hpulses angle pulse)]
  trivial

theorem ServoWrite.alike_give (o : ServoWrite) : Alike Shaken o.give :=
  .map (alike_twice_writeFrame
    (fun _ _ _ hr _ => recordServo_completes_of_kept hr o.servo o.angle o.pulse)
    .of_parts (preserves_recordServo _ _ _))

theorem alike_setServoAngle_shaken (index angle : Value) :
    Alike Shaken (setServoAngle index angle) := by
  rcases setServoAngle_cases index angle with ⟨f, hfail⟩ | ⟨o, -, hgive⟩
  · rw [hfail]
    exact .fail f
  · rw [hgive]
    exact o.alike_give

theorem alike_setServoPulse_shaken (index pulse time : Value) :
    Alike Shaken (setServoPulse index pulse time) := by
  rcases setServoPulse_cases index pulse time with ⟨f, hfail⟩ | ⟨o, hgive⟩
  · rw [hfail]
    exact .fail f
  · rw [hgive]
    exact o.alike_give

set_option synthInstance.maxSize 1000000000 in
theorem alike_encodeServos {C : Chronicle → Chronicle → Prop} (commands : Entries) :
    Alike (Apart C) (encodeServos commands) := by
  induction commands with
  | nil => exact .pure _
  | cons command rest ih =>
    have hrest : Even (Apart C) (encodeServos rest) := .base ih
    unfold encodeServos
    exact .of_parts

theorem alike_setServosPulse (args : Value) : Alike Shaken (setServosPulse args) := by
  have hencode : ∀ commands, Alike Shaken (encodeServos commands) := fun commands =>
    (alike_encodeServos commands).and_keeps .of_parts
  have hsend : ∀ values, Alike Shaken (twice (writeFrame boardAddress values)) := by
    intro values
    rw [← bind_pure_unit (x := writeFrame boardAddress values)]
    exact alike_twice_writeFrame (fun _ _ _ _ _ => (wp_pure _).mpr trivial) (.pure _) (.pure _)
  have hlist : ∀ items : List Value, Alike Shaken (do
      let time ← args.subscript (.int 0)
      let time ← atMost 30000 (← atLeast 0 time)
      let count ← args.subscript (.int 1)
      let head := [timedCommand, count] ++ (← wordBytes time)
      let body ← encodeServos (pairs (items.drop 2))
      twice (writeFrame boardAddress (head ++ body))) := by
    intro items
    refine .except fun _ => .except fun _ => .except fun _ => .except fun _ => .except fun _ => ?_
    exact .bind (hencode _) fun body => hsend _
  cases args with
  | list items => exact hlist items
  | tuple items => exact hlist items
  | str s => exact .bind (.ofExcept _) hlist
  | range a b c => exact hlist (Value.rangeItems a b c)
  | dict | none | bool | int | float | object => exact .fail _

theorem alike_getBattery_shaken : Alike Shaken getBattery := by
  apply alike_twice_writeFrame
  · intro _ _ r _ hfaults
    unfold readBattery
    simp only [wp_bind, wp_meetFault (show r.pendingFaults ≤ 0 by omega), wp_get,
      wp_modify, wp_pure]
  · exact .of_parts
  · refine .map (.bind Kept.keeps_meetFault fun _ => .bind .get fun _ => ?_)
    exact .map (.modify fun _ h => { h with })

end Board

theorem Rig.Persistent.alike (α : Type) (op : Op Rig α) (h : Persistent α op) :
    Alike Shaken op := by
  cases h with
  | note level text =>
    exact Op.Alike.and_keeps .of_parts (.modify fun _ h => { h with })
  | motor index speed => exact alike_setMotor_shaken index speed
  | servo index angle => exact alike_setServoAngle_shaken index angle
  | battery => exact alike_getBattery_shaken
  | sleep t => exact Op.Alike.and_keeps .of_parts (Kept.keeps_sleep t)

/-- A single fault on the bus makes no difference to an operation, but for the transfer that failed:
what is returned or complained of is the same, and so is all of the state that is left behind. -/
def Unnoticed {σ α : Type} [HasRig σ] (op : Op σ α) : Prop :=
  ∀ s, (rig s).Kept → (rig s).pendingFaults = 0 →
    SameOutcome (Around Shaken) (op s)
      (op (withRig s { rig s with pendingFaults := 1 }))

theorem Op.Matches.unnoticed {σ α : Type} [HasRig σ] {op : Op σ α} (h : Alike (Around Shaken) op) :
    Unnoticed op := by
  intro s hs hfaults
  apply h s
  exact ⟨_, rfl, ⟨⟨1, (rig s).log, (rig s).events⟩, rfl, .inl ⟨hfaults, rfl⟩⟩, hs⟩

theorem Rig.unnoticed_of_alike {α : Type} {op : Op Rig α} (h : Alike Shaken op) : Unnoticed op := by
  have haround : @Around Shaken Rig _ = Shaken := by
    funext r t
    simp [Around, withRig, rig]
  apply Op.Matches.unnoticed
  rw [haround]
  exact h

theorem Chassis.alike_become {R : Rig → Rig → Prop} {command : Chassis → Op Rig Chassis}
    (h : ∀ c, Alike R (command c)) : Alike (Around R) (become command) := by
  refine Around.alike_read (fun s => ?_) fun _ _ => rfl
  refine .bind (matches_onRig (fun _ _ _ => ⟨rfl, rfl⟩) (h s.2)) fun c => ?_
  refine .map (.modify ?_)
  rintro s t ⟨rig, rfl, hrig⟩
  exact ⟨rig, rfl, hrig⟩

theorem Chassis.alike_perform (order : Order) : Alike (Around Shaken) (perform order) := by
  have hbecome {command : Chassis → Op Rig Chassis} [h : ∀ c, Composed Persistent (command c)] :
      Alike (Around Shaken) (become command) := alike_become fun c => (h c).alike Persistent.alike
  unfold perform
  split
  · exact hbecome
  · exact hbecome
  · exact .except fun _ => .pure _
  · exact hbecome

theorem Remote.Method.alike_setMotors (args : List Value) :
    Alike (Around Shaken) (setMotors args) := by
  refine .ite (.pure _) (.guarded ?_ fun _ => .pure _)
  refine .except fun _ => .ite (.pure _) ?_
  -- the loop is made of commands to single motors
  refine Op.Composed.alike (.map (.forIn (fun command _ => ?_) _ _)) fun _ _ h => h
  refine .map (.base ?_)
  exact matches_onRig (fun _ _ _ => ⟨rfl, rfl⟩) (alike_setMotor_shaken _ _)

/-- A single fault on the bus goes unnoticed by whatever uses the board alone, with whatever
arguments: the commands of the board, those of the chassis, those with which programs drive, turn
servos, look around and ask for the voltage, and the call that sets motors from outside. -/
theorem single_fault_unnoticed :
    ((∀ index speed, Unnoticed (setMotor index speed)) ∧
      (∀ index angle, Unnoticed (setServoAngle index angle)) ∧
      (∀ index pulse time, Unnoticed (setServoPulse index pulse time)) ∧
      (∀ args, Unnoticed (setServosPulse args)) ∧ Unnoticed getBattery) ∧
    (∀ order, Unnoticed (Chassis.perform order)) ∧
    (∀ c ∈ all, c.name ∉ onceOnly →
      ∀ positional named, Unnoticed (c.call positional named)) ∧
    (∀ angle, Unnoticed (Vehicle.moveGimbal (Gimbal.setHorizontal · angle)) ∧
      Unnoticed (Vehicle.moveGimbal (Gimbal.setVertical · angle))) ∧
    ∀ args, Unnoticed (Remote.Method.setMotors args) := by
  have hvehicle : ∀ {α : Type} {op : Op Vehicle α}, Composed (Vehicle.Built Persistent) op →
      Unnoticed op :=
    fun h => (h.alike (Vehicle.Built.alike Persistent.alike)).unnoticed
  refine ⟨⟨?_, ?_, ?_, ?_, ?_⟩, ?_, ?_, ?_, ?_⟩
  · exact fun index speed => unnoticed_of_alike (alike_setMotor_shaken index speed)
  · exact fun index angle => unnoticed_of_alike (alike_setServoAngle_shaken index angle)
  · exact fun index pulse time =>
      unnoticed_of_alike (alike_setServoPulse_shaken index pulse time)
  · exact fun args => unnoticed_of_alike (alike_setServosPulse args)
  · exact unnoticed_of_alike alike_getBattery_shaken
  · exact fun order => (Chassis.alike_perform order).unnoticed
  · exact fun c hc hname positional named =>
      hvehicle (persistent_call hc hname positional named)
  · intro angle
    constructor
    · exact hvehicle inferInstance
    · exact hvehicle inferInstance
  · exact fun args => (Remote.Method.alike_setMotors args).unnoticed

/-- The vehicle drives ahead as if nothing had happened. -/
theorem single_fault_unnoticed_ahead :
    ∃ c ∈ all, c.name ∉ onceOnly ∧ ∃ a t u, c.call [.int 30] [] {} = .ok a t ∧
      c.call [.int 30] [] { rig := { pendingFaults := 1 } } = .ok a u ∧ Around Shaken t u := by
  obtain ⟨c, hc⟩ : ∃ c, find? "qianjin" = some c := ⟨_, rfl⟩
  have hmem : c ∈ all := List.mem_of_find?_eq_some hc
  have hname : c.name ∉ onceOnly := by
    cases hc
    decide
  have hcompletes : (c.call [.int 30] []).completes {} = true := by
    cases hc
    decide +kernel
  obtain ⟨a, t, ht⟩ := Op.exists_result_of_completes hcompletes
  have hsame := single_fault_unnoticed.2.2.1 c hmem hname [.int 30] [] {} ⟨rfl, rfl, rfl⟩ rfl
  rw [ht] at hsame
  rcases hsame.cases with ⟨_, _, u, heq, hu, hshaken⟩ | ⟨_, _, _, heq, -⟩
  · cases heq
    exact ⟨c, hmem, hname, a, t, u, ht, hu, hshaken⟩
  · cases heq

end Rover
