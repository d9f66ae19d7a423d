import Rover.Proofs.Motion.Drive
import Rover.Proofs.Station.Basic

/-!
# Emergency stops and faults on the bus

An emergency stop stops the motors, then the program, and then tells the cloud. One fault on the
bus is made up for by the second attempt, but two faults end the emergency stop before the program
or the cloud is told anything.
-/

namespace Rover

namespace Rig

open Value

structure Calm (r t : Rig) : Prop where
  clock : t.clock = r.clock
  sent : t.sent = r.sent

theorem Calm.trans {r s t : Rig} (h : Calm r s) (h' : Calm s t) : Calm r t :=
  ⟨h'.clock.trans h.clock, h'.sent.trans h.sent⟩

theorem calm_failed (r : Rig) : Calm r r.failed := ⟨rfl, r.sent_failed⟩

theorem calm_turned (w : WheelSpeeds) (r : Rig) : Calm r (w.turned r) := by
  refine ⟨rfl, ?_⟩
  unfold sent WheelSpeeds.turned Board.turned
  rw [Array.toList_append, List.filterMap_append]
  exact List.append_nil _

/-- The operation comes to its end if at most one fault is pending, and leaves none; otherwise it
stops early. -/
def Halts {α : Type} (op : Op Rig α) : Prop :=
  ∀ r : Rig, FourMotors r.board.motors →
    wp op
      (fun _ t => r.pendingFaults ≤ 1 ∧ t.pendingFaults ≤ 0 ∧ FourMotors t.board.motors ∧ Calm r t)
      (fun _ t => 2 ≤ r.pendingFaults ∧ Calm r t) r

end Rig

open Rig (Calm)

theorem Chassis.halts_drive_zero : Rig.Halts (Chassis.drive ⟨0, 0, 0, 0⟩) := by
  intro r hr
  have hcalm := Rig.calm_failed r
  rw [Chassis.wp_drive hr]
  cases htry : r.attempt? with
  | some s =>
    have h1 : r.pendingFaults ≤ 1 := Rig.attempt?_isSome.mp (by rw [htry]; rfl)
    obtain ⟨hnone, rfl | rfl⟩ := Rig.attempt?_cases htry
    · exact ⟨h1, hnone, WheelSpeeds.fourMotors_records _, Rig.calm_turned _ _⟩
    · exact ⟨h1, hnone, WheelSpeeds.fourMotors_records _, hcalm.trans (Rig.calm_turned _ _)⟩
  | none => exact ⟨Rig.attempt?_eq_none.mp htry, hcalm.trans (Rig.calm_failed _)⟩

theorem Motion.halts_stop : Rig.Halts Motion.stop := by
  intro r hr
  unfold Motion.stop
  refine wp_mono (Chassis.halts_drive_zero _ ?_) (fun _ t ht => ?_) fun _ t ht => ?_
  · exact hr
  · exact ⟨ht.1, ht.2.1, ht.2.2.1, ht.2.2.2.clock, ht.2.2.2.sent⟩
  · exact ⟨ht.1, ht.2.clock, ht.2.sent⟩

namespace Runner

def stopped (e : Executor) : Executor :=
  { e with interrupted := true, stopRequested := true, processId := .none }

section
variable {r : Runner} (hexecuting : r.executor.executing)
include hexecuting

section

variable (hmotors : FourMotors r.vehicle.rig.board.motors)
include hmotors

theorem stop_spec (hfaults : r.executor.commands → r.vehicle.rig.pendingFaults ≤ 0) :
    wp stop (fun done t => done ∧ t.executor = stopped r.executor ∧
      (t.vehicle.rig.pendingFaults ≤ 0 ↔ r.vehicle.rig.pendingFaults ≤ 0) ∧
      Calm r.vehicle.rig t.vehicle.rig) never r := by
  cases hcmds : r.executor.commands with
  | false =>
    simp [stop, interrupt, hexecuting, hcmds, stopped]
    exact ⟨rfl, rfl⟩
  | true =>
    have hnone := hfaults hcmds
    simp only [stop, interrupt, hexecuting, hcmds, wp_bind, wp_get, wp_ite, if_true,
      wp_update, liftM_rig, wp_onRig, wp_info, wp_pure]
    refine wp_mono (Motion.halts_stop _ ?_) (fun _ t ht => ?_) fun _ t ht => ?_
    · exact hmotors
    · refine ⟨trivial, ?_, iff_of_true ht.2.1 hnone, ht.2.2.2.clock, ht.2.2.2.sent⟩
      simp [stopped, hexecuting, hcmds]
    · -- two faults are not pending
      have htwo : 2 ≤ r.vehicle.rig.pendingFaults := ht.1
      omega

theorem stop_warn_spec (hfaults : r.executor.commands → r.vehicle.rig.pendingFaults ≤ 0) :
    wp (do let _ ← stop; onRig (Rig.warn "紧急停止已触发"))
      (fun _ t => t.executor = stopped r.executor ∧
        (t.vehicle.rig.pendingFaults ≤ 0 ↔ r.vehicle.rig.pendingFaults ≤ 0) ∧
        Calm r.vehicle.rig t.vehicle.rig) never r := by
  rw [wp_bind]
  refine wp_of_total (stop_spec hexecuting hmotors hfaults) fun _ t ht => ?_
  exact ⟨ht.2.1, ht.2.2.1, ht.2.2.2.clock, ht.2.2.2.sent⟩

theorem emergencyStop_spec :
    wp emergencyStop
      (fun _ t => (r.executor.commands → r.vehicle.rig.pendingFaults ≤ 1) ∧
        t.executor = stopped r.executor ∧
        (t.vehicle.rig.pendingFaults ≤ 0 ↔ r.executor.commands ∨ r.vehicle.rig.pendingFaults ≤ 0) ∧
        Calm r.vehicle.rig t.vehicle.rig)
      (fun _ t => (r.executor.commands ∧ 2 ≤ r.vehicle.rig.pendingFaults) ∧
        t.executor = r.executor ∧ Calm r.vehicle.rig t.vehicle.rig) r := by
  unfold emergencyStop
  rw [wp_bind, wp_get]
  by_cases hcmds : r.executor.commands
  · rw [wp_ite, if_pos hcmds, wp_bind, liftM_rig, wp_onRig]
    refine wp_mono (Motion.halts_stop _ hmotors) (fun _ rig hrig => ?_) fun _ rig hrig => ?_
    · -- the second stop of the motors meets no fault any more
      obtain ⟨h1, hnone, hfour, hcalm⟩ := hrig
      refine wp_of_total (stop_warn_spec hexecuting hfour fun _ => hnone) fun _ t ht => ?_
      obtain ⟨hexecutor, hleft, hcalm'⟩ := ht
      exact ⟨fun _ => h1, hexecutor, iff_of_true (hleft.mpr hnone) (.inl hcmds), hcalm.trans hcalm'⟩
    · exact ⟨⟨hcmds, hrig.1⟩, rfl, hrig.2⟩
  · rw [wp_ite, if_neg hcmds]
    refine wp_of_total (stop_warn_spec hexecuting hmotors fun h => absurd h hcmds) fun _ t ht => ?_
    obtain ⟨hexecutor, hleft, hcalm⟩ := ht
    exact ⟨fun h => absurd h hcmds, hexecutor, hleft.trans (or_iff_right hcmds).symm, hcalm⟩

theorem executor_after_emergencyStop :
    (emergencyStop.after r).executor =
      if r.executor.commands → r.vehicle.rig.pendingFaults ≤ 1 then stopped r.executor
      else r.executor := by
  refine (wp_after_iff (P := fun t : Runner => t.executor = _)).mp ?_
  refine wp_mono (emergencyStop_spec hexecuting hmotors) (fun _ t ht => ?_) fun _ t ht => ?_
  · rw [if_pos ht.1]
    exact ht.2.1
  · rw [if_neg]
    · exact ht.2.1
    · intro h
      have h1 := h ht.1.1
      omega

end

end

end Runner

namespace Station

def confirmation : Announcement := ⟨"emergency_stop", record []⟩

def emergency (text : String) : Op Station Unit := do
  onRig (Rig.warn text)
  onRunner Runner.emergencyStop
  onNet (Link.send confirmation.message)

/-- No fault is left for the message. -/
def Bearable (s : Station) : Prop :=
  s.runner.vehicle.rig.pendingFaults ≤ if s.runner.executor.commands then 1 else 0

def Heard (s t : Station) : Prop :=
  (s.Bearable ∧ ∃ told, s.Says confirmation told ∧ t.sent = s.sent ++ [told]) ∨
    (¬ s.Bearable ∧ t.sent = s.sent)

section
variable {s : Station} (hs : s.Online) (hexecuting : s.runner.executor.executing)
  (hmotors : FourMotors s.runner.vehicle.rig.board.motors)
include hs hexecuting hmotors

theorem emergency_spec (text : String) :
    wp (emergency text) (fun _ t => Heard s t) (fun _ t => Heard s t) s := by
  unfold emergency
  rw [wp_bind, wp_onRig, wp_warn, wp_bind, wp_onRunner]
  refine wp_mono (Runner.emergencyStop_spec hexecuting hmotors) (fun _ r hr => ?_) fun _ r hr => ?_
  · obtain ⟨h1, -, hleft, hclock, hsent⟩ := hr
    have honline : Online { s with runner := r } := by
      refine ⟨hs.link, hs.named, ?_⟩
      rw [hclock]
      exact hs.clock
    obtain ⟨told, hsaid, hwp⟩ := honline.exists_announced (a := confirmation)
      ((writable_record_iff _).mpr nofun)
    rw [hwp]
    dsimp only
    -- the faults that the motors did not use up meet the message
    have hcond : s.Bearable ↔ r.vehicle.rig.pendingFaults ≤ 0 := by
      unfold Bearable
      by_cases hcmds : s.runner.executor.commands
      · rw [if_pos hcmds]
        exact iff_of_true (h1 hcmds) (hleft.mpr (.inl hcmds))
      · rw [if_neg hcmds]
        exact (hleft.trans (or_iff_right hcmds)).symm
    by_cases hnone : r.vehicle.rig.pendingFaults ≤ 0
    · rw [if_neg (by omega)]
      refine .inl ⟨hcond.mpr hnone, told, hsaid, ?_⟩
      exact (Rig.sent_posted ..).trans (congrArg (· ++ [told]) hsent)
    · rw [if_pos (by omega)]
      exact .inr ⟨mt hcond.mp hnone, (Rig.sent_unsent _).trans hsent⟩
  · obtain ⟨⟨hcmds, htwo⟩, -, hcalm⟩ := hr
    have htwo : 2 ≤ s.runner.vehicle.rig.pendingFaults := htwo
    refine .inr ⟨?_, hcalm.sent⟩
    rw [Bearable, if_pos hcmds]
    omega

theorem sends_confirmation_iff {α : Type} {op : Op Station α} {text : String}
    (hop : (op.after s).sent = ((emergency text).after s).sent) :
    Sends op s [confirmation] ↔ s.Bearable := by
  have hheard : Heard s _ := wp_after_iff.mp (emergency_spec hs hexecuting hmotors text)
  unfold Heard at hheard
  rw [← hop] at hheard
  rcases hheard with ⟨hbearable, told, hsaid, hsent⟩ | ⟨hbearable, hsent⟩
  · exact iff_of_true ⟨[told], hsent, .cons hsaid .nil⟩ hbearable
  · refine iff_of_false (fun h => ?_) hbearable
    exact absurd (h.length_eq (sends_nil hsent)) (by decide)

end

theorem handle_emergencyStop {message : Value}
    (htype : entry message "type" .none = .ok (.str "emergency_stop")) :
    handle message = emergency "收到紧急停止请求" :=
  handle_of_type (r := .emergencyStop) htype

theorem sent_after_emergencyStop (s : Station) :
    (emergencyStop.after s).sent = ((emergency "紧急停止！").after s).sent := by
  have hbind : emergencyStop = emergency "紧急停止！" >>= fun _ => do
      onRig (Rig.emit (.emitted "emergency_stop"
        (record [("vehicle_id", (← get).settings.vehicleId)])))
      return record [("success", .bool true)] := by
    unfold emergency
    simp only [bind_assoc]
    rfl
  rw [hbind]
  refine sent_after_bind _ (fun _ t => ?_) s
  exact (Rig.sent_push ..).trans (List.append_nil _)

/-- While a program runs, whatever the number of faults pending on the bus: an emergency stop marks
the program as stopped exactly if its motors are not stopped through the bus or at most one fault is
pending, and otherwise leaves the executor as it was. Whether it is asked for by the cloud or by a
browser, the cloud receives the confirmation exactly if no fault is left for it. -/
theorem emergency_stop_effect_iff (s : Station) (hs : s.Online)
    (hexecuting : s.runner.executor.executing = true)
    (hmotors : FourMotors s.runner.vehicle.rig.board.motors) (message : Value)
    (htype : entry message "type" .none = .ok (.str "emergency_stop")) :
    (Runner.emergencyStop.after s.runner).executor =
      (if s.runner.executor.commands = true → s.runner.vehicle.rig.pendingFaults ≤ 1 then
        { s.runner.executor with interrupted := true, stopRequested := true, processId := .none }
      else s.runner.executor) ∧
    (Sends (handle message) s [⟨"emergency_stop", record []⟩] ↔
      s.runner.vehicle.rig.pendingFaults ≤ if s.runner.executor.commands = true then 1 else 0) ∧
    (Sends emergencyStop s [⟨"emergency_stop", record []⟩] ↔
      s.runner.vehicle.rig.pendingFaults ≤ if s.runner.executor.commands = true then 1 else 0) := by
  refine ⟨Runner.executor_after_emergencyStop hexecuting hmotors, ?_, ?_⟩
  · rw [handle_emergencyStop htype]
    exact sends_confirmation_iff hs hexecuting hmotors rfl
  · exact sends_confirmation_iff hs hexecuting hmotors (sent_after_emergencyStop s)

def busyWith (faults : Int) : Station :=
  { runner := {
      vehicle := { rig := { pendingFaults := faults } }
      executor := { executing := true, processId := .str "p1" } }
    link := {
      address := .ofUrl "wss://lanser.fun/block/ws/gateway"
      vehicleId := .str "vehicle-001"
      running := true
      socket := some 0 } }

theorem online_busyWith (faults : Int) : (busyWith faults).Online := by
  refine ⟨rfl, writable_str _, ?_⟩
  change (1000.0 : Float).isFinite
  decide +kernel

def emergencyRequest : Value := record [("type", .str "emergency_stop")]

theorem entry_emergencyRequest :
    entry emergencyRequest "type" .none = .ok (.str "emergency_stop") := by
  simp [entry, emergencyRequest, record, Value.lookup?, Value.same]

/-- One fault is made up for. -/
theorem emergency_stop_effect_iff_one_fault :
    (Runner.emergencyStop.after (busyWith 1).runner).executor.interrupted = true ∧
      Sends (handle emergencyRequest) (busyWith 1) [⟨"emergency_stop", record []⟩] ∧
      Sends emergencyStop (busyWith 1) [⟨"emergency_stop", record []⟩] := by
  obtain ⟨hexecutor, hcloud, hbrowser⟩ := emergency_stop_effect_iff (busyWith 1)
    (online_busyWith 1) rfl rfl emergencyRequest entry_emergencyRequest
  refine ⟨?_, hcloud.mpr (by decide), hbrowser.mpr (by decide)⟩
  rw [hexecutor, if_pos (by decide)]

/-- After two faults the program goes on as if nobody had asked for an emergency stop, and the cloud
does not hear of it. -/
theorem two_faults_defeat_emergency_stop :
    (Runner.emergencyStop.after (busyWith 2).runner).executor.interrupted = false ∧
      (Runner.emergencyStop.after (busyWith 2).runner).executor.stopRequested = false ∧
      ¬ Sends (handle emergencyRequest) (busyWith 2) [⟨"emergency_stop", record []⟩] ∧
      ¬ Sends emergencyStop (busyWith 2) [⟨"emergency_stop", record []⟩] := by
  have hsilent : ∀ {α : Type} {op : Op Station α}, (op.after (busyWith 2)).sent = [] →
      ¬ Sends op (busyWith 2) [⟨"emergency_stop", record []⟩] := by
    intro α op h hsends
    exact absurd (hsends.length_eq (sends_nil h)) (by decide)
  refine ⟨by decide +kernel, by decide +kernel, hsilent ?_, hsilent (by decide +kernel)⟩
  rw [handle_emergencyStop entry_emergencyRequest]
  decide +kernel

end Station

end Rover
