import Rover.Proofs.Games.Hardware
import Rover.Proofs.Resilience
import Rover.Proofs.Switchboard.Basic

/-!
# The switchboard and the hardware

Neither the camera nor the loaded game breaks hardware that works.
-/

namespace Rover

open Games

set_option synthInstance.maxSize 1000000000

open Rig (Kept Shaken)

/-! ## Hardware with faults on the bus -/

namespace Rig

structure Steady (r : Rig) : Prop extends Kept r, Unlimited r

instance : Enduring Steady :=
  enduring_of_unlimited (fun _ hr => hr.toUnlimited) fun _ _ _ _ _ hr => { hr with }

instance : Board.Recordable Steady where
  record _ _ _ hr hangles hpulses :=
    { hr with angles := hangles.trans hr.angles, pulses := hpulses.trans hr.pulses }

instance (index speed : Value) : Safe True Steady (Board.setMotor index speed) := by
  refine .base (Board.keeps_setMotor_of ?_ ?_ ?_ index speed)
  · exact fun r hr => hr.motors
  · exact fun r hr => { hr with }
  · exact fun r o hr => { hr with motors := Board.fourMotors_deliver hr.motors }

theorem Handled.keeps_steady (α : Type) (op : Op Rig α) (h : Handled α op) : Keeps Steady op := by
  cases h <;> exact .of_parts

section
variable {α : Type} {op : Op Rig α} {r : Rig}

theorem Working.steady (hr : Working FourMotors r) : Steady r :=
  { motors := hr.motors, angles := hr.angles, pulses := hr.pulses
    deadline := hr.deadline, sleepsLeft := hr.sleepsLeft }

theorem Steady.working (hr : Steady r) (hfaults : r.pendingFaults ≤ 0) : Working FourMotors r :=
  { hr with faults := hfaults }

theorem Steady.completes
    (hcalm : ∀ {r}, Working FourMotors r → wp op (fun _ t => Working FourMotors t) never r)
    (halike : Alike Shaken op) (hr : Steady r) (hfaults : r.pendingFaults ≤ 1) :
    wp op (fun _ t => Steady t ∧ t.pendingFaults ≤ 1) never r := by
  by_cases hnone : r.pendingFaults ≤ 0
  · refine wp_of_total (hcalm (hr.working hnone)) fun _ t ht => ?_
    have hleft := ht.faults
    exact ⟨ht.steady, by omega⟩
  · -- compare with the same hardware without the fault
    have hcalmed : Steady { r with pendingFaults := 0 } := { hr with }
    have h1 : r.pendingFaults = 1 := by omega
    have hshaken : Shaken { r with pendingFaults := 0 } r := by
      refine ⟨⟨⟨1, r.log, r.events⟩, ?_, .inl ⟨rfl, rfl⟩⟩, hcalmed.toKept⟩
      rw [← h1]
    obtain ⟨a, t, hok, ht⟩ := wp_false_iff.mp (hcalm (hcalmed.working (Int.le_refl 0)))
    have hsame := halike _ _ hshaken
    rw [hok] at hsame
    rcases hsame.cases with ⟨_, _, u, heq, hu, hafter⟩ | ⟨_, _, _, heq, -⟩
    · cases heq
      rw [wp_of_ok hu]
      obtain ⟨⟨c, rfl, hstruck⟩, -⟩ := hafter
      refine ⟨{ ht.steady with }, ?_⟩
      obtain ⟨-, rfl⟩ | ⟨h0, before, later, -, rfl⟩ := hstruck
      · exact Int.le_refl 1
      · change t.pendingFaults ≤ 1
        change t.pendingFaults = 0 at h0
        omega
    · cases heq

end

end Rig

open Rig (Steady)

/-! ## Leaving a game -/

section
variable {r : Rig} (hr : r.Steady) (h1 : r.pendingFaults ≤ 1)
include hr h1

theorem Games.halt_of_one : wp halt (fun _ t => t.Steady ∧ t.pendingFaults ≤ 1) never r := by
  apply hr.completes _ _ h1
  · intro r hr
    exact wp_of_total (halt_completes hr) fun _ _ ht => ht.mono fun _ hrest => hrest.1
  · unfold halt drive
    exact Op.Composed.alike inferInstance Rig.Persistent.alike

theorem Games.look_of_one (tilt pan : Int) :
    wp (look (.int tilt) (.int pan)) (fun _ t => t.Steady ∧ t.pendingFaults ≤ 1) never r := by
  have hservo : ∀ index pulse time, Alike Shaken (servo index pulse time) := fun _ _ _ =>
    .map (Board.alike_setServoPulse_shaken _ _ _)
  apply hr.completes _ _ h1
  · exact fun hr => look_completes hr tilt pan
  · exact .bind (hservo _ _ _) fun _ => hservo _ _ _

theorem Games.pause_of_one {x : Float} (hnan : x.isNaN = false) (hneg : ¬ x < 0) :
    wp (pause x) (fun _ t => t.Steady ∧ t.pendingFaults ≤ 1) never r := by
  apply hr.completes _ _ h1
  · exact fun hr => sleep_completes hr hnan hneg
  · exact Rig.Persistent.alike _ _ (.sleep _)

end

def Play.Sturdy {σ : Type} (p : Play σ) : Prop := p.rig.Steady ∧ Equipped p.files p.sonar.isSome

theorem Roaming.setSonarLamp_of_sturdy {σ : Type} {p : Play σ} (hp : p.Sturdy)
    (index color : Value) : wp (setSonarLamp index color) (fun _ q => q.Sturdy) never p := by
  obtain ⟨sonar, hsonar⟩ := Option.isSome_iff_exists.mp hp.2.2
  rw [wp_setSonarLamp, hsonar]
  exact wp_of_total (Sonar.setPixel_completes hp.1 sonar index color)
    fun _ r hr => ⟨hr, hp.2.1, rfl⟩

theorem Play.Handled.keeps_sturdy {σ : Type} (α : Type) (op : Op (Play σ) α)
    (h : Play.Handled α op) : Keeps Sturdy op := by
  cases h with
  | get => exact .get
  | update f => exact .modify fun _ hp => hp
  | onRig hop =>
    exact .onPart (fun _ hp => hp.1) (fun _ _ hp hr => ⟨hr, hp.2⟩)
      (hop.preserves Rig.Handled.keeps_steady)
  | sonarLamp index color =>
    refine keeps_iff_wp.mpr fun p hp => ?_
    exact wp_mono (Roaming.setSonarLamp_of_sturdy hp index color) (fun _ _ hq => hq)
      fun _ _ => False.elim

theorem ColorChase.wp_stop {p : Play ColorChase} {tilt pan : Int}
    (htilt : p.game.servos.subscript (.str "servo1") = .ok (.int tilt))
    (hpan : p.game.servos.subscript (.str "servo2") = .ok (.int pan)) {A : Prop} {E : Exit → Prop} :
    wp stop (fun _ _ => A) (fun e _ => E e) p ↔
      wp (look (.int tilt) (.int pan))
        (fun _ r => wp halt (fun _ _ => A) (fun e _ => E e) r) (fun e _ => E e) p.rig := by
  simp [stop, reset, lose, aim, htilt, hpan, dark, light, Board.setLamp,
    Board.showLamps]

theorem LinePatrol.wp_stop {p : Play LinePatrol} {A : Prop} {E : Exit → Prop} :
    wp stop (fun _ _ => A) (fun e _ => E e) p ↔
      wp halt (fun _ _ => A) (fun e _ => E e) p.rig := by
  simp [stop]

theorem ColorChase.stop_of_one {p : Play ColorChase} (hr : p.rig.Steady)
    (h1 : p.rig.pendingFaults ≤ 1) (hsrv : Placed p.game.servos) :
    wp stop (fun _ _ => True) never p := by
  obtain ⟨tilt, pan, htilt, hpan⟩ := hsrv
  rw [wp_stop htilt hpan]
  refine wp_of_total (look_of_one hr h1 tilt pan) fun _ r hr => ?_
  exact wp_of_total (halt_of_one hr.1 hr.2) fun _ _ _ => trivial

theorem LinePatrol.stop_of_one {p : Play LinePatrol} (hr : p.rig.Steady)
    (h1 : p.rig.pendingFaults ≤ 1) : wp stop (fun _ _ => True) never p := by
  rw [wp_stop]
  exact wp_of_total (halt_of_one hr h1) fun _ _ _ => trivial

theorem Roaming.leave_of_one {p : Play Roaming} (hp : p.Sturdy) (h1 : p.rig.pendingFaults ≤ 1) :
    wp leave (fun _ _ => True) never p := by
  unfold leave stop
  simp only [wp_bind, Play.wp_update, Play.liftM_rig, Play.wp_onRig]
  refine wp_of_total (halt_of_one hp.1 h1) fun _ r hr => ?_
  refine wp_of_total (pause_of_one hr.1 hr.2 (by decide +kernel) (by decide +kernel))
    fun _ r hr => ?_
  refine wp_of_total (halt_of_one hr.1 hr.2) fun _ r hr => ?_
  refine wp_of_total (setSonarLamp_of_sturdy (p := ⟨r, _, _, _⟩) ⟨hr.1, hp.2⟩ _ _) fun _ q hq => ?_
  exact wp_of_total (setSonarLamp_of_sturdy hq _ _) fun _ _ _ => trivial

/-! ## The camera -/

namespace Capture

variable {cut : Prop} {I : Rig → Prop}

instance {α : Type} {op : Op Rig α} [Safe cut I op] :
    Safe cut (fun s : Studio => I s.rig) (liftM op : Op Studio α) :=
  .base (.onPart (fun _ hs => hs) (fun _ _ _ hr => hr) .of_parts)

instance (f : Capture → Capture) : Safe cut (fun s : Studio => I s.rig) (Studio.update f) :=
  .base fun _ hs => hs

variable [Enduring I] {s : Studio} (hs : I s.rig)
include hs

theorem openWith_completes (corrected : Bool) :
    wp (openWith corrected) (fun _ t => I t.rig) never s :=
  Op.guarded_completes (I := fun s : Studio => I s.rig)
    (Op.Preserves.of_parts (c := False) s hs) fun _ => ()

theorem close_completes : wp close (fun _ t => I t.rig) never s :=
  Op.guarded_completes (I := fun s : Studio => I s.rig)
    (Op.Preserves.of_parts (c := False) s hs) fun _ => ()

end Capture

namespace Switchboard

variable {P : List Value → Prop} {K : ConfigFiles → Bool → Prop} {p : Play Switchboard}

def Filmed (I : Rig → Prop) (p q : Play Switchboard) : Prop :=
  ∃ rig eye, I rig ∧ eye ≠ .absent ∧ q = { p with rig, game := { p.game with eye } }

theorem onCamera_completes {I : Rig → Prop} [hI : Enduring I] {name : String} {told : Event}
    {op : Op Studio Unit}
    (hop : ∀ {s : Studio}, I s.rig → wp op (fun _ t => I t.rig) never s)
    (hp : I p.rig) (heye : p.game.eye ≠ .absent) :
    wp (onCamera name told op) (fun _ q => Filmed I p q) never p := by
  unfold onCamera
  rw [wp_bind, wp_state]
  cases h : p.game.eye with
  | absent => exact absurd h heye
  | remote => exact ⟨_, _, hI.emit _ _ hp, heye, rfl⟩
  | own camera =>
    simp only [wp_onPart]
    refine wp_of_total (hop hp) fun _ t ht => ?_
    exact ⟨_, _, ht, Eye.noConfusion, rfl⟩

section
variable {I : Rig → Prop} [Enduring I] (hp : I p.rig) (heye : p.game.eye ≠ .absent)
include hp heye

theorem openCamera_completes : wp openCamera (fun _ q => Filmed I p q) never p :=
  onCamera_completes (fun h => Capture.openWith_completes h false) hp heye

theorem closeCamera_completes : wp closeCamera (fun _ q => Filmed I p q) never p :=
  onCamera_completes Capture.close_completes hp heye

end

variable {g : GameName} {k : Int} {s : Step} {op : Op (Play Arcade) Unit}

theorem step_cases (h : (k, some g) ∈ games) (hop : s.of (Arcade.game g) = some op) :
    op = pure () ∨ ∃ (σ : Type) (read : Arcade → σ) (write : Arcade → σ → Arcade)
      (own : Op (Play σ) Unit), Composed Play.Handled own ∧ op = Play.within read write own := by
  cases g with
  | remote =>
    left
    cases s <;> cases hop <;> rfl
  | idle | alarm | track | signs | faces => simp [games] at h
  | _ =>
    obtain ⟨own, hown, rfl⟩ := Step.of_within_eq_some hop
    refine .inr ⟨_, _, _, own, ?_, rfl⟩
    first
    | exact ColorSpotter.handled s own hown
    | exact ColorChase.handled s own hown
    | exact LinePatrol.handled s own hown
    | exact CodeReader.handled s own hown
    | exact Roaming.handled s own hown
    | exact ThresholdTuner.handled s own hown

theorem game_staysFit (h : (k, some g) ∈ games) : (Arcade.game g).StaysFit K := by
  intro s op hop
  obtain rfl | ⟨σ, read, write, own, hown, rfl⟩ := step_cases h hop
  · exact .pure _
  · exact Play.fit_within read write (hown.preserves Play.Handled.fit)

theorem step_keeps_sturdy (h : (k, some g) ∈ games)
    (hop : s.of (Arcade.game g) = some op) : Keeps Play.Sturdy op := by
  obtain rfl | ⟨σ, read, write, own, hown, rfl⟩ := step_cases h hop
  · exact .pure _
  · exact .onPart (fun _ hp => hp) (fun _ _ _ hq => hq) (hown.preserves Play.Handled.keeps_sturdy)

theorem fit_part (name : String) (s : Step) : Uncut (Fit FourMotors K) (part name s.of) := by
  intro p hp
  rw [wp_part]
  split
  · exact ⟨by simp, hp⟩
  · exact ⟨by simp, hp⟩
  · rename_i g hg
    obtain ⟨k, hk, -⟩ := gameAt_eq_ok_iff.mp hg
    split
    · exact ⟨by simp, hp⟩
    · rename_i op hop
      exact wp_mono (game_staysFit hk s op hop (arcadeOf p) ⟨hp.rig, hp.kit⟩)
        (fun _ q hq => ⟨hq.rig, hq.kit⟩) fun _ q hq => ⟨hq.1, hq.2.rig, hq.2.kit⟩

def busy : List GameName := [.chase, .patrol, .roaming]

theorem leave_of_one (h : (k, some g) ∈ games) {p : Play Arcade} (hp : p.Sturdy)
    (hchase : g = .chase → Placed p.game.chase.servos) (h1 : g ∈ busy → p.rig.pendingFaults ≤ 1) :
    ∃ op, (Arcade.game g).leave = some op ∧ wp op (fun _ _ => True) never p := by
  cases g with
  | remote => exact ⟨_, rfl, trivial⟩
  | spotter => exact ⟨_, rfl, (wp_within ..).mpr (ColorSpotter.stop_completes _)⟩
  | chase =>
    exact ⟨_, rfl, (wp_within ..).mpr (ColorChase.stop_of_one hp.1 (h1 (by decide)) (hchase rfl))⟩
  | patrol =>
    exact ⟨_, rfl, (wp_within ..).mpr (LinePatrol.stop_of_one hp.1 (h1 (by decide)))⟩
  | reader => exact ⟨_, rfl, (wp_within ..).mpr (CodeReader.stop_completes _)⟩
  | roaming =>
    exact ⟨_, rfl, (wp_within ..).mpr (Roaming.leave_of_one hp (h1 (by decide)))⟩
  | tuner => exact ⟨_, rfl, (wp_within ..).mpr (ThresholdTuner.leave_completes _)⟩
  | idle | alarm | track | signs | faces => simp [games] at h

theorem step_keeps_chase_servos (v : Value)
    (h : s.of (Arcade.game g) = some op) (hs : s ≠ .prepare) :
    Keeps (fun p => p.game.chase.servos = v) op := by
  cases g with
  | remote | idle => cases s <;> cases h <;> exact .pure _
  | chase =>
    obtain ⟨own, hown, rfl⟩ := Step.of_within_eq_some h
    exact .onPart (fun _ hv => hv) (fun _ _ _ hv => hv) (ColorChase.step_keeps_servos v hown hs)
  | _ =>
    obtain ⟨own, -, rfl⟩ := Step.of_within_eq_some h
    refine Play.keeps_within (I := fun a : Arcade => a.chase.servos = v) (fun _ _ hv => ?_) own
    exact hv

theorem fit_onCamera {name : String} {told : Event} {op : Op Studio Unit}
    (hop : ∀ {s : Studio}, Working P s.rig →
      wp op (fun _ t => Working P t.rig) never s) : Uncut (Fit P K) (onCamera name told op) := by
  intro p hp
  -- a missing camera is a fault, but one that leaves the hardware alone
  by_cases heye : p.game.eye = .absent
  · unfold onCamera
    rw [wp_bind, wp_state, heye]
    exact ⟨nofun, hp⟩
  · refine wp_mono (onCamera_completes hop hp.rig heye) ?_ fun _ _ h => h.elim
    rintro _ _ ⟨rig, eye, hrig, -, rfl⟩
    exact ⟨hrig, hp.kit⟩

section
variable {cut : Prop}

instance : Safe cut (Fit P K) openCamera :=
  (fit_onCamera fun h => Capture.openWith_completes h false).safe

instance : Safe cut (Fit P K) closeCamera := (fit_onCamera Capture.close_completes).safe

instance (name : String) : Safe cut (Fit FourMotors K) (part name fun g => some g.prepare) :=
  (fit_part name .prepare).safe

instance (name : String) : Safe cut (Fit FourMotors K) (part name Game.start) :=
  (fit_part name .start).safe

instance (name : String) : Safe cut (Fit FourMotors K) (part name Game.stop) :=
  (fit_part name .stop).safe

instance (name : String) : Safe cut (Fit FourMotors K) (part name Game.leave) :=
  (fit_part name .leave).safe

instance (number : Value) : Safe cut (Fit FourMotors K) (switch number) := by
  unfold switch enter
  infer_instance

instance : Safe cut (Fit FourMotors K) unload := by
  unfold unload
  infer_instance

end

end Switchboard

end Rover
