import Rover.Proofs.Board.Servo
import Rover.Proofs.Games.Steps
import Rover.Proofs.Motion.Drive

/-!
# Games and the hardware

No step of a game breaks hardware that works, changes the files or takes the sonar away. Where a
game is left from such a state, leaving comes to its end. Some games stop the wheels when they are
left, and one in the turn after that. The others leave the wheels as they are.
-/

namespace Rover

-- some operations are longer than what is looked for by default
set_option synthInstance.maxSize 1000000000

open Chassis (AtRest)
open Play (onRig)
open Games (dark halt pause)

/-- The hardware works, and `K` holds of the files and of whether there is a sonar. -/
structure Play.Fit {σ : Type} (P : List Value → Prop) (K : ConfigFiles → Bool → Prop)
    (p : Play σ) : Prop where
  rig : Working P p.rig
  kit : K p.files p.sonar.isSome

namespace Play

variable {σ τ α : Type} {P : List Value → Prop} {K : ConfigFiles → Bool → Prop} {cut : Prop}

instance (p : Play σ) (s : σ) : Leads (Fit P K p) (Fit P K { p with game := s }) :=
  ⟨fun hp => ⟨hp.rig, hp.kit⟩⟩

instance {op : Op Rig α} [Safe cut (Working P) op] :
    Safe cut (Fit P K) (onRig op : Op (Play σ) α) :=
  .base (.onPart (fun _ hp => hp.rig) (fun _ _ hp hr => ⟨hr, hp.kit⟩) .of_parts)

theorem fit_within {op : Op (Play σ) α} (read : τ → σ) (write : τ → σ → τ)
    (h : Uncut (Fit P K) op) : Uncut (Fit P K) (within read write op) :=
  .onPart (fun _ hp => ⟨hp.rig, hp.kit⟩) (fun _ _ _ hq => ⟨hq.rig, hq.kit⟩) h

end Play

theorem Games.look_completes {P : List Value → Prop} {r : Rig} (hr : Working P r) (tilt pan : Int) :
    wp (look (.int tilt) (.int pan)) (fun _ q => Working P q) never r := by
  unfold look servo
  simp only [wp_bind, wp_pure]
  refine wp_of_total (Board.setServoPulse_completes hr (by decide) tilt 1000) fun _ q hq => ?_
  exact Board.setServoPulse_completes hq (by decide) pan 1000

theorem Sonar.setPixel_completes {I : Rig → Prop} [Enduring I] {r : Rig} (hr : I r)
    (s : Sonar) (index rgb : Value) : wp (s.setPixel index rgb) (fun _ q => I q) never r := by
  refine Op.guarded_completes (Op.Preserves.ite (.pure _) ?_ r hr) fun _ => s
  cases index.integer? <;> exact .of_parts

/-- The motors have these records, and no sleep is cut short; transfers may fail. -/
structure Rig.Idle (records : List Value) (r : Rig) : Prop extends Unlimited r where
  motors : r.board.motors = records

instance {records : List Value} : Enduring (Rig.Idle records) :=
  Rig.enduring_of_unlimited (fun _ hr => hr.toUnlimited) fun _ _ _ _ _ hr => { hr with }

instance {records : List Value} : Board.Recordable (Rig.Idle records) where
  record _ _ _ hr _ _ := { hr with }

namespace Play

variable {σ α : Type}

structure Holds (I : Rig → Prop) (J : σ → Prop) (p : Play σ) : Prop where
  rig : I p.rig
  game : J p.game

section
variable {cut : Prop} {I : Rig → Prop} {J : σ → Prop}

instance (p : Play σ) (s : σ) [h : Leads (J p.game) (J s)] :
    Leads (Holds I J p) (Holds I J { p with game := s }) := ⟨fun hp => ⟨hp.rig, h.imp hp.game⟩⟩

instance {op : Op Rig α} [Safe cut I op] : Safe cut (Holds I J) (onRig op) :=
  .base (.onPart (fun _ hp => hp.rig) (fun _ _ hp hr => ⟨hr, hp.game⟩) .of_parts)

end

end Play

export Play (Fit)

section
variable {K : ConfigFiles → Bool → Prop} {P : List Value → Prop}

theorem Roaming.fit_setSonarLamp {σ : Type} (index color : Value) :
    Uncut (Fit P K) (setSonarLamp index color : Op (Play σ) Unit) := by
  intro p hp
  rw [wp_setSonarLamp]
  cases hsonar : p.sonar with
  | none => exact ⟨nofun, hp⟩
  | some sonar =>
    have hkit : K p.files true := by
      have hkit := hp.kit
      rw [hsonar] at hkit
      exact hkit
    exact wp_of_total (Sonar.setPixel_completes hp.rig sonar index color) fun _ r hr => ⟨hr, hkit⟩

instance {cut : Prop} {σ : Type} (index color : Value) :
    Safe cut (Fit P K) (Roaming.setSonarLamp index color : Op (Play σ) Unit) :=
  (Roaming.fit_setSonarLamp index color).safe

theorem Rig.Handled.uncut (α : Type) (op : Op Rig α) (h : Rig.Handled α op) :
    Uncut (Working FourMotors) op := by
  cases h <;> exact .of_parts

theorem Play.Handled.fit {σ : Type} (α : Type) (op : Op (Play σ) α) (h : Play.Handled α op) :
    Uncut (Fit FourMotors K) op := by
  cases h with
  | onRig hop =>
    have hrig : Safe False (Working FourMotors) _ := hop.mono Rig.Handled.uncut
    exact .of_parts
  | _ => exact .of_parts

def Game.StaysFit {σ : Type} (K : ConfigFiles → Bool → Prop) (g : Game σ) : Prop :=
  ∀ (s : Step) (op : Op (Play σ) Unit), s.of g = some op → Uncut (Fit FourMotors K) op

end

def Placed (servos : Value) : Prop :=
  ∃ tilt pan : Int, servos.subscript (.str "servo1") = .ok (.int tilt) ∧
    servos.subscript (.str "servo2") = .ok (.int pan)

def Equipped (files : ConfigFiles) (sonar : Bool) : Prop := Placed files.servos ∧ sonar

section
variable {K : ConfigFiles → Bool → Prop} {σ : Type}

theorem Play.halt_completes {p : Play σ} (hp : p.Fit FourMotors K) :
    wp (onRig halt) (fun _ q => q.Fit AtRest K) never p := by
  rw [wp_onRig]
  exact wp_of_total (Games.halt_completes hp.rig) fun _ r hr => ⟨hr, hp.kit⟩

theorem ColorSpotter.stop_completes (p : Play ColorSpotter) :
    wp stop (fun _ _ => True) never p := by
  simp [stop, dark, Games.light, Board.setLamp, Board.showLamps]

theorem CodeReader.stop_completes (p : Play CodeReader) :
    wp stop (fun _ _ => True) never p := trivial

theorem ThresholdTuner.leave_completes (p : Play ThresholdTuner) :
    wp leave (fun _ _ => True) never p := trivial

theorem placed_usualServos : Placed usualServos := by
  refine ⟨1535, 1500, ?_, ?_⟩
  · simp [usualServos, record, Value.subscript, Value.lookup?, Value.same]
    rfl
  · simp [usualServos, record, Value.subscript, Value.lookup?, Value.same]
    rfl

theorem ColorChase.step_keeps_servos {s : Step} {op : Op (Play ColorChase) Unit} (v : Value)
    (h : s.of game = some op) (hs : s ≠ .prepare) : Keeps (fun p => p.game.servos = v) op := by
  cases s with
  | prepare => exact absurd rfl hs
  | start | stop | leave =>
    cases h
    dsimp only [game, start, stop, reset, lose, aim]
    exact .of_parts

theorem ColorChase.prepare_servos (p : Play ColorChase) :
    wp prepare (fun _ q => q.game.servos = p.files.servos)
      (fun _ q => q.game.servos = p.files.servos) p := by
  have hready : Keeps (fun q : Play ColorChase => q.game.servos = p.files.servos)
      (do reset; aim) := by
    unfold reset lose aim
    exact .of_parts
  unfold prepare load
  simp only [wp_bind, wp_get, Play.wp_update]
  exact (wp_bind ..).mp (hready.wp rfl)

/-! ## Wheels of games that are left -/

def Rests {σ : Type} (K : ConfigFiles → Bool → Prop) (op : Op (Play σ) Unit) : Prop :=
  ∀ p : Play σ, p.Fit FourMotors K → wp op (fun _ q => q.Fit AtRest K) (fun _ _ => True) p

theorem Play.halt_rests : Rests K (onRig halt : Op (Play σ) Unit) := fun _ hp =>
  wp_of_total (halt_completes hp) fun _ _ hq => hq

theorem Rests.after {σ α : Type} {op : Op (Play σ) α} {rest : α → Op (Play σ) Unit}
    (hop : Uncut (Fit FourMotors K) op) (hrest : ∀ a, Rests K (rest a)) :
    Rests K (op >>= rest) := by
  intro p hp
  rw [wp_bind]
  exact wp_mono (hop p hp) (fun a q hq => hrest a q hq) fun _ _ _ => trivial

theorem Rests.before {op rest : Op (Play σ) Unit} (hop : Rests K op)
    (hrest : Uncut (Fit AtRest K) rest) : Rests K (op >>= fun _ => rest) := by
  intro p hp
  rw [wp_bind]
  refine wp_mono (hop p hp) (fun _ q hq => ?_) fun _ _ _ => trivial
  exact wp_mono (hrest q hq) (fun _ _ h => h) fun _ _ _ => trivial

theorem Rests.within {σ τ : Type} {op : Op (Play σ) Unit} (h : Rests K op) (read : τ → σ)
    (write : τ → σ → τ) : Rests K (Play.within read write op) := by
  intro p hp
  rw [wp_within]
  exact wp_mono (h _ ⟨hp.rig, hp.kit⟩) (fun _ q hq => ⟨hq.rig, hq.kit⟩) fun _ _ _ => trivial

theorem ColorChase.stop_rests : Rests K stop := by
  have hreset : Uncut (Fit FourMotors K) reset := by
    unfold reset
    exact .of_parts
  have haim : Uncut (Fit FourMotors K) aim := by
    unfold aim
    exact .of_parts
  exact .after hreset fun _ => .after haim fun _ => .before Play.halt_rests .of_parts

theorem LinePatrol.stop_rests : Rests K stop := .after .of_parts fun _ => Play.halt_rests

theorem Roaming.leave_rests : Rests K leave := by
  have hstop : Rests K stop :=
    .after .of_parts fun _ => .after .of_parts fun _ => .after .of_parts fun _ => Play.halt_rests
  exact .before hstop .of_parts

theorem CodeReader.turn_rests {p : Play CodeReader} (hp : p.Fit FourMotors K)
    (hrun : p.game.running = .bool false) (hstop : p.game.stopping = .bool true) :
    wp turn (fun _ q => q.Fit AtRest K) (fun _ q => q.Fit AtRest K) p := by
  have hrest : Uncut (Fit AtRest K) (do
      Play.update ({ · with stopping := .bool false })
      onRig (pause 0.5)
      onRig (pause 0.01) : M Unit) := .of_parts
  -- the flags send the turn to the branch that stops the wheels first
  unfold turn
  rw [wp_bind, wp_state, hrun, hstop]
  refine (wp_bind ..).mpr ?_
  exact wp_of_total (Play.halt_completes hp) fun _ q hq => hrest.wp hq

section
variable {P : List Value → Prop}

theorem ColorSpotter.fit_stop : Uncut (Fit P K) stop := by
  unfold stop
  exact .of_parts

theorem ColorSpotter.fit_turn : Uncut (Fit P K) turn := by
  unfold turn waggle aim
  exact .of_parts

end

end

end Rover
