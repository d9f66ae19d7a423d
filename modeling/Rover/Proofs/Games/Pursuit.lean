import Rover.Proofs.Games.Hardware

/-!
# Standing still without a target

Two games chase what the camera sees, and stop the wheels where they remember to have set them in
motion. The chase of a face always remembers it, whatever fails on the bus. The chase of a colour is
adrift when it is made ready or started while the wheels turn.
-/

namespace Rover

open Op Games

-- some operations are longer than what is looked for by default
set_option synthInstance.maxSize 1000000000

open Play (liftM_rig wp_onRig wp_update)
open Chassis (AtRest)

namespace ColorChase

open Play (Holds)

/-- What can happen to the game: its steps, its settings, pictures, the passing of time, and the
turns of the motion. -/
inductive Incident where
  | prepare | start | stop | leave
  | targets (colors : Value)
  | following (on : Value)
  | picture (frame : Option Raster)
  | wait (seconds : Float)
  | turn

def Incident.occur : Incident → M Unit
  | prepare => ColorChase.prepare
  | start => ColorChase.start
  | stop | leave => ColorChase.stop
  | targets colors => do let _ ← setTargets colors
  | following on => do let _ ← setFollowing on
  | picture frame => do let _ ← watch frame
  | wait seconds => modify fun p => { p with rig := { p.rig with clock := p.rig.clock + seconds } }
  | turn => ColorChase.turn

def tracks (s : ColorChase) : Bool :=
  s.running.truth && !(s.centerX.same (.int (-1)) || s.centerY.same (.int (-1)))

/-- Whether the vehicle is adrift after an incident: the note of its wheels was dropped while they
turned, and since then nothing has stopped them or taken note of them. -/
def Incident.adrift (p : Play ColorChase) (before : Bool) : Incident → Bool
  | prepare | start => !decide (AtRest p.rig.board.motors)
  | stop | leave => !decide (AtRest p.rig.board.motors) && !ColorChase.stop.completes p
  | following on => before && on.truth
  | turn => before && !(p.game.tracks && p.game.follows.truth && ColorChase.turn.completes p)
  | targets _ | picture _ | wait _ => before

def adrift : List Incident → Play ColorChase → Bool → Bool
  | [], _, before => before
  | i :: rest, p, before => adrift rest (i.occur.after p) (i.adrift p before)

/-- What the chase remembers of the wheels is right, unless the vehicle is adrift. -/
structure Aware (adrift : Bool) (p : Play ColorChase) : Prop where
  rig : Working FourMotors p.rig
  unnoted : adrift → p.game.moving.truth = false
  stance : p.game.moving.truth = false → (AtRest p.rig.board.motors ↔ adrift = false)

abbrev Forgot (records : List Value) : Play ColorChase → Prop :=
  Holds (Working (· = records)) fun s => s.moving.truth = false

abbrev Kept (records : List Value) (note follows : Value) : Play ColorChase → Prop :=
  Holds (Working (· = records)) fun s => s.moving = note ∧ s.follows = follows

section
variable {before : Bool} {p q : Play ColorChase} {records : List Value} {note follows : Value}

theorem Aware.kept (hp : Aware before p)
    (hq : Kept p.rig.board.motors p.game.moving p.game.follows q) : Aware before q := by
  have hmot : q.rig.board.motors = p.rig.board.motors := hq.rig.motors
  refine ⟨hq.rig.mono fun motors hrec => ?_, ?_, ?_⟩
  · rw [hrec]
    exact hp.rig.motors
  · rw [hq.game.1]
    exact hp.unnoted
  · rw [hq.game.1, hmot]
    exact hp.stance

theorem Aware.of_kept (hp : Aware before p) {α : Type} {op : M α}
    (hop : Keeps (Kept p.rig.board.motors p.game.moving p.game.follows) op) :
    wp op (fun _ q => Aware before q) (fun _ q => Aware before q) p := by
  refine wp_mono (hop.wp ⟨{ hp.rig with motors := rfl }, rfl, rfl⟩) ?_ ?_
  · exact fun _ _ hq => hp.kept hq
  · exact fun _ _ hq => hp.kept hq

theorem Aware.of_forgot (hfour : FourMotors records) (hq : Forgot records q) :
    Aware (!decide (AtRest records)) q := by
  have hmot : q.rig.board.motors = records := hq.rig.motors
  refine ⟨hq.rig.mono fun motors hrec => ?_, fun _ => hq.game, fun _ => ?_⟩
  · rw [hrec]
    exact hfour
  · rw [hmot, Bool.not_eq_false', decide_eq_true_iff]

theorem Aware.of_atRest (hq : Working AtRest q.rig) : Aware false q :=
  ⟨hq.mono fun _ hmot => hmot.1, nofun, fun _ => iff_of_true hq.motors rfl⟩

/-! ### The steps -/

theorem reset_forgot (hp : Working (· = records) p.rig) :
    wp reset (fun _ q => Forgot records q) (fun _ q => Forgot records q) p := by
  unfold reset lose
  rw [wp_bind, wp_update]
  -- the note goes first, before the settings are looked at
  have hforgot : Forgot records { p with
      game := { p.game with moving := .bool false, follows := .bool false } } := ⟨hp, rfl⟩
  exact keeps_iff_wp.mp .of_parts _ hforgot

theorem forgot_aim : Keeps (Forgot records) aim := by
  unfold aim
  exact .of_parts

theorem prepare_forgot (hp : Working (· = records) p.rig) :
    wp prepare (fun _ q => Forgot records q) (fun _ q => Forgot records q) p := by
  unfold prepare load
  simp only [wp_bind, wp_get, wp_update]
  refine wp_post (reset_forgot (p := { p with game := _ }) hp) fun _ q hq => ?_
  exact forgot_aim.wp hq

theorem start_forgot (hp : Working (· = records) p.rig) :
    wp start (fun _ q => Forgot records q) (fun _ q => Forgot records q) p := by
  unfold start
  rw [wp_bind]
  exact wp_post (reset_forgot hp) fun _ q hq => ⟨hq.rig, hq.game⟩

theorem stop_forgot (hfour : FourMotors records) (hp : Working (· = records) p.rig) :
    wp stop (fun _ q => Working AtRest q.rig) (fun _ q => Forgot records q) p := by
  unfold stop
  rw [wp_bind]
  refine wp_post (reset_forgot hp) fun _ q₁ h₁ => ?_
  refine wp_bind_of_keeps forgot_aim h₁ fun _ q₂ h₂ => ?_
  have hrig : Working FourMotors q₂.rig := h₂.rig.mono fun motors hrec => hrec ▸ hfour
  rw [wp_bind, liftM_rig, wp_onRig]
  refine wp_of_total (halt_completes hrig) fun _ r hr => ?_
  exact { hr with }

theorem Aware.following (hp : Aware before p) (on : Value) :
    wp (setFollowing on) (fun _ q => Aware (before && on.truth) q) never p := by
  unfold setFollowing
  rw [wp_bind, wp_update]
  cases on.truth with
  | true =>
    rw [Bool.and_true]
    exact { hp with }
  | false =>
    rw [Bool.and_false]
    change wp (_ >>= _) _ _ _
    rw [wp_bind, liftM_rig, wp_onRig]
    exact wp_of_total (halt_completes hp.rig) fun _ r hr => Aware.of_atRest hr

theorem kept_watch (frame : Option Raster) : Keeps (Kept records note follows) (watch frame) := by
  unfold watch lose
  refine .except fun picture => .state fun s => .ite (.except fun _ => .except fun found => ?_) ?_
  · cases target? found with
    | none => exact .of_parts
    | some outline =>
      refine .except fun _ => .except fun _ => .except fun _ => .ite .of_parts ?_
      refine .bind .of_parts fun _ => .except fun colors => ?_
      cases colors.getLast? <;> exact .of_parts
  · exact .pure _

/-! ### One turn -/

theorem kept_follow : Keeps (Kept records note follows) follow := by
  unfold follow
  exact .of_parts

theorem approach_noted (hfour : FourMotors records) (hp : Kept records note follows p) :
    wp approach (fun _ q => Working FourMotors q.rig ∧ q.game.moving.truth)
      (fun _ q => Kept records note follows q) p := by
  unfold approach
  rw [wp_bind, wp_state]
  iterate 5 refine wp_bind_of_keeps .of_parts ‹_› fun _ _ _ => ?_
  refine wp_bind_of_keeps .of_parts ‹_› fun _ q h => ?_
  have hmot : q.rig.board.motors = records := h.rig.motors
  have hcalm := Rig.attempt?_of_calm h.rig.faults
  rw [wp_bind, wp_onRig]
  refine wp_mono (Chassis.translate_outcome {} _ _ (hmot ▸ hfour)) ?_ ?_
  · rintro _ r ⟨w, s, hs, rfl⟩
    cases hcalm.symm.trans hs
    exact ⟨{ h.rig with motors := w.fourMotors_records }, rfl⟩
  · rintro _ r (rfl | ⟨hnone, -⟩)
    · exact h
    · cases hcalm.symm.trans hnone

section

variable (hp : Aware before p)
include hp

theorem Aware.rest : wp rest (fun _ q => Aware before q ∧ q.game.moving.truth = false) never p := by
  unfold ColorChase.rest
  rw [wp_bind, wp_state]
  cases hmov : p.game.moving.truth with
  | false => exact ⟨hp, hmov⟩
  | true =>
    have hnot : before = false := by
      cases before with
      | false => rfl
      | true => cases hmov.symm.trans (hp.unnoted rfl)
    change wp (_ >>= _) _ _ _
    rw [hnot, wp_bind, liftM_rig, wp_onRig]
    exact wp_of_total (halt_completes hp.rig) fun _ r hr => ⟨Aware.of_atRest hr, rfl⟩

theorem Aware.pause :
    wp (Play.onRig (pause 0.01)) (fun _ q => Aware before q ∧ q.game = p.game) never p := by
  have hpause := sleep_completes (x := 0.01) (P := (· = p.rig.board.motors))
    { hp.rig with motors := rfl } (by decide +kernel) (by decide +kernel)
  rw [wp_onRig]
  exact wp_of_total hpause fun _ r hr => ⟨hp.kept ⟨hr, rfl, rfl⟩, rfl⟩

theorem Aware.turn_of_untracked (hlost : p.game.tracks = false) :
    wp turn (fun _ q => Aware before q ∧ q.game.moving.truth = false) never p := by
  unfold ColorChase.turn
  unfold tracks at hlost
  rw [wp_bind, wp_state, wp_ite]
  cases hrun : p.game.running.truth with
  | true =>
    rw [hrun, Bool.true_and, Bool.not_eq_false'] at hlost
    rw [if_pos rfl, if_pos hlost]
    exact hp.rest
  | false =>
    rw [if_neg Bool.false_ne_true, wp_bind]
    refine wp_of_total hp.rest fun _ q hq => ?_
    refine wp_of_total hq.1.pause fun _ t ht => ⟨ht.1, ?_⟩
    rw [ht.2]
    exact hq.2

theorem Aware.turn_of_tracked (htracks : p.game.tracks) :
    wp turn (fun _ q => Aware (before && !p.game.follows.truth) q) (fun _ q => Aware before q)
      p := by
  obtain ⟨hrun, hseen⟩ := Bool.and_eq_true_iff.mp htracks
  rw [Bool.not_eq_true'] at hseen
  unfold ColorChase.turn
  rw [wp_bind, wp_state, if_pos hrun, if_neg (ne_true_of_eq_false hseen), wp_bind]
  refine wp_mono (kept_follow.wp ⟨{ hp.rig with motors := rfl }, rfl, rfl⟩) (fun _ q hq => ?_)
    fun _ q hq => hp.kept hq
  rw [wp_bind, wp_state, hq.game.2]
  cases p.game.follows.truth with
  | false =>
    rw [Bool.not_false, Bool.and_true]
    exact wp_of_total (hp.kept hq).pause fun _ _ ht => ht.1
  | true =>
    rw [Bool.not_true, Bool.and_false]
    change wp (_ >>= _) _ _ _
    rw [wp_bind]
    refine wp_mono (approach_noted hp.rig.motors hq) (fun _ t ht => ?_) fun _ t ht => hp.kept ht
    have hnoted : Aware false t :=
      ⟨ht.1, nofun, fun hmov => by cases ht.2.symm.trans hmov⟩
    exact wp_of_total hnoted.pause fun _ _ hpaused => hpaused.1

theorem Aware.turn : Aware (Incident.turn.adrift p before) (ColorChase.turn.after p) := by
  unfold Incident.adrift
  cases htracks : p.game.tracks with
  | false =>
    rw [Bool.false_and, Bool.false_and, Bool.not_false, Bool.and_true]
    exact wp_after_iff.mp (wp_of_total (hp.turn_of_untracked htracks) fun _ _ hq => hq.1)
  | true =>
    refine wp_completes (P := fun done => Aware (before && !(p.game.follows.truth && done)))
      (wp_mono (hp.turn_of_tracked htracks) (fun _ q hq => ?_) fun _ q hq => ?_)
    · rw [Bool.and_true]
      exact hq
    · rw [Bool.and_false, Bool.not_false, Bool.and_true]
      exact hq

/-! ### The whole course -/

theorem Aware.stop :
    Aware (!decide (AtRest p.rig.board.motors) && !ColorChase.stop.completes p)
      (ColorChase.stop.after p) := by
  refine wp_completes (P := fun done => Aware (!decide (AtRest p.rig.board.motors) && !done))
    (wp_mono (stop_forgot hp.rig.motors { hp.rig with motors := rfl }) (fun _ q hq => ?_)
      fun _ q hq => ?_)
  · rw [Bool.not_true, Bool.and_false]
    exact Aware.of_atRest hq
  · rw [Bool.not_false, Bool.and_true]
    exact Aware.of_forgot hp.rig.motors hq

theorem Aware.occur (i : Incident) : Aware (i.adrift p before) (i.occur.after p) := by
  have hrig : Working (· = p.rig.board.motors) p.rig := { hp.rig with motors := rfl }
  cases i with
  | prepare => exact Aware.of_forgot hp.rig.motors (wp_after_iff.mp (prepare_forgot hrig))
  | start => exact Aware.of_forgot hp.rig.motors (wp_after_iff.mp (start_forgot hrig))
  | stop | leave => exact hp.stop
  | targets colors => exact { hp with }
  | following on =>
    refine wp_after_iff.mp ((wp_bind ..).mpr ?_)
    exact wp_of_total (hp.following on) fun _ _ hq => hq
  | picture frame =>
    exact wp_after_iff.mp (hp.of_kept (.map (kept_watch frame)))
  | wait seconds => exact ⟨{ hp.rig with }, hp.unnoted, hp.stance⟩
  | turn => exact hp.turn

theorem Aware.runAll (course : List Incident) :
    Aware (adrift course p before) (runAll Incident.occur course p) := by
  induction course generalizing before p with
  | nil => exact hp
  | cons i rest ih => exact ih (hp.occur i)

end

end

/-- Without a note that they turn the wheels are at rest, and a turn without a target comes to its
end and leaves them at rest, whatever has happened to the game before; unless the vehicle is adrift:
then they turn. -/
theorem atRest_without_target_iff {rig : Rig} (hrig : Working AtRest rig) (files : ConfigFiles)
    (sonar : Option Sonar) (course : List Incident) {p : Play ColorChase}
    (hp : runAll Incident.occur course ⟨rig, files, sonar, {}⟩ = p) :
    (p.game.moving.truth = false → (AtRest p.rig.board.motors ↔
      adrift course ⟨rig, files, sonar, {}⟩ false = false)) ∧
    (p.game.tracks = false → ∃ q, turn p = .ok () q ∧ (AtRest q.rig.board.motors ↔
      adrift course ⟨rig, files, sonar, {}⟩ false = false)) := by
  have hstart : Aware false ⟨rig, files, sonar, {}⟩ := Aware.of_atRest hrig
  have haware := hstart.runAll course
  rw [hp] at haware
  refine ⟨haware.stance, fun hlost => ?_⟩
  obtain ⟨_, q, hq, hafter⟩ := wp_false_iff.mp (haware.turn_of_untracked hlost)
  exact ⟨q, hq, hafter.1.stance hafter.2⟩

/-- A chase that was just started stands still. -/
theorem atRest_after_start :
    let p := runAll Incident.occur [.prepare, .start, .following (.bool true)] ⟨{}, {}, none, {}⟩
    (p.game.running.truth = true ∧ p.game.tracks = false) ∧
      ∃ q, turn p = .ok () q ∧ AtRest q.rig.board.motors := by
  intro p
  have hrunning : p.game.running.truth = true := by decide +kernel
  have hlost : p.game.tracks = false := by decide +kernel
  obtain ⟨q, hq, hrest⟩ := (atRest_without_target_iff
    ⟨by decide, rfl, rfl, by decide +kernel, rfl, rfl⟩ {} none _ rfl).2 hlost
  exact ⟨⟨hrunning, hlost⟩, q, hq, hrest.mpr (by decide +kernel)⟩

/-- A chase that is started anew while it drives after a blob goes on driving without one. -/
theorem not_atRest_after_restart :
    let ready := runAll Incident.occur [.prepare, .start, .following (.bool true)]
      ⟨{}, {}, none, {}⟩
    let chasing : Play ColorChase := { ready with
      rig := { ready.rig with board := { motors := List.replicate 4 (.int 58) } }
      game := { ready.game with centerX := .int 329, centerY := .int 229, moving := .bool true } }
    let p := runAll Incident.occur [.start] chasing
    (chasing.game.tracks = true ∧ p.game.tracks = false) ∧ p.game.moving.truth = false ∧
      turn.completes p = true ∧ ¬ AtRest (turn.after p).rig.board.motors := by
  decide +kernel

end ColorChase

namespace FaceChase

open Play (Holds)

/-- What can happen to the game: its steps, pictures with faces, faults on the bus, the passing of
time, and the turns of the motion. -/
inductive Incident where
  | prepare | start | stop | leave | interrupt
  | picture (frame : Option Raster) (faces : List (Float × Float × Float × Float))
  | faults (count : Int)
  | wait (seconds : Float)
  | turn

def Incident.occur : Incident → M Unit
  | prepare => FaceChase.prepare
  | start => FaceChase.start
  | stop | leave => FaceChase.stop
  | interrupt => FaceChase.interrupt
  | picture frame faces => do
    modify fun p => { p with rig := { p.rig with faces } }
    let _ ← watch frame
  | faults count => modify fun p => { p with rig := { p.rig with pendingFaults := count } }
  | wait seconds => modify fun p => { p with rig := { p.rig with clock := p.rig.clock + seconds } }
  | turn => FaceChase.turn

def tracks (s : FaceChase) : Bool :=
  s.running.truth && !s.centerX.same (.int (-1)) && !s.centerY.same (.int (-1))

structure Noted (p : Play FaceChase) : Prop where
  limits : p.rig.Unlimited
  motors : FourMotors p.rig.board.motors
  stance : p.game.moving.truth = false → AtRest p.rig.board.motors

abbrev Kept (records : List Value) (note : Value) : Play FaceChase → Prop :=
  Holds (Rig.Idle records) fun s => s.moving = note

abbrev Chasing (records : List Value) (note : Value) : Play FaceChase → Prop :=
  Holds (Rig.Idle records) fun s => s.moving = note ∧ s.tracks

section
variable {p q : Play FaceChase} {records : List Value} {note : Value}

theorem Noted.kept (hp : Noted p) (hq : Kept p.rig.board.motors p.game.moving q) : Noted q := by
  have hmot : q.rig.board.motors = p.rig.board.motors := hq.rig.motors
  refine ⟨hq.rig.toUnlimited, ?_, ?_⟩
  · rw [hmot]
    exact hp.motors
  · rw [hq.game, hmot]
    exact hp.stance

theorem Noted.idle (hp : Noted p) : Rig.Idle p.rig.board.motors p.rig :=
  { hp.limits with motors := rfl }

theorem noted_of_kept {α : Type} {op : M α} (h : ∀ records note, Keeps (Kept records note) op) :
    Keeps Noted op := by
  rw [keeps_iff_wp]
  intro p hp
  exact wp_mono ((h _ _).wp ⟨hp.idle, rfl⟩) (fun _ _ hq => hp.kept hq) fun _ _ hq => hp.kept hq

theorem Noted.of_atRest (hlims : p.rig.Unlimited) (hrest : AtRest p.rig.board.motors) : Noted p :=
  ⟨hlims, hrest.1, fun _ => hrest⟩

/-! ### The steps -/

instance {α : Type} {op : M α} [∀ records note, Safe True (Kept records note) op] :
    Safe True Noted op := .base (noted_of_kept fun _ _ => .of_parts)

theorem Noted.halt (hp : Noted p) :
    wp (Play.onRig halt)
      (fun _ q => q.game = p.game ∧ q.rig.Unlimited ∧ AtRest q.rig.board.motors ∧
        p.rig.pendingFaults ≤ 1)
      (fun _ q => Noted q ∧ ¬ p.rig.pendingFaults ≤ 1) p := by
  rw [wp_onRig, wp_halt hp.motors, ← Rig.attempt?_isSome]
  cases htry : p.rig.attempt? with
  | none => exact ⟨hp.kept ⟨{ hp.limits with motors := rfl }, rfl⟩, Bool.false_ne_true⟩
  | some s =>
    have hrest := (WheelSpeeds.atRest_records (w := ⟨0, 0, 0, 0⟩)).mpr rfl
    obtain ⟨-, rfl | rfl⟩ := Rig.attempt?_cases htry
    · exact ⟨rfl, { hp.limits with }, hrest, rfl⟩
    · exact ⟨rfl, { hp.limits with }, hrest, rfl⟩

instance : Safe True Noted (Play.onRig halt) := by
  refine .base (keeps_iff_wp.mpr fun p hp => ?_)
  exact wp_mono hp.halt (fun _ q hq => .of_atRest hq.2.1 hq.2.2.1) fun _ _ hq => hq.1

theorem noted_watch (frame : Option Raster) : Keeps Noted (watch frame) := by
  unfold watch lose notice
  refine noted_of_kept fun records note => .state fun _ => .ite ?_ (.pure _)
  refine .except fun _ => .except fun picture => .bind .get fun p => ?_
  cases p.rig.faces <;> exact .of_parts

/-! ### One turn -/

theorem tracks_middle {x : Float} (hx : Value.same (.float x) (.int (-1)) = false) {s : FaceChase}
    (h : s.tracks) :
    tracks { s with centerX := .float x } ∧ tracks { s with centerY := .float x } := by
  unfold tracks at h ⊢
  simp only [Bool.and_eq_true] at h
  simp only [hx, h.1.1, h.1.2, h.2]
  exact ⟨rfl, rfl⟩

theorem chasing_follow : Keeps (Chasing records note) follow := by
  have hx (s : FaceChase) : Leads (s.moving = note ∧ s.tracks)
      (s.moving = note ∧ tracks { s with centerX := .float 320 }) :=
    ⟨fun hs => ⟨hs.1, (tracks_middle (by decide +kernel) hs.2).1⟩⟩
  have hy (s : FaceChase) : Leads (s.moving = note ∧ s.tracks)
      (s.moving = note ∧ tracks { s with centerY := .float 240 }) :=
    ⟨fun hs => ⟨hs.1, (tracks_middle (by decide +kernel) hs.2).2⟩⟩
  unfold Chasing follow
  unfold tracks at *
  exact .of_parts

theorem approach_noted (hfour : FourMotors records) (hp : Chasing records note p) :
    wp approach
      (fun _ q => q.rig.Unlimited ∧ FourMotors q.rig.board.motors ∧ q.game.moving.truth ∧
        q.game.tracks)
      (fun _ q => Chasing records note q) p := by
  unfold approach
  rw [wp_bind, wp_state]
  have hcontrol (s : FaceChase) (c : Pid Value) : Leads (s.moving = note ∧ s.tracks)
      (s.moving = note ∧ tracks { s with distance := c }) := ⟨id⟩
  have hcontrol (s : FaceChase) (c : Pid Value) : Leads (s.moving = note ∧ s.tracks)
      (s.moving = note ∧ tracks { s with sideways := c }) := ⟨id⟩
  refine wp_bind_of_keeps (.ofExcept _) hp fun _ q₁ h₁ => ?_
  refine wp_ite_bind_of_keeps (.pure _) (.ofExcept _) h₁ fun _ q₂ h₂ => ?_
  iterate 4 refine wp_bind_of_keeps .of_parts ‹_› fun _ _ _ => ?_
  refine wp_bind_of_keeps .of_parts ‹_› fun _ q h => ?_
  have hmot : q.rig.board.motors = records := h.rig.motors
  rw [wp_bind, wp_onRig]
  refine wp_mono (Chassis.translate_outcome {} _ _ (hmot ▸ hfour)) ?_ ?_
  · rintro _ r ⟨w, s, hs, rfl⟩
    obtain ⟨-, rfl | rfl⟩ := Rig.attempt?_cases hs
    · exact ⟨{ h.rig.toUnlimited with }, w.fourMotors_records, rfl, h.game.2⟩
    · exact ⟨{ h.rig.toUnlimited with }, w.fourMotors_records, rfl, h.game.2⟩
  · rintro _ r (rfl | ⟨-, rfl⟩)
    · exact h
    · exact ⟨{ h.rig with }, h.game⟩

theorem turn_eq : turn = Play.state >>= fun s =>
    if s.tracks then follow >>= fun _ => approach
    else rest >>= fun _ => liftM (pause 0.01) := rfl

theorem Noted.turn_of_tracked (hp : Noted p) (htracks : p.game.tracks) :
    wp turn (fun _ q => Noted q ∧ q.game.tracks) (fun _ q => Noted q) p := by
  have hchasing : Chasing p.rig.board.motors p.game.moving p := ⟨hp.idle, rfl, htracks⟩
  have hkept : ∀ q, Chasing p.rig.board.motors p.game.moving q → Noted q :=
    fun q hq => hp.kept ⟨hq.rig, hq.game.1⟩
  rw [turn_eq, wp_bind, wp_state, if_pos htracks, wp_bind]
  refine wp_mono (chasing_follow.wp hchasing) (fun _ q hq => ?_) fun _ q hq => hkept q hq
  refine wp_mono (approach_noted hp.motors hq) (fun _ t ht => ?_) fun _ t ht => hkept t ht
  obtain ⟨hlims, hmot, hnoted, hstill⟩ := ht
  exact ⟨⟨hlims, hmot, fun hmov => by cases hnoted.symm.trans hmov⟩, hstill⟩

theorem Noted.rest (hp : Noted p) :
    wp rest (fun _ q => q.rig.Unlimited ∧ AtRest q.rig.board.motors ∧
        (p.game.moving.truth → p.rig.pendingFaults ≤ 1))
      (fun _ q => Noted q ∧ ¬ (p.game.moving.truth → p.rig.pendingFaults ≤ 1)) p := by
  unfold FaceChase.rest
  rw [wp_bind, wp_state]
  cases hmov : p.game.moving.truth with
  | false => exact ⟨hp.limits, hp.stance hmov, nofun⟩
  | true =>
    change wp (_ >>= _) _ _ _
    rw [wp_bind, liftM_rig]
    refine wp_mono hp.halt (fun _ q hq => ?_) fun _ q hq => ⟨hq.1, fun h => hq.2 (h rfl)⟩
    exact ⟨hq.2.1, hq.2.2.1, fun _ => hq.2.2.2⟩

theorem Noted.turn_of_untracked (hp : Noted p) (hlost : p.game.tracks = false) :
    wp turn (fun _ q => Noted q ∧ AtRest q.rig.board.motors ∧
        (p.game.moving.truth → p.rig.pendingFaults ≤ 1))
      (fun _ q => Noted q ∧ ¬ (p.game.moving.truth → p.rig.pendingFaults ≤ 1)) p := by
  rw [turn_eq, wp_bind, wp_state, if_neg (ne_true_of_eq_false hlost), wp_bind]
  refine wp_post hp.rest fun _ q hq => ?_
  obtain ⟨hlims, hrest, hfaults⟩ := hq
  have hsec := Rig.sleepLength_float (x := 0.01) (by decide +kernel) (by decide +kernel)
  rw [liftM_rig, wp_onRig]
  refine (Rig.wp_sleep_of_unlimited hlims hsec).mpr ⟨?_, hrest, hfaults⟩
  exact Noted.of_atRest { hlims with } hrest

theorem noted_turn : Keeps Noted turn := by
  rw [keeps_iff_wp]
  intro p hp
  cases htracks : p.game.tracks with
  | true => exact wp_post (hp.turn_of_tracked htracks) fun _ _ hq => hq.1
  | false =>
    exact wp_mono (hp.turn_of_untracked htracks) (fun _ _ hq => hq.1) fun _ _ hq => hq.1

/-! ### The whole course -/

theorem noted_occur (i : Incident) : Keeps Noted i.occur := by
  have hrig {p : Play FaceChase} (hp : Noted p) {r : Rig} (hr : Rig.Idle p.rig.board.motors r) :
      Noted { p with rig := r } := hp.kept ⟨hr, rfl⟩
  cases i with
  | picture frame faces =>
    exact .bind (.modify fun p hp => hrig hp { hp.idle with }) fun _ => .map (noted_watch frame)
  | faults | wait => exact .modify fun p hp => hrig hp { hp.idle with }
  | turn => exact noted_turn
  | _ =>
    dsimp only [Incident.occur, FaceChase.prepare, load, FaceChase.start, FaceChase.stop,
      FaceChase.interrupt, reset, lose, aim]
    exact .of_parts

end

/-- Whatever has happened to the game and failed on the bus, the wheels are at rest without a note
that they turn, and after every turn that ends without a face to chase. A turn without a face
comes to its end unless two faults keep it from stopping the wheels. -/
theorem atRest_without_face {rig : Rig} (hlimits : rig.Unlimited) (hrig : AtRest rig.board.motors)
    (files : ConfigFiles) (sonar : Option Sonar) (course : List Incident) {p : Play FaceChase}
    (hp : runAll Incident.occur course ⟨rig, files, sonar, {}⟩ = p) :
    (p.game.moving.truth = false → AtRest p.rig.board.motors) ∧
    (∀ q, turn p = .ok () q → q.game.tracks = false → AtRest q.rig.board.motors) ∧
    (p.game.tracks = false → (turn.completes p = true ↔
      (p.game.moving.truth = true → p.rig.pendingFaults ≤ 1))) := by
  have hstart : Noted ⟨rig, files, sonar, {}⟩ := Noted.of_atRest hlimits hrig
  have hnoted : Noted p := hp ▸ runAll_keeps noted_occur course hstart
  refine ⟨hnoted.stance, fun q hq hlost => ?_, fun hlost => ?_⟩
  · cases htracks : p.game.tracks with
    | true =>
      have hstill := ((wp_of_ok hq).mp (hnoted.turn_of_tracked htracks)).2
      cases hstill.symm.trans hlost
    | false => exact ((wp_of_ok hq).mp (hnoted.turn_of_untracked htracks)).2.1
  · have hturn := hnoted.turn_of_untracked hlost
    cases hcompletes : turn.completes p with
    | true =>
      obtain ⟨q, hq⟩ := exists_ok_of_completes hcompletes
      exact iff_of_true rfl ((wp_of_ok hq).mp hturn).2.2
    | false =>
      obtain ⟨e, q, hq⟩ := exists_error_of_not_completes hcompletes
      exact iff_of_false Bool.false_ne_true ((wp_of_error hq).mp hturn).2

/-- Faults on the bus that are pending while the wheels are at rest do not matter. -/
theorem atRest_with_faults :
    let p := runAll Incident.occur [.prepare, .start, .faults 2] ⟨{}, {}, none, {}⟩
    (Rig.Unlimited {} ∧ AtRest ({} : Rig).board.motors) ∧ p.game.running.truth = true ∧
      turn.completes p = true ∧ ∀ q, turn p = .ok () q → q.game.tracks = false →
        AtRest q.rig.board.motors := by
  intro p
  have hrest : AtRest ({} : Rig).board.motors := by decide +kernel
  have hnote : p.game.moving.truth = false := by decide +kernel
  have hlost : p.game.tracks = false := by decide +kernel
  obtain ⟨-, hturn, hcompletes⟩ := atRest_without_face ⟨rfl, rfl⟩ hrest {} none
    [.prepare, .start, .faults 2] (p := p) rfl
  refine ⟨⟨⟨rfl, rfl⟩, hrest⟩, by decide +kernel, (hcompletes hlost).mpr fun h => ?_, hturn⟩
  cases hnote.symm.trans h

end FaceChase

end Rover
