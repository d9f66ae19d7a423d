import Rover.Proofs.Games.Hardware
import Rover.Proofs.Sensors

/-!
# Waiting at a red light

The runner stops the wheels where it remembers that it has set them in motion. But starting the
game sets them in motion without a note of it, so that the vehicle runs headlong over a red light
and over a black area until it has steered once.
-/

namespace Rover

open Games

open Play (liftM_rig wp_onRig)
open Chassis (AtRest)
variable {E : Exit → Rig → Prop} {r : Rig}

/-! ## The eyes -/

namespace LineSensor

def coming (r : Rig) : Result (List Bool) := do
  let reading := r.line.next.1
  return [← sees reading 1, ← sees reading 2, ← sees reading 4, ← sees reading 8]

theorem wp_read {Q : List Bool → Rig → Prop} (h : r.pendingFaults ≤ 0) :
    wp read Q E r ↔ match coming r with
      | .ok eyes => Q eyes { r with line := r.line.next.2 }
      | .error f => E (.fault f) { r with line := r.line.next.2 } := by
  unfold read Rig.readLine coming
  simp only [wp_bind, Rig.wp_meetFault h, wp_get, wp_modify, wp_pure, liftM_except, wp_ofExcept]
  cases sees r.line.next.1 1 with
  | error f => rfl
  | ok first =>
  cases sees r.line.next.1 2 with
  | error f => rfl
  | ok second =>
  cases sees r.line.next.1 4 with
  | error f => rfl
  | ok third => cases sees r.line.next.1 8 <;> rfl

end LineSensor

theorem Games.wp_light {Q : PUnit → Rig → Prop} (name : Value) :
    wp (light name) Q E r ↔ Q ⟨⟩ { r with events :=
      ((r.events.push (.lamp 0 (.int (lampColor name)))).push
        (.lamp 1 (.int (lampColor name)))).push .lampsShown } := Iff.rfl

theorem Games.beep_completes {P : List Value → Prop} (hr : Working P r) :
    wp (beep (.float 0.1)) (fun _ t => Working P t) never r := by
  unfold beep Board.setBuzzer
  simp only [wp_bind, wp_emit]
  generalize hlouder : ({ r with events := _ } : Rig) = s
  have hs : Working P s := by
    rw [← hlouder]
    exact { hr with }
  exact wp_of_total (sleep_completes hs (by decide +kernel) (by decide +kernel))
    fun _ _ ht => { ht with }

namespace TrackRunner

open LineSensor (coming)
variable {eyes : List Bool} {rate : Value}

/-! ## Driving ahead -/

theorem wheelSpeeds_straight :
    Chassis.wheelSpeeds (Value.int 67) (.int 59) speed (.int 90) (.int 0) = .ok ⟨35, 35, 35, 35⟩ :=
  eq_ok_of_toOption (by decide +kernel)

theorem wheelSpeeds_of_steering (h : steering eyes = some rate) :
    ∃ w, Chassis.wheelSpeeds (Value.int 67) (.int 59) speed (.int 90) rate = .ok w := by
  unfold steering at h
  split at h <;> cases h
  all_goals exact exists_ok_of_isOk (by decide +kernel)

theorem wp_forward {w : WheelSpeeds}
    (hw : Chassis.wheelSpeeds (Value.int 67) (.int 59) speed (.int 90) rate = .ok w)
    (hr : Working FourMotors r) {Q : Unit → Rig → Prop} :
    wp (forward rate) Q E r ↔ Q () (w.turned r) :=
  wp_drive_of_working hw hr

/-! ## The course of the game -/

/-- What can happen to the game: its steps, pictures, other readings of the line sensor, and the
turns of the motion. -/
inductive Incident where
  | prepare | start | stop | leave
  | picture (frame : Option Raster)
  | line (readings : Feed)
  | turn

def Incident.occur : Incident → M Unit
  | prepare => TrackRunner.prepare
  | start => TrackRunner.start
  | stop | leave => TrackRunner.stop
  | picture frame => do let _ ← watch frame
  | line readings => modify fun p => { p with rig := { p.rig with line := readings } }
  | turn => TrackRunner.turn

def goesOn (p : Play TrackRunner) : Bool :=
  match coming p.rig with
  | .ok eyes => p.game.running.truth && !p.game.poll.elected.same (.str "red") &&
      ((steering eyes).isSome || p.game.poll.elected.same (.str "green"))
  | .error _ => false

/-- Whether the vehicle runs headlong after an incident: it does once it has been started, until a
turn has it go on or the game is made ready again or stopped. -/
def Incident.headlong (p : Play TrackRunner) (before : Bool) : Incident → Bool
  | prepare | stop | leave => false
  | start => TrackRunner.start.completes p
  | picture _ | line _ => before
  | turn => before && !goesOn p

def headlong : List Incident → Play TrackRunner → Bool → Bool
  | [], _, before => before
  | i :: rest, p, before => headlong rest (i.occur.after p) (i.headlong p before)

def Furnished (files : ConfigFiles) (_ : Bool) : Prop := Placed files.servos

/-- What the runner remembers of the wheels is right, unless it runs headlong. -/
structure Aware (headlong : Bool) (p : Play TrackRunner) : Prop where
  fit : p.Fit FourMotors Furnished
  running : ∃ b, p.game.running = .bool b
  moving : ∃ b, p.game.moving = .bool b
  settings : Placed p.game.servos ∨
    p.game.servos = .none ∧ p.game.running = .bool false ∧ AtRest p.rig.board.motors
  unnoted : headlong → p.game.running = .bool true ∧ p.game.moving = .bool false
  stance : p.game.moving = .bool false → (AtRest p.rig.board.motors ↔ headlong = false)

section
variable {h : Bool} {p : Play TrackRunner}

section

variable (hp : Aware h p)
include hp

theorem Aware.of_moving (hmov : p.game.moving = .bool true) : h = false := by
  cases h with
  | false => rfl
  | true =>
    rw [(hp.unnoted rfl).2] at hmov
    cases hmov

theorem Aware.placed (hrun : p.game.running = .bool true) : Placed p.game.servos := by
  refine hp.settings.resolve_right ?_
  rintro ⟨-, hidle, -⟩
  rw [hrun] at hidle
  cases hidle

theorem Aware.poll (poll : Poll) : Aware h { p with game := { p.game with poll } } :=
  { hp with fit := ⟨hp.fit.rig, hp.fit.kit⟩ }

theorem Aware.rig (hr : Working (fun motors => motors = p.rig.board.motors) r) :
    Aware h { p with rig := r } := by
  have hmot : r.board.motors = p.rig.board.motors := hr.motors
  refine ⟨⟨hr.mono fun motors heq => ?_, hp.fit.kit⟩, hp.running, hp.moving, ?_, hp.unnoted, ?_⟩
  · rw [heq]
    exact hp.fit.rig.motors
  · rw [hmot]
    exact hp.settings
  · rw [hmot]
    exact hp.stance

theorem Aware.onRig {op : Op Rig Unit}
    (hop : ∀ {P r}, Working P r → wp op (fun _ t => Working P t) never r) :
    wp (Play.onRig op) (fun _ q => Aware h q ∧ q.game = p.game) never p := by
  have hkept := hop (P := fun motors => motors = p.rig.board.motors)
    { hp.fit.rig with motors := rfl }
  rw [wp_onRig]
  exact wp_of_total hkept fun _ r hr => ⟨hp.rig hr, rfl⟩

theorem Aware.pause :
    wp (Play.onRig (pause 0.01)) (fun _ q => Aware h q ∧ q.game = p.game) never p :=
  hp.onRig fun hr => sleep_completes hr (by decide +kernel) (by decide +kernel)

theorem Aware.atRest (hr : Working AtRest r) :
    Aware false { p with rig := r, game := { p.game with moving := .bool false } } := by
  refine ⟨⟨hr.mono fun _ hmot => hmot.1, hp.fit.kit⟩, hp.running, ⟨_, rfl⟩, ?_, nofun, ?_⟩
  · exact hp.settings.imp_right fun hnone => ⟨hnone.1, hnone.2.1, hr.motors⟩
  · exact fun _ => iff_of_true hr.motors rfl

theorem Aware.halt :
    wp (Play.onRig halt) (fun _ q => q.game = p.game ∧
        Aware false { q with game := { q.game with moving := .bool false } }) never p := by
  rw [wp_onRig]
  exact wp_of_total (halt_completes hp.fit.rig) fun _ r hr => ⟨rfl, hp.atRest hr⟩

theorem Aware.advance (hrun : p.game.running = .bool true) {w : WheelSpeeds}
    (hw : Chassis.wheelSpeeds (Value.int 67) (.int 59) speed (.int 90) rate = .ok w) :
    wp (advance rate) (fun _ q => Aware false q ∧ q.game = { p.game with moving := .bool true })
      never p := by
  unfold TrackRunner.advance
  have hrig : Working FourMotors (w.turned p.rig) :=
    { hp.fit.rig with motors := w.fourMotors_records }
  rw [wp_bind, liftM_rig, wp_onRig, wp_forward hw hp.fit.rig]
  refine ⟨?_, rfl⟩
  exact ⟨⟨hrig, hp.fit.kit⟩, hp.running, ⟨_, rfl⟩, .inl (hp.placed hrun), nofun, nofun⟩

theorem Aware.rest :
    wp rest (fun _ q => Aware h q ∧ q.game = { p.game with moving := .bool false }) never p := by
  obtain ⟨b, hmov⟩ := hp.moving
  unfold TrackRunner.rest
  rw [wp_bind, wp_state, hmov]
  cases b with
  | true =>
    rw [hp.of_moving hmov]
    change wp (_ >>= _) _ _ _
    rw [wp_bind, liftM_rig]
    refine wp_of_total hp.halt fun _ q hq => ⟨hq.2, ?_⟩
    rw [← hq.1]
  | false =>
    refine ⟨hp, ?_⟩
    rw [← hmov]

end

/-! ## One turn -/

def noted (eyes : List Bool) (moving : Value) : Value :=
  if (steering eyes).isSome then .bool true else if eyes.all id then .bool false else moving

theorem Aware.steer (hp : Aware h p) (hrun : p.game.running = .bool true) (eyes : List Bool) :
    wp (steer eyes) (fun _ q => Aware (h && (steering eyes).isNone) q ∧
        q.game = { p.game with moving := noted eyes p.game.moving }) never p := by
  unfold TrackRunner.steer noted
  cases hsteering : steering eyes with
  | some rate =>
    obtain ⟨w, hw⟩ := wheelSpeeds_of_steering hsteering
    simp only [Option.isNone_some, Bool.and_false, Option.isSome_some, if_true]
    exact hp.advance hrun hw
  | none =>
    simp only [Option.isNone_none, Bool.and_true, Option.isSome_none, Bool.false_eq_true, if_false]
    split
    · rw [wp_bind]
      refine wp_of_total hp.rest fun _ q hq => ?_
      refine wp_of_total hq.1.pause fun _ t ht => ⟨ht.1, ht.2.trans hq.2⟩
    · exact ⟨hp, rfl⟩

theorem goesOn_of_coming (hrun : p.game.running = .bool true)
    (hred : p.game.poll.elected.same (.str "red") = false) (hcoming : coming p.rig = .ok eyes) :
    goesOn p = ((steering eyes).isSome || p.game.poll.elected.same (.str "green")) := by
  unfold goesOn
  rw [hcoming, hrun, hred]
  rfl

theorem Aware.follow (hp : Aware h p) (hrun : p.game.running = .bool true)
    (hred : p.game.poll.elected.same (.str "red") = false) :
    wp follow (fun _ q => Aware (h && !goesOn p) q ∧
        (p.game.poll.elected.same (.str "green") = false → ∀ eyes,
          coming p.rig = .ok eyes → q.game.moving = noted eyes p.game.moving))
      (fun _ q => Aware (h && !goesOn p) q ∧ ∀ eyes, coming p.rig ≠ .ok eyes) p := by
  unfold TrackRunner.follow
  rw [wp_bind, wp_state, wp_bind, liftM_rig, wp_onRig, wp_light, wp_bind, liftM_rig, wp_onRig]
  refine (LineSensor.wp_read (by exact hp.fit.rig.faults)).mpr ?_
  change match coming p.rig with | .ok eyes => _ | .error f => _
  cases hcoming : coming p.rig with
  | error f =>
    have hgoes : goesOn p = false := by
      unfold goesOn
      rw [hcoming]
    rw [hgoes, Bool.not_false, Bool.and_true]
    exact ⟨hp.rig { hp.fit.rig with motors := rfl }, nofun⟩
  | ok eyes =>
    simp only
    rw [goesOn_of_coming hrun hred hcoming, wp_bind]
    refine wp_mono (Aware.steer (p := { p with rig := _ }) (hp.rig ?_) ?_ eyes)
      (fun _ q hq => ?_) fun _ _ hfalse => False.elim hfalse
    · exact { hp.fit.rig with motors := rfl }
    · exact hrun
    obtain ⟨hq, hgame⟩ := hq
    obtain ⟨b, hmov⟩ := hq.moving
    have helected : q.game.poll.elected = p.game.poll.elected := by rw [hgame]
    have hnoted : q.game.moving = noted eyes p.game.moving := by rw [hgame]
    have hnone : (!(steering eyes).isSome) = (steering eyes).isNone := by simp
    rw [wp_bind, wp_state, wp_bind, wp_state, helected, hmov]
    cases p.game.poll.elected.same (.str "green") with
    | false =>
      rw [Bool.or_false, hnone]
      refine ⟨hq, fun _ eyes' heyes => ?_⟩
      cases heyes
      exact hnoted
    | true =>
      rw [Bool.or_true, Bool.not_true, Bool.and_false]
      refine wp_of_total (Q := fun _ q => Aware false q) ?_ fun _ t ht => ⟨ht, nofun⟩
      cases b with
      | true =>
        rw [hq.of_moving hmov] at hq
        exact hq
      | false =>
        have hrun' : q.game.running = .bool true := by
          rw [hgame]
          exact hrun
        exact wp_of_total (hq.advance hrun' wheelSpeeds_straight) fun _ _ ht => ht.1

theorem Aware.wait (hp : Aware h p) :
    wp wait (fun _ q => Aware h q ∧ q.game = { p.game with moving := .bool false }) never p := by
  obtain ⟨b, hmov⟩ := hp.moving
  unfold TrackRunner.wait
  rw [wp_bind, wp_state, hmov]
  cases b with
  | true =>
    have hlight : ∀ name, ∀ {P r}, Working P r →
        wp (light name) (fun _ t => Working P t) never r :=
      fun _ _ _ hr => { hr with }
    rw [hp.of_moving hmov]
    change wp (_ >>= _) _ _ _
    rw [wp_bind, liftM_rig]
    refine wp_of_total (hp.onRig beep_completes) fun _ q hq => ?_
    rw [wp_bind, wp_state, wp_bind, liftM_rig]
    refine wp_of_total (hq.1.onRig (hlight _)) fun _ s hs => ?_
    rw [wp_bind, liftM_rig]
    refine wp_of_total hs.1.halt fun _ t ht => ?_
    refine wp_of_total ht.2.pause fun _ u hu => ⟨hu.1, ?_⟩
    rw [hu.2, ht.1, hs.2, hq.2]
  | false =>
    refine wp_of_total hp.pause fun _ q hq => ⟨hq.1, hq.2.trans ?_⟩
    rw [← hmov]

def held (p : Play TrackRunner) : Bool :=
  p.game.poll.elected.same (.str "red") || match coming p.rig with
    | .ok eyes => p.game.poll.elected.same (.str "None") && eyes.all id
    | .error _ => false

theorem held_cases (hheld : held p) : p.game.poll.elected.same (.str "red") ∨
    p.game.poll.elected = .str "None" ∧ ∃ eyes, coming p.rig = .ok eyes ∧ eyes.all id := by
  refine ((Bool.or_eq_true _ _).mp hheld).imp_right fun hblack => ?_
  cases hcoming : coming p.rig with
  | error f =>
    rw [hcoming] at hblack
    cases hblack
  | ok eyes =>
    rw [hcoming] at hblack
    obtain ⟨hcol, hall⟩ := (Bool.and_eq_true _ _).mp hblack
    exact ⟨(Value.same_str_iff _ _).mp hcol, eyes, rfl, hall⟩

theorem steering_of_all (hall : eyes.all id) : steering eyes = none := by
  unfold steering
  split <;> first | rfl | cases hall

theorem goesOn_of_held (hheld : held p) : goesOn p = false := by
  unfold goesOn
  obtain hred | ⟨hcol, eyes, hcoming, hall⟩ := held_cases hheld
  · cases coming p.rig <;> simp [hred]
  · simp [hcol, hcoming, steering_of_all hall, Value.same]

theorem Aware.turn (hp : Aware h p) :
    wp turn (fun _ q => Aware (h && !goesOn p) q ∧
        (p.game.running.truth → held p → q.game.moving = .bool false))
      (fun _ q => Aware (h && !goesOn p) q ∧ held p = false) p := by
  have hstays : goesOn p = false → (h && !goesOn p) = h := by
    intro hgoes
    rw [hgoes, Bool.not_false, Bool.and_true]
  obtain ⟨b, hrun⟩ := hp.running
  unfold TrackRunner.turn
  rw [wp_bind, wp_state, hrun]
  cases b with
  | false =>
    have hgoes : goesOn p = false := by
      unfold goesOn
      rw [hrun]
      cases coming p.rig <;> rfl
    rw [hstays hgoes]
    change wp (_ >>= _) _ _ _
    rw [wp_bind]
    refine wp_of_total hp.rest fun _ q hq => ?_
    exact wp_of_total hq.1.pause fun _ t ht => ⟨ht.1, nofun⟩
  | true =>
    cases hred : p.game.poll.elected.same (.str "red") with
    | true =>
      have hgoes : goesOn p = false := by
        unfold goesOn
        rw [hrun, hred]
        cases coming p.rig <;> rfl
      rw [hstays hgoes]
      exact wp_of_total hp.wait fun _ q hq => ⟨hq.1, fun _ _ => by rw [hq.2]⟩
    | false =>
      have hblack : held p → p.game.poll.elected = .str "None" ∧
          ∃ eyes, coming p.rig = .ok eyes ∧ eyes.all id := by
        intro hheld
        exact (held_cases hheld).resolve_left (ne_true_of_eq_false hred)
      refine wp_mono (hp.follow hrun hred) (fun _ q hq => ⟨hq.1, fun _ hheld => ?_⟩)
        fun _ q hq => ⟨hq.1, ?_⟩
      · obtain ⟨hcol, eyes, hcoming, hall⟩ := hblack hheld
        rw [hq.2 (by rw [hcol]; simp [Value.same]) eyes hcoming]
        unfold noted
        rw [steering_of_all hall, hall]
        rfl
      · refine Bool.eq_false_iff.mpr fun hheld => ?_
        obtain ⟨-, eyes, hcoming, -⟩ := hblack hheld
        exact hq.2 eyes hcoming

/-! ## The steps of the game -/

theorem wp_reset {Q : Unit → Play TrackRunner → Prop} {E : Exit → Play TrackRunner → Prop}
    {tilt pan : Int} (htilt : p.game.servos.subscript (.str "servo1") = .ok (.int tilt))
    (hpan : p.game.servos.subscript (.str "servo2") = .ok (.int pan)) :
    wp reset Q E p ↔ Q () { p with game := { p.game with
      moving := .bool false, poll := p.game.poll.clear, tilt := .int tilt, pan := .int pan } } := by
  unfold reset
  simp [htilt, hpan]

theorem Aware.prepare (hp : Aware h p) : wp prepare (fun _ q => Aware false q) never p := by
  obtain ⟨tilt, pan, htilt, hpan⟩ := hp.fit.kit
  unfold TrackRunner.prepare load aim
  rw [wp_bind, wp_bind, wp_get, Play.wp_update, wp_bind, wp_reset htilt hpan,
    wp_bind, liftM_rig, wp_onRig]
  refine wp_of_total (halt_completes hp.fit.rig) fun _ r hr => ?_
  rw [wp_bind, wp_state, liftM_rig, wp_onRig]
  refine wp_of_total (look_completes hr tilt pan) fun _ r hr => ?_
  exact {
    fit := ⟨hr.mono fun _ hmot => hmot.1, hp.fit.kit⟩
    running := hp.running
    moving := ⟨_, rfl⟩
    settings := .inl hp.fit.kit
    unnoted := nofun
    stance := fun _ => iff_of_true hr.motors rfl }

theorem Aware.start (hp : Aware h p) :
    wp start (fun _ q => Aware true q) (fun _ q => Aware false q) p := by
  unfold TrackRunner.start
  obtain hplaced | ⟨hnone, hidle, hrest⟩ := hp.settings
  · obtain ⟨tilt, pan, htilt, hpan⟩ := hplaced
    rw [wp_bind, wp_reset htilt hpan, wp_bind, Play.wp_update, liftM_rig, wp_onRig,
      wp_forward wheelSpeeds_straight hp.fit.rig]
    exact {
      fit := ⟨{ hp.fit.rig with motors := WheelSpeeds.fourMotors_records _ }, hp.fit.kit⟩
      running := ⟨_, rfl⟩
      moving := ⟨_, rfl⟩
      settings := .inl ⟨tilt, pan, htilt, hpan⟩
      unnoted := fun _ => ⟨rfl, rfl⟩
      stance := fun _ => iff_of_false (mt WheelSpeeds.atRest_records.mp (by decide)) nofun }
  · unfold reset
    rw [wp_bind, wp_bind, Play.wp_update, wp_bind, wp_state, hnone]
    exact {
      fit := ⟨hp.fit.rig, hp.fit.kit⟩
      running := hp.running
      moving := ⟨_, rfl⟩
      settings := .inr ⟨rfl, hidle, hrest⟩
      unnoted := nofun
      stance := fun _ => iff_of_true hrest rfl }

theorem Aware.stop (hp : Aware h p) : wp stop (fun _ q => Aware false q) never p :=
  { fit := ⟨{ hp.fit.rig with }, hp.fit.kit⟩
    running := ⟨_, rfl⟩
    moving := ⟨_, rfl⟩
    settings := hp.settings.imp_right fun hnone => ⟨hnone.1, rfl, hnone.2.2⟩
    unnoted := nofun
    stance := nofun }

theorem Aware.keeps_watch (frame : Option Raster) : Keeps (Aware h) (watch frame) := by
  have hvote : ∀ color, Keeps (Aware h) (vote color) := fun color =>
    .onPart (fun _ _ => trivial) (fun _ poll hp _ => hp.poll poll) (keeps_true _)
  have hpoll : ∀ f : Poll → Poll,
      Keeps (Aware h) (Play.update fun s : TrackRunner => { s with poll := f s.poll }) :=
    fun f _ hp => hp.poll _
  have hjudge : ∀ seen, Keeps (Aware h) (judge seen) := by
    intro seen
    cases seen with
    | none => exact hpoll _
    | some color =>
      refine .bind (hvote color) fun winner => ?_
      cases winner with
      | none => exact .pure _
      | some winner => exact hpoll (·.declare winner)
  refine .state fun s => ?_
  refine .ite ?_ (.pure _)
  refine .except fun _ => .except fun _ => ?_
  refine .except fun seen => ?_
  exact .bind (hjudge seen) fun _ => .state fun _ =>
    .except fun _ => .pure _

/-! ## The whole course -/

theorem Aware.occur (hp : Aware h p) (i : Incident) : Aware (i.headlong p h) (i.occur.after p) := by
  cases i with
  | prepare =>
    exact wp_after_iff.mp (wp_of_total hp.prepare fun _ _ hq => hq)
  | stop | leave =>
    exact wp_after_iff.mp (wp_of_total hp.stop fun _ _ hq => hq)
  | picture frame =>
    have hkeeps : Keeps (Aware h) (do let _ ← watch frame) :=
      .map (Aware.keeps_watch frame)
    exact hkeeps.after hp
  | line readings => exact hp.rig { hp.fit.rig with motors := rfl }
  | turn => exact wp_after_iff.mp (wp_mono hp.turn (fun _ _ hq => hq.1) fun _ _ hq => hq.1)
  | start => exact Op.wp_completes (P := Aware) hp.start

theorem Aware.runAll (hp : Aware h p) (course : List Incident) :
    Aware (headlong course p h) (Op.runAll Incident.occur course p) := by
  induction course generalizing h p with
  | nil => exact hp
  | cons i rest ih => exact ih (hp.occur i)

theorem aware_of_atRest {rig : Rig} {files : ConfigFiles} (hrig : Working AtRest rig)
    (hfiles : Placed files.servos) (sonar : Option Sonar) :
    Aware false ⟨rig, files, sonar, {}⟩ where
  fit := ⟨hrig.mono fun _ hmot => hmot.1, hfiles⟩
  running := ⟨_, rfl⟩
  moving := ⟨_, rfl⟩
  settings := .inr ⟨rfl, rfl, hrig.motors⟩
  unnoted := nofun
  stance := fun _ => iff_of_true hrig.motors rfl

end

/-- A turn in which the runner has to stand comes to its end, and it leaves the wheels at rest
whatever has happened to the game before, unless the vehicle still runs as it was started: then it
runs on. -/
theorem atRest_after_held_turn {rig : Rig} {files : ConfigFiles} (hrig : Working AtRest rig)
    (hfiles : Placed files.servos) (sonar : Option Sonar) (course : List Incident)
    {p : Play TrackRunner}
    (hp : Op.runAll Incident.occur course ⟨rig, files, sonar, {}⟩ = p)
    (hrunning : p.game.running.truth = true) (hheld : held p = true) :
    ∃ q, turn p = .ok () q ∧ (AtRest q.rig.board.motors ↔
      headlong course ⟨rig, files, sonar, {}⟩ false = false) := by
  have haware := (aware_of_atRest hrig hfiles sonar).runAll course
  rw [hp] at haware
  have hturn : wp turn (fun _ q => AtRest q.rig.board.motors ↔
      headlong course ⟨rig, files, sonar, {}⟩ false = false) (fun _ _ => False) p := by
    refine wp_mono haware.turn (fun _ q hq => ?_)
      fun _ _ hq => absurd hheld (ne_true_of_eq_false hq.2)
    have hstance := hq.1.stance (hq.2 hrunning hheld)
    rwa [goesOn_of_held hheld, Bool.not_false, Bool.and_true] at hstance
  obtain ⟨_, q, hq, hrest⟩ := Op.wp_false_iff.mp hturn
  exact ⟨q, hq, hrest⟩

/-- Once the vehicle has steered along the line, it stands where the line ends. -/
theorem atRest_at_end_of_line :
    let p := Op.runAll Incident.occur
      [.prepare, .start, .line ⟨.int 6, []⟩, .turn, .line ⟨.int 15, []⟩] ⟨{}, {}, none, {}⟩
    (p.game.running.truth = true ∧ held p = true) ∧
      ∃ q, turn p = .ok () q ∧ AtRest q.rig.board.motors := by
  intro p
  have hrunning : p.game.running.truth = true := by decide +kernel
  have hheld : held p = true := by decide +kernel
  obtain ⟨q, hq, hrest⟩ := atRest_after_held_turn ⟨by decide, rfl, rfl, by decide +kernel, rfl, rfl⟩
    placed_usualServos none _ rfl hrunning hheld
  exact ⟨⟨hrunning, hheld⟩, q, hq, hrest.mpr (by decide +kernel)⟩

/-- Where there is nothing but black, the vehicle that was just started runs on. -/
theorem not_atRest_on_black :
    let p := Op.runAll Incident.occur [.prepare, .start, .line ⟨.int 15, []⟩] ⟨{}, {}, none, {}⟩
    (p.game.running.truth = true ∧ held p = true) ∧
      (turn.completes p = true ∧ ¬ AtRest (turn.after p).rig.board.motors) := by
  decide +kernel

end TrackRunner

end Rover
