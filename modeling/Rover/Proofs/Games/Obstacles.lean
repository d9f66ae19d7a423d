import Mathlib.Data.List.DropRight
import Rover.Proofs.Amount.Exact
import Rover.Proofs.Motion.Ahead
import Rover.Proofs.Sensors
import Rover.Proofs.Switchboard.Guard

/-!
# Driving and obstacles

A turn of the roaming vehicle is meant to leave the wheels turning, but the command it has just
given counts as a reason to stop them. From the second reading of the sonar on the vehicle does not
drive towards what is near, unless its speed is new.
-/

namespace Rover

open List WheelSpeeds

set_option synthInstance.maxSize 1000000000

open Chassis (AtRest)
open Sonar (echo echo_le listened)
open Games (drive halt pause)

theorem Value.compare_of_num? {v w : Value} {a b : Num} (hv : v.num? = some a)
    (hw : w.num? = some b) (r : Value.Relation) : Value.compare r v w = .ok (r.ofNums a b) := by
  cases v <;> cases w <;> cases hv <;> cases hw <;> rfl

namespace Roaming

open Play (update state Holds liftM_rig wp_onRig wp_update)
variable {w : WheelSpeeds}

/-! ## The parts of a turn -/

def ahead (speed : Value) : Result WheelSpeeds :=
  Chassis.wheelSpeeds (Value.int 67) (.int 59) speed (.int 90) (.int 0)

def aside : Result WheelSpeeds :=
  Chassis.wheelSpeeds (Value.int 67) (.int 59) (.int 0) (.int 90) (.float (-0.5))

theorem aside_eq : aside = .ok (.sided (-63)) :=
  Chassis.wheelSpeeds_turning.mpr ⟨_, 63, rfl, rfl, rfl⟩

def isNear (s : Roaming) : Result Bool := Value.compare .le s.distance s.threshold

def mayAct (s : Roaming) (near : Bool) : Bool := if near then s.mayTurn.truth else s.mayGo.truth

def adapt : M Unit := do
  let s ← state
  if !s.speed.same s.lastSpeed then
    update ({ · with lastSpeed := s.speed })
    go s.speed

def settle : M Unit := do
  if (← state).stopping.truth then
    update ({ · with stopping := .bool false })
    halt
  update ({ · with mayTurn := .bool true, mayGo := .bool true })
  pause 0.03

section
variable {p : Play Roaming} {Q : Unit → Play Roaming → Prop} {E : Exit → Play Roaming → Prop}

theorem wp_turn (hrun : p.game.running.truth) :
    wp turn Q E p ↔ wp adapt (fun _ q => wp choose (fun _ t => wp settle Q E t) E q) E p := by
  unfold turn adapt
  rw [wp_bind, wp_state, if_pos hrun, wp_bind, wp_state]
  cases p.game.speed.same p.game.lastSpeed with
  | true => exact wp_bind ..
  | false =>
    simp only [Bool.not_false, if_true, wp_bind, wp_update, liftM_rig, wp_onRig]
    rfl

theorem turn_of_idle (hidle : p.game.running.truth = false) : turn p = .ok () p := by
  change (if p.game.running.truth then _ else pure () : M Unit) p = _
  rw [hidle]
  rfl

/-! ## Where a turn leaves the wheels -/

theorem wp_go {speed : Value} {r : Rig} (hr : Working FourMotors r) {Q : Unit → Rig → Prop}
    {E : Exit → Rig → Prop} : wp (go speed) Q E r ↔ match ahead speed with
      | .ok w => Q () (w.turned r)
      | .error f => E (.fault f) r := by
  cases hw : ahead speed with
  | ok w => exact Games.wp_drive_of_working hw hr
  | error f =>
    unfold ahead at hw
    unfold go drive Chassis.setVelocity
    rw [hw]
    rfl

def Alert (s : Roaming) : Prop :=
  s.mayTurn.truth ∧ s.mayGo.truth ∨ s.stopping.truth

section

variable (hp : Working FourMotors p.rig)
include hp

theorem adapt_outcome :
    wp adapt
      (fun _ q => p.game.speed.same p.game.lastSpeed ∧ q = p ∨
        p.game.speed.same p.game.lastSpeed = false ∧ ∃ w, ahead p.game.speed = .ok w ∧
          q = { p with rig := w.turned p.rig, game := { p.game with lastSpeed := p.game.speed } })
      (fun _ q => (∀ w, ahead p.game.speed ≠ .ok w) ∧
        q = { p with game := { p.game with lastSpeed := p.game.speed } }) p := by
  unfold adapt
  rw [wp_bind, wp_state]
  cases p.game.speed.same p.game.lastSpeed with
  | true => exact .inl ⟨rfl, rfl⟩
  | false =>
    change wp (_ >>= _) _ _ _
    rw [wp_bind, wp_update, liftM_rig, wp_onRig, wp_go hp]
    cases ahead p.game.speed with
    | ok w => exact .inr ⟨rfl, w, rfl, rfl⟩
    | error f => exact ⟨nofun, rfl⟩

theorem choose_outcome :
    wp choose
      (fun _ q => ∃ near, isNear p.game = .ok near ∧
        (mayAct p.game near = false ∧ q = p ∨
          mayAct p.game near ∧ Working FourMotors q.rig ∧ q.game.stopping = .bool true))
      (fun _ q => ¬ ((∃ w, ahead p.game.speed = .ok w) ∧ ∃ near, isNear p.game = .ok near) ∧
        Working FourMotors q.rig ∧ (q.game = p.game ∨ q.game.stopping = .bool true)) p := by
  unfold choose
  apply wp_except_bind
  · intro near hnear
    cases near with
    | true =>
      rw [if_pos rfl]
      cases hmay : p.game.mayTurn.truth with
      | false => exact ⟨true, hnear, .inl ⟨hmay, rfl⟩⟩
      | true =>
        rw [if_pos rfl, wp_bind, wp_update, wp_bind, liftM_rig, wp_onRig,
          Games.wp_drive_of_working aside_eq (by exact hp), liftM_rig, wp_onRig]
        have hturning : Working FourMotors (turned (.sided (-63)) p.rig) :=
          { hp with motors := fourMotors_records _ }
        have hpause := sleep_completes (x := 0.5) hturning rfl (of_decide_eq_false rfl)
        refine wp_of_total hpause fun _ r hr => ?_
        exact ⟨true, hnear, .inr ⟨hmay, hr, rfl⟩⟩
    | false =>
      rw [if_neg Bool.false_ne_true]
      cases hmay : p.game.mayGo.truth with
      | false => exact ⟨false, hnear, .inl ⟨hmay, rfl⟩⟩
      | true =>
        rw [if_pos rfl, wp_bind, wp_update, liftM_rig, wp_onRig, wp_go (by exact hp)]
        cases hahead : ahead p.game.speed with
        | ok w =>
          have hgoing : Working FourMotors (w.turned p.rig) :=
            { hp with motors := w.fourMotors_records }
          exact ⟨false, hnear, .inr ⟨hmay, hgoing, rfl⟩⟩
        | error f =>
          refine ⟨?_, hp, .inr rfl⟩
          rintro ⟨⟨w, hw⟩, -⟩
          cases hw
  · intro f hf
    refine ⟨?_, hp, .inl rfl⟩
    rintro ⟨-, near, hnear⟩
    cases hf.symm.trans hnear

theorem settle_outcome :
    wp settle
      (fun _ q => Working FourMotors q.rig ∧ Alert q.game ∧
        (p.game.stopping.truth → AtRest q.rig.board.motors) ∧
        (p.game.stopping.truth = false → q.rig.board.motors = p.rig.board.motors)) never p := by
  have hpause {records : List Value} {r : Rig} (hr : Working (· = records) r) :=
    sleep_completes (x := 0.03) hr rfl (of_decide_eq_false rfl)
  unfold settle
  rw [wp_bind, wp_state]
  cases p.game.stopping.truth with
  | true =>
    rw [if_pos rfl, wp_bind, wp_update, wp_bind, liftM_rig, wp_onRig]
    refine wp_of_total (Games.halt_completes (by exact hp)) fun _ r hr => ?_
    rw [wp_bind, wp_update, liftM_rig, wp_onRig]
    refine wp_of_total (hpause { hr with motors := rfl }) fun _ t ht => ?_
    have hmot : t.board.motors = r.board.motors := ht.motors
    have hrest : AtRest t.board.motors := hmot ▸ hr.motors
    exact ⟨{ ht with motors := hrest.1 }, .inl ⟨rfl, rfl⟩, fun _ => hrest, nofun⟩
  | false =>
    rw [if_neg Bool.false_ne_true, wp_bind, wp_update, liftM_rig, wp_onRig]
    refine wp_of_total (hpause { hp with motors := rfl }) fun _ t ht => ?_
    have hmot : t.board.motors = p.rig.board.motors := ht.motors
    exact ⟨{ ht with motors := hmot ▸ hp.motors }, .inl ⟨rfl, rfl⟩, nofun, fun _ => hmot⟩

/-- A turn comes to its end if the distance can be compared and the speed can be driven. Then the
wheels are at rest if it gave a command for what is ahead or was to stop; otherwise they turn as
they did, or at a speed that is new. -/
theorem turn_outcome (hrun : p.game.running.truth) :
    wp turn
      (fun _ q => Working FourMotors q.rig ∧ Alert q.game ∧ ∃ near, isNear p.game = .ok near ∧
        if mayAct p.game near || p.game.stopping.truth then AtRest q.rig.board.motors
        else p.game.speed.same p.game.lastSpeed ∧
            q.rig.board.motors = p.rig.board.motors ∨
          p.game.speed.same p.game.lastSpeed = false ∧
            ∃ w, ahead p.game.speed = .ok w ∧ q.rig.board.motors = w.records)
      (fun _ q => ¬ ((∃ w, ahead p.game.speed = .ok w) ∧ ∃ near, isNear p.game = .ok near) ∧
        Working FourMotors q.rig ∧ (Alert p.game → Alert q.game)) p := by
  rw [wp_turn hrun]
  refine wp_mono (adapt_outcome hp) (fun _ q hq => ?_) fun _ q hq => ?_
  · -- what `adapt` may have changed: the motors, and the note of the speed
    obtain ⟨hq', hspeed, hnear, hmay, hstopping, halert⟩ : Working FourMotors q.rig ∧
        q.game.speed = p.game.speed ∧ isNear q.game = isNear p.game ∧
        mayAct q.game = mayAct p.game ∧ q.game.stopping = p.game.stopping ∧
        (Alert p.game → Alert q.game) := by
      obtain ⟨-, rfl⟩ | ⟨-, w, -, rfl⟩ := hq
      · exact ⟨hp, rfl, rfl, rfl, rfl, id⟩
      · exact ⟨{ hp with motors := w.fourMotors_records }, rfl, rfl, rfl, rfl, id⟩
    have hchoose := choose_outcome hq'
    rw [hnear, hmay, hspeed] at hchoose
    refine wp_mono hchoose (fun _ t ht => ?_) fun _ t ht => ?_
    · obtain ⟨near, hdist, ⟨hstill, rfl⟩ | ⟨hacts, hrig, hstop⟩⟩ := ht
      · refine wp_of_total (settle_outcome hq') fun _ u hu => ?_
        obtain ⟨hrig, hready, hhalted, hkept⟩ := hu
        refine ⟨hrig, hready, near, hdist, ?_⟩
        rw [hstill, Bool.false_or]
        rw [hstopping] at hhalted hkept
        cases hstop : p.game.stopping.truth with
        | true => exact hhalted hstop
        | false =>
          rw [if_neg Bool.false_ne_true, hkept hstop]
          obtain ⟨hsame, rfl⟩ | ⟨hnew, w, hw, rfl⟩ := hq
          · exact .inl ⟨hsame, rfl⟩
          · exact .inr ⟨hnew, w, hw, rfl⟩
      · refine wp_of_total (settle_outcome hrig) fun _ u hu => ?_
        obtain ⟨hrig, hready, hhalted, -⟩ := hu
        refine ⟨hrig, hready, near, hdist, ?_⟩
        rw [hacts, Bool.true_or, if_pos rfl]
        exact hhalted (congrArg Value.truth hstop)
    · obtain ⟨hnot, hrig, hgame | hstop⟩ := ht
      · exact ⟨hnot, hrig, fun h => hgame ▸ halert h⟩
      · exact ⟨hnot, hrig, fun _ => .inr (congrArg Value.truth hstop)⟩
  · obtain ⟨hnone, rfl⟩ := hq
    refine ⟨?_, hp, id⟩
    rintro ⟨⟨w, hw⟩, -⟩
    exact hnone w hw

end

end

/-! ## The course of the game -/

/-- What can happen to the game: its steps and settings, readings of the sonar, faults on the bus,
and the turns of the motion. -/
inductive Incident where
  | prepare | start | stop | leave | interrupt
  | speed (args : Value)
  | threshold (args : Value)
  | reading (sonar : Feed) (frame : Option Raster)
  | faults (count : Int)
  | turn

def Incident.occur : Incident → M Unit
  | prepare => Roaming.prepare
  | start => Roaming.start
  | stop => Roaming.stop
  | leave => Roaming.leave
  | interrupt => Roaming.interrupt
  | speed args => do let _ ← setSpeed args
  | threshold args => do let _ ← setThreshold args
  | reading sonar frame => do
    modify fun p => { p with rig := { p.rig with sonar } }
    let _ ← watch frame
  | faults count => modify fun p => { p with rig := { p.rig with pendingFaults := count } }
  | turn => Roaming.turn

class Lasting (I : Rig → Prop) : Prop extends Enduring I, Board.Recordable I where
  motor : ∀ index speed, Keeps I (Board.setMotor index speed)
  listened : ∀ r, I r → I (listened r)
  feed : ∀ r sonar, I r → I { r with sonar }

instance lasting_working : Lasting (Working FourMotors) where
  motor _ _ := .of_parts
  listened r hr := by
    unfold listened
    rw [if_pos hr.faults]
    exact { hr with }
  feed _ _ hr := { hr with }

instance lasting_steady : Lasting Rig.Steady where
  motor _ _ := .of_parts
  listened r hr := by
    unfold listened
    split
    · exact { hr with }
    · exact { hr with }
  feed _ _ hr := { hr with }

section
variable {I : Rig → Prop} {J : Roaming → Prop} [hI : Lasting I]

instance (index speed : Value) : Safe True I (Board.setMotor index speed) :=
  .base (hI.motor index speed)

instance (index color : Value) : Safe True (Holds I J) (setSonarLamp index color) := by
  refine .base (keeps_iff_wp.mpr fun p hp => ?_)
  rw [wp_setSonarLamp]
  cases p.sonar with
  | none => exact hp
  | some sonar =>
    exact wp_of_total (Sonar.setPixel_completes hp.rig sonar index color)
      fun _ r hr => ⟨hr, hp.game⟩

theorem keeps_watch [∀ s readings, Leads (J s) (J { s with readings })]
    [∀ s distance, Leads (J s) (J { s with distance })] (frame : Option Raster) :
    Keeps (Holds I J) (watch frame) := by
  have hlisten : Safe True (Holds I J) (Play.onRig Sonar.getDistance) := by
    refine .base fun p hp => ?_
    rw [wp_onRig, Sonar.wp_getDistance]
    exact ⟨hI.listened _ hp.rig, hp.game⟩
  unfold watch sense
  cases frame <;> exact .of_parts

end

/-! ## Wheels that turn as they should -/

theorem alert_occur {i : Incident} (hi : ∀ count, i ≠ .faults count) :
    Keeps (Holds (Working FourMotors) Alert) i.occur := by
  have hready (a b : Prop) : Leads a (b ∨ (Value.bool true).truth) := ⟨fun _ => .inr rfl⟩
  unfold Alert
  cases i with
  | reading sonar frame =>
    refine .bind (.modify fun p hp => ⟨lasting_working.feed _ _ hp.rig, hp.game⟩) fun _ => ?_
    exact .map (keeps_watch frame)
  | faults count => exact absurd rfl (hi count)
  | turn =>
    rw [keeps_iff_wp]
    intro p hp
    cases hrun : p.game.running.truth with
    | false => exact (wp_of_ok (turn_of_idle hrun)).mpr hp
    | true =>
      exact wp_mono (turn_outcome hp.rig hrun) (fun _ q hq => ⟨hq.1, hq.2.1⟩)
        fun _ q hq => ⟨hq.2.1, hq.2.2 hp.game⟩
  | _ =>
    dsimp only [Incident.occur, Roaming.prepare, reset, aim, Roaming.start, Roaming.stop,
      Roaming.leave, Roaming.interrupt, setSpeed, setThreshold, answerThreshold]
    exact .of_parts

def Reached (p : Play Roaming) : Prop :=
  ∃ (rig : Rig) (files : ConfigFiles) (sonar : Option Sonar) (course : List Incident),
    Working FourMotors rig ∧ (∀ count, Incident.faults count ∉ course) ∧
      Op.runAll Incident.occur course ⟨rig, files, sonar, {}⟩ = p

theorem Reached.alert {p : Play Roaming} (h : Reached p) : Alert p.game := by
  obtain ⟨rig, files, sonar, course, hrig, hcalm, rfl⟩ := h
  have hstart : Holds (Working FourMotors) Alert ⟨rig, files, sonar, {}⟩ := ⟨hrig, .inr rfl⟩
  refine (runAll_of_step (fun i hi _ hp => (alert_occur ?_).after hp) hstart).game
  rintro count rfl
  exact hcalm count hi

/-- The wheels turn as is meant for what was measured: on the spot if something is near, and ahead
at the speed of the game if not. -/
def AsMeant (s : Roaming) (near : Bool) (motors : List Value) : Prop :=
  ∃ w, (if near then aside else ahead s.speed) = .ok w ∧ motors = w.records

theorem AsMeant.not_atRest {s : Roaming} {n : Int} (hspeed : s.speed = .int n) (hn : 0 < n)
    {near : Bool} {motors : List Value} (h : AsMeant s near motors) : ¬ AtRest motors := by
  obtain ⟨w, hw, rfl⟩ := h
  rw [atRest_records]
  rintro rfl
  cases near with
  | true => cases aside_eq.symm.trans hw
  | false =>
    rw [if_neg Bool.false_ne_true, hspeed] at hw
    exact absurd (Chassis.frontLeft_pos hn hw) (by decide)

theorem records_ahead_ne {n : Int} (hn : 0 < n) (hw : ahead (.int n) = .ok w) :
    w.records ≠ (sided (-63)).records := by
  intro hrec
  have hfst := congrArg head? hrec
  have hpos := Chassis.frontLeft_pos hn hw
  have hfst : Board.mounted 0 w.frontLeft = 63 := by
    injection hfst with hfst
    injection hfst
  unfold Board.mounted at hfst
  omega

/-- With something to compare and a speed from 10 to 100 a turn comes to its end. It leaves the
wheels turning as is meant exactly if it neither gives a command for what is ahead nor was to stop,
and the wheels turned so before, or the way is free and the speed is new. In a state that the game
can come to it always leaves them at rest. -/
theorem turn_as_meant_iff {p : Play Roaming} (hrig : Working FourMotors p.rig)
    (hrunning : p.game.running.truth = true) {n : Int} (hspeed : p.game.speed = .int n)
    (hleast : 10 ≤ n) (hmost : n ≤ 100) {distance threshold : Num}
    (hdistance : p.game.distance.num? = some distance)
    (hthreshold : p.game.threshold.num? = some threshold) :
    let near := distance.atMost threshold
    ∃ q, turn p = .ok () q ∧
      (AsMeant p.game near q.rig.board.motors ↔
        (mayAct p.game near = false ∧ p.game.stopping.truth = false) ∧
          if p.game.speed.same p.game.lastSpeed then AsMeant p.game near p.rig.board.motors
          else near = false) ∧
      (AsMeant p.game near q.rig.board.motors → ¬ AtRest q.rig.board.motors) ∧
      (Reached p → AtRest q.rig.board.motors) := by
  intro near
  have hpositive : 0 < n := by omega
  have hnear : isNear p.game = .ok near := Value.compare_of_num? hdistance hthreshold .le
  obtain ⟨w, hw⟩ : ∃ w, ahead p.game.speed = .ok w := by
    rw [hspeed]
    exact Chassis.exists_wheelSpeeds_ahead hpositive (by omega)
  obtain ⟨_, q, hq, -, -, near', hnear', hmotors⟩ := Op.wp_false_iff.mp
    (wp_mono (turn_outcome hrig hrunning) (fun _ _ hq => hq) fun _ _ hq =>
      hq.1 ⟨⟨w, hw⟩, near, hnear⟩)
  cases hnear.symm.trans hnear'
  have hmoves := fun h : AsMeant p.game near q.rig.board.motors => h.not_atRest hspeed hpositive
  refine ⟨q, hq, ?_, hmoves, fun hreached => ?_⟩
  · cases hstops : mayAct p.game near || p.game.stopping.truth with
    | true =>
      rw [hstops, if_pos rfl] at hmotors
      refine iff_of_false (fun h => hmoves h hmotors) ?_
      rintro ⟨⟨hmay, hstopping⟩, -⟩
      rw [hmay, hstopping] at hstops
      cases hstops
    | false =>
      rw [hstops, if_neg Bool.false_ne_true] at hmotors
      rw [Bool.or_eq_false_iff] at hstops
      rw [and_iff_right hstops]
      obtain ⟨hsame, hkept⟩ | ⟨hnew, w', hw', hrecords⟩ := hmotors
      · rw [hsame, if_pos rfl, hkept]
      · cases hw.symm.trans hw'
        rw [hnew, if_neg Bool.false_ne_true, hrecords]
        cases near with
        | false => exact iff_of_true ⟨w, hw, rfl⟩ rfl
        | true =>
          refine iff_of_false ?_ nofun
          rintro ⟨w', haside, heq⟩
          cases aside_eq.symm.trans haside
          rw [hspeed] at hw
          exact records_ahead_ne hpositive hw heq
  · have hstops : (mayAct p.game near || p.game.stopping.truth) = true := by
      obtain ⟨hturn, hgo⟩ | hstopping := hreached.alert
      · unfold mayAct
        rw [hturn, hgo]
        cases near <;> rfl
      · rw [hstopping, Bool.or_true]
    rwa [hstops, if_pos rfl] at hmotors

/-- A turn that may not go ahead by itself and has nothing to stop keeps the speed it was given. -/
theorem turn_as_meant_unhurried :
    let p : Play Roaming := ⟨{}, {}, none, { running := .bool true, mayGo := .bool false
                                             stopping := .bool false }⟩
    (Working FourMotors p.rig ∧ p.game.running.truth = true) ∧
      ∃ q, turn p = .ok () q ∧ ¬ AtRest q.rig.board.motors := by
  intro p
  have hrig : Working FourMotors p.rig := ⟨by decide, rfl, rfl, rfl, rfl, rfl⟩
  obtain ⟨q, hq, hmeant, hmoves, -⟩ := turn_as_meant_iff hrig rfl rfl (by decide) (by decide) rfl rfl
  have hnew : p.game.speed.same p.game.lastSpeed = false :=
    (Value.int_same_int 40 0).trans (by decide)
  refine ⟨⟨hrig, rfl⟩, q, hq, hmoves (hmeant.mpr ⟨⟨rfl, rfl⟩, ?_⟩)⟩
  rw [hnew, if_neg Bool.false_ne_true]
  rfl

/-- The first turn after the start finds the way free and leaves the vehicle standing. -/
theorem turn_leaves_standing :
    let p := Op.runAll Incident.occur [.prepare, .start] ⟨{}, {}, none, {}⟩
    (p.game.running.truth = true ∧ isNear p.game = .ok false) ∧
      turn.completes p = true ∧ AtRest (turn.after p).rig.board.motors :=
  ⟨⟨rfl, eq_ok_of_toOption (by decide +kernel)⟩, by decide +kernel⟩

/-! ## What the sonar has said -/

section
variable {ks : List ℕ} (hks : ∀ k ∈ ks, k ≤ 99999)
include hks

theorem isDistance_readings : ∀ x ∈ ks.map fun k : ℕ => nearestInt k / 10, Spread.IsDistance x := by
  intro x hx
  obtain ⟨k, hk, rfl⟩ := mem_map.mp hx
  exact Spread.isDistance_div (hks k hk)

theorem map_measured? : (ks.map centimetres).map measured? =
    Spread.doubles ((ks.map fun k : ℕ => nearestInt k / 10).map some) := by
  unfold Spread.doubles
  rw [map_map, map_map, map_map]
  refine map_congr_left fun k hk => ?_
  have hfin := (Spread.isDistance_div (hks k hk)).between.isFinite
  have hnum := isNaN_of_isFinite hfin
  change (if (nearestInt k / 10).isNaN then none else _) = _
  rw [hnum]
  rfl

theorem exists_estimate (hlo : 2 ≤ ks.length) (hhi : ks.length ≤ 5) :
    ∃ y : Float, estimate (ks.map centimetres) = .ok (.float y) ∧
      Spread.trimmedMean? (ks.map fun k => some (centimetres k)) = .ok (some (.float y)) ∧
      y.isFinite ∧ ∀ c : ℚ, (∀ i ≤ 5, IsDouble ((i : ℕ) * c)) →
        (∀ k ∈ ks, amount (nearestInt k / 10) ≤ c) → amount y ≤ c := by
  have hlen : (ks.map fun k : ℕ => nearestInt k / 10).length = ks.length := length_map ..
  obtain ⟨y, hy, hfin, hbd⟩ := Spread.trimmedMean?_distances (hlen ▸ hlo)
    (hlen ▸ hhi) (isDistance_readings hks)
  refine ⟨y, ?_, ?_, hfin, fun c hc hle => hbd c hc fun x hx => ?_⟩
  · unfold estimate
    rw [map_measured? hks, hy]
    rfl
  · rw [← hy]
    unfold Spread.doubles
    rw [map_map, map_map]
    rfl
  · obtain ⟨k, hk, rfl⟩ := mem_map.mp hx
    exact hle k hk

end

theorem estimate_single {k : ℕ} (hk : k ≤ 99999) :
    estimate [centimetres k] = .ok (.float (0.0 / 0.0)) := by
  have hmeasured : ([k].map centimetres).map measured? =
      Spread.doubles (([k].map fun k : ℕ => nearestInt k / 10).map some) :=
    map_measured? (by simpa using hk)
  have hmean : Spread.mean? (Spread.doubles [some (nearestInt k / 10)]) =
      .ok (some (.float (Spread.mean [some (nearestInt k / 10)]))) :=
    Spread.mean?_doubles (Nat.lt_of_sub_eq_succ rfl)
  unfold estimate
  rw [show [centimetres k] = [k].map centimetres from rfl, hmeasured]
  change (Spread.trimmedMean? (Spread.doubles [some (nearestInt k / 10)]) >>= _) = _
  unfold Spread.trimmedMean?
  rw [hmean]
  rfl

theorem exists_estimate_of_readings {ks : List ℕ} (hks : ∀ k ∈ ks, k ≤ 99999) (hne : ks ≠ [])
    (hhi : ks.length ≤ 5) : ∃ y : Float, estimate (ks.map centimetres) = .ok (.float y) := by
  cases ks with
  | nil => exact absurd rfl hne
  | cons k rest =>
    cases rest with
    | nil => exact ⟨_, estimate_single (hks k mem_cons_self)⟩
    | cons j rest =>
      obtain ⟨y, hy, -⟩ := exists_estimate hks (by simp) hhi
      exact ⟨y, hy⟩

/-- What the sonar has said so far, in millimetres, and whether it has said something since the
game was made ready. -/
structure Echoes where
  heard : List ℕ := []
  fresh : Bool := false

def Incident.echoes (p : Play Roaming) (e : Echoes) : Incident → Echoes
  | prepare => { e with fresh := e.fresh && !Roaming.prepare.completes p }
  | reading sonar _ =>
    if p.sonar.isSome then ⟨e.heard ++ [echo { p.rig with sonar }], true⟩ else e
  | _ => e

def echoes : List Incident → Play Roaming → Echoes → Echoes
  | [], _, e => e
  | i :: rest, p, e => echoes rest (i.occur.after p) (i.echoes p e)

/-- The game keeps the last four readings, and the distance comes from the last five. -/
structure Informed (e : Echoes) (p : Play Roaming) : Prop where
  rig : p.rig.Steady
  speed : ∃ n, p.game.speed = .int n
  heard : ∀ k ∈ e.heard, k ≤ 99999
  cached : p.game.readings = .list ((e.heard.rtake 4).map centimetres)
  measured : e.fresh → e.heard ≠ [] ∧
    estimate ((e.heard.rtake 5).map centimetres) = .ok p.game.distance

abbrev Unheard (readings distance : Value) : Play Roaming → Prop :=
  Holds Rig.Steady fun s => (∃ n, s.speed = .int n) ∧ s.readings = readings ∧ s.distance = distance

section
variable {e : Echoes} {p q : Play Roaming}

theorem Informed.unheard (hp : Informed e p)
    (hq : Unheard p.game.readings p.game.distance q) : Informed e q := by
  obtain ⟨hrig, hspeed, hreadings, hdist⟩ := hq
  exact ⟨hrig, hspeed, hp.heard, hreadings.trans hp.cached, hdist ▸ hp.measured⟩

theorem Informed.of_unheard (hp : Informed e p) {op : M Unit}
    (hop : Keeps (Unheard p.game.readings p.game.distance) op) : Informed e (op.after p) := by
  refine hp.unheard (hop.after ?_)
  exact ⟨hp.rig, hp.speed, rfl, rfl⟩

theorem wp_sense {ks : List ℕ} {k : ℕ} (hcached : p.game.readings = .list (ks.map centimetres))
    (hks : ∀ j ∈ ks ++ [k], j ≤ 99999) (hhi : ks.length ≤ 4) {Q : Unit → Play Roaming → Prop}
    {E : Exit → Play Roaming → Prop} :
    ∃ y : Float, estimate ((ks ++ [k]).map centimetres) = .ok (.float y) ∧
      (wp (sense (centimetres k)) Q E p ↔ Q () { p with game := { p.game with
        readings := .list (((ks ++ [k]).rtake 4).map centimetres), distance := .float y } }) := by
  have hlen : (ks ++ [k]).length = ks.length + 1 := length_append
  obtain ⟨y, hy⟩ := exists_estimate_of_readings hks (by simp) (by omega)
  refine ⟨y, hy, ?_⟩
  have hext : Games.extend p.game.readings (centimetres k) = .ok ((ks ++ [k]).map centimetres) := by
    rw [hcached, map_append]
    rfl
  unfold sense
  rw [wp_bind, wp_state, wp_ok_bind hext, wp_bind, wp_update,
    wp_ok_bind hy, wp_bind, wp_update, length_map, hlen, wp_ite]
  unfold rtake window
  by_cases hfull : ks.length + 1 = 5
  · rw [if_pos hfull, wp_update, hlen, hfull, map_drop]
  · rw [if_neg hfull, hlen, Nat.sub_eq_zero_of_le (by omega), drop_zero]
    rfl

theorem rtake_rtake {α : Type} (l : List α) {m n : ℕ} (h : m ≤ n) :
    (l.rtake n).rtake m = l.rtake m := by
  unfold rtake
  rw [drop_drop, length_drop]
  congr 1
  omega

theorem Informed.watch (hp : Informed e p) (hsonar : p.sonar.isSome) (frame : Option Raster) :
    wp (watch frame) (fun _ q => Informed ⟨e.heard ++ [echo p.rig], true⟩ q)
      (fun _ q => Informed ⟨e.heard ++ [echo p.rig], true⟩ q) p := by
  have hks : ∀ k ∈ e.heard ++ [echo p.rig], k ≤ 99999 := by
    intro k hk
    obtain hk | hk := mem_append.mp hk
    · exact hp.heard k hk
    · rw [mem_singleton.mp hk]
      exact echo_le _
  have hwindow := rtake_concat_succ e.heard 4 (echo p.rig)
  have hcache : (e.heard.rtake 4 ++ [echo p.rig]).rtake 4 = (e.heard ++ [echo p.rig]).rtake 4 := by
    rw [rtake_concat_succ, rtake_concat_succ, rtake_rtake _ (by decide)]
  have hrecent : ∀ k ∈ e.heard.rtake 4 ++ [echo p.rig], k ≤ 99999 := by
    rw [← hwindow]
    exact fun k hk => hks k (mem_of_mem_drop hk)
  have hhi : (e.heard.rtake 4).length ≤ 4 := by
    unfold rtake
    rw [length_drop]
    omega
  have hnone : p.sonar.isNone = false := by
    rw [← Option.not_isSome, hsonar]
    rfl
  unfold Roaming.watch
  rw [wp_bind, wp_get, hnone, if_neg Bool.false_ne_true, wp_bind, wp_onRig,
    Sonar.wp_getDistance, wp_ok_bind (div_reading (echo_le _) rfl), wp_bind]
  obtain ⟨y, hy, hsense⟩ := wp_sense (p := { p with rig := listened p.rig }) hp.cached hrecent hhi
  refine hsense.mpr ?_
  rw [hcache]
  rw [← hwindow] at hy
  have hinformed : Informed ⟨e.heard ++ [echo p.rig], true⟩ { p with
      rig := listened p.rig
      game := { p.game with
        readings := .list (((e.heard ++ [echo p.rig]).rtake 4).map centimetres)
        distance := .float y } } :=
    ⟨lasting_steady.listened _ hp.rig, hp.speed, hks, rfl, fun _ => ⟨by simp, hy⟩⟩
  cases frame with
  | none => exact hinformed
  | some picture =>
    apply wp_except_bind
    · exact fun _ _ => hinformed
    · exact fun _ _ => hinformed

theorem Informed.prepare (hp : Informed e p) :
    Informed (Incident.prepare.echoes p e) (Roaming.prepare.after p) := by
  have haim : Keeps (Unheard p.game.readings p.game.distance) aim := by
    unfold aim
    exact .of_parts
  have hprepare : wp Roaming.prepare
      (fun _ q => Informed { e with fresh := false } q) (fun _ q => Informed e q) p := by
    unfold Roaming.prepare
    rw [wp_bind]
    refine wp_mono (haim.wp ⟨hp.rig, hp.speed, rfl, rfl⟩) (fun _ q hq => ?_) fun _ q hq =>
      hp.unheard hq
    exact ⟨hq.rig, ⟨40, rfl⟩, hp.heard, hq.game.2.1.trans hp.cached, nofun⟩
  refine Op.wp_completes (P := fun done => Informed { e with fresh := e.fresh && !done })
    (wp_mono hprepare (fun _ q hq => ?_) fun _ q hq => ?_)
  · rw [Bool.not_true, Bool.and_false]
    exact hq
  · rw [Bool.not_false, Bool.and_true]
    exact hq

theorem Informed.occur (hp : Informed e p) (i : Incident) :
    Informed (i.echoes p e) (i.occur.after p) := by
  have hspeed (s : Roaming) (n : Int) (a : Prop) :
      Leads ((∃ m, s.speed = .int m) ∧ a) ((∃ m, Value.int n = .int m) ∧ a) :=
    ⟨fun hs => ⟨⟨n, rfl⟩, hs.2⟩⟩
  cases i with
  | prepare => exact hp.prepare
  | reading sonar frame =>
    have hfed : Informed e { p with rig := { p.rig with sonar } } :=
      { hp with rig := lasting_steady.feed _ _ hp.rig }
    change Informed (if p.sonar.isSome then _ else _) _
    refine wp_after_iff.mp ((wp_bind ..).mpr ((wp_bind ..).mpr ?_))
    cases hsonar : p.sonar.isSome with
    | true => exact hfed.watch hsonar frame
    | false =>
      have hnone : p.sonar.isNone := by
        rw [← Option.not_isSome, hsonar]
        rfl
      change wp (if p.sonar.isNone then _ else _) _ _ _
      rw [hnone]
      exact hfed
  | faults count => exact hp.unheard ⟨{ hp.rig with }, hp.speed, rfl, rfl⟩
  | _ =>
    refine hp.of_unheard ?_
    dsimp only [Incident.occur, Roaming.start, Roaming.stop, Roaming.leave, Roaming.interrupt,
      setSpeed, setThreshold, answerThreshold, Roaming.turn, choose, go]
    exact .of_parts

theorem Informed.runAll (hp : Informed e p) (course : List Incident) :
    Informed (Roaming.echoes course p e) (Op.runAll Incident.occur course p) := by
  induction course generalizing e p with
  | nil => exact hp
  | cons i rest ih => exact ih (hp.occur i)

theorem informed_start {rig : Rig} (hrig : rig.Steady) (files : ConfigFiles)
    (sonar : Option Sonar) : Informed {} ⟨rig, files, sonar, {}⟩ :=
  ⟨hrig, ⟨40, rfl⟩, nofun, rfl, nofun⟩

end

/-- The distance after a reading is well defined from the second reading on: of the last two to five
exact readings one is no farther from their mean than the deviation, so that the trimmed mean
exists, and it lies between them. The game has such a distance then, and the last four readings. -/
theorem distance_of_readings {rig : Rig} (hrig : rig.Steady) (files : ConfigFiles)
    (sonar : Option Sonar) (course : List Incident) {p : Play Roaming} {e : Echoes}
    (hp : Op.runAll Incident.occur course ⟨rig, files, sonar, {}⟩ = p)
    (he : echoes course ⟨rig, files, sonar, {}⟩ {} = e) (hsonar : p.sonar.isSome = true)
    (hheard : e.heard ≠ []) (frame : Option Raster) {recent : List ℕ}
    (hrecent : (e.heard ++ [Sonar.echo p.rig]).rtake 5 = recent) {values : List ℝ}
    (hvalues : recent.map (fun k : ℕ => (k : ℝ) / 10) = values) :
    (∃ x ∈ values, (x - Spread.average values) ^ 2 ≤ Spread.sampleVariance values) ∧
    (∃ y, Spread.trimmedMean? (values.map some) = .ok (some y) ∧
      (∃ x ∈ values, x ≤ y) ∧ ∃ x ∈ values, y ≤ x) ∧
    (∃ y : Float, ((watch frame).after p).game.distance = .float y ∧ y.isFinite = true ∧
      Spread.trimmedMean? (recent.map fun k => some (centimetres k)) = .ok (some (.float y))) ∧
    ((watch frame).after p).game.readings = .list ((recent.rtake 4).map centimetres) := by
  have hinformed : Informed e p := hp ▸ he ▸ (informed_start hrig files sonar).runAll course
  have hafter := wp_after_iff.mp (hinformed.watch hsonar frame)
  have hlength : 2 ≤ recent.length ∧ recent.length ≤ 5 := by
    have hpositive := length_pos_iff.mpr hheard
    rw [← hrecent]
    unfold rtake
    rw [length_drop, length_append, length_singleton]
    omega
  have hleast : 2 ≤ values.length := by
    rw [← hvalues, length_map]
    exact hlength.1
  have hmost : values.length < 8 := by
    rw [← hvalues, length_map]
    omega
  refine ⟨Spread.exists_sq_le_sampleVariance hleast,
    ⟨_, Spread.trimmedMean?_exact hleast hmost, ?_⟩, ?_, ?_⟩
  · obtain ⟨⟨x, hx, hle⟩, z, hz, hge⟩ := Spread.average_between (Spread.trimmed_ne_nil hleast)
    exact ⟨⟨x, mem_of_mem_filter hx, hle⟩, z, mem_of_mem_filter hz, hge⟩
  · obtain ⟨y, hy, htrimmed, hfinite, -⟩ := exists_estimate
      (fun k hk => hafter.heard k (mem_of_mem_drop (hrecent ▸ hk))) hlength.1 hlength.2
    have hdistance := (hafter.measured rfl).2
    rw [hrecent, hy] at hdistance
    injection hdistance with hdistance
    exact ⟨y, hdistance.symm, hfinite, htrimmed⟩
  · rw [hafter.cached, ← hrecent, rtake_rtake _ (by decide)]

theorem steady_default : Rig.Steady {} := ⟨⟨by decide, rfl, rfl⟩, ⟨rfl, rfl⟩⟩

def ping (k : Int) : Incident := .reading ⟨.int k, []⟩ none

/-- Two readings, of ten and of twenty centimetres. -/
theorem distance_of_two_readings :
    let p := Op.runAll Incident.occur [.prepare, .start, ping 100] ⟨{}, {}, some {}, {}⟩
    ∃ y : Float, ((watch none).after p).game.distance = .float y ∧ y.isFinite = true := by
  intro p
  obtain ⟨-, -, ⟨y, hy, hfinite, -⟩, -⟩ := distance_of_readings steady_default {} (some {}) _
    (p := p) rfl rfl (by decide +kernel) (by decide +kernel) none rfl rfl
  exact ⟨y, hy, hfinite⟩

/-! ## What a turn sends -/

/-- The hardware holds out, and what was done to it since `base` has a property. -/
structure Does (P : Event → Prop) (base : List Event) (r : Rig) : Prop extends Rig.Steady r where
  done : ∃ more, r.delivered = base ++ more ∧ ∀ e ∈ more, P e

section
variable {P : Event → Prop} {base : List Event} {r : Rig}

theorem Does.extend (hr : Does P base r) {t : Rig} (ht : t.Steady) (new : List Event)
    (hnew : t.delivered = r.delivered ++ new) (hP : ∀ e ∈ new, P e) : Does P base t := by
  obtain ⟨more, hmore, hold⟩ := hr.done
  refine ⟨ht, more ++ new, ?_, fun e he => ?_⟩
  · rw [hnew, hmore, append_assoc]
  · exact (mem_append.mp he).elim (hold e) (hP e)

theorem turned_of_attempt? (hr : r.Steady) {s : Rig} (h : r.attempt? = some s) (w : WheelSpeeds) :
    (w.turned s).Steady ∧ (w.turned s).delivered = r.delivered ++ w.frames := by
  refine ⟨?_, ?_⟩
  · obtain ⟨-, rfl | rfl⟩ := Rig.attempt?_cases h
    · exact { hr with motors := w.fourMotors_records }
    · exact { hr with motors := w.fourMotors_records }
  · rw [← Rig.delivered_attempt? h]
    exact Board.delivered_turned _ _

theorem does_drive {speed direction rate : Value}
    (h : ∀ w, Chassis.wheelSpeeds (Value.int 67) (.int 59) speed direction rate = .ok w →
      ∀ e ∈ w.frames, P e) : Keeps (Does P base) (drive speed direction rate) := by
  rw [keeps_iff_wp]
  intro r hr
  cases hw : Chassis.wheelSpeeds (Value.int 67) (.int 59) speed direction rate with
  | error f =>
    unfold drive Chassis.setVelocity
    rw [hw]
    exact hr
  | ok w =>
    rw [Games.wp_drive hw hr.motors]
    cases htry : r.attempt? with
    | some s =>
      obtain ⟨hsteady, hframes⟩ := turned_of_attempt? hr.toSteady htry w
      exact hr.extend hsteady w.frames hframes (h w hw)
    | none =>
      refine hr.extend { hr with } [] ?_ (forall_mem_nil _)
      rw [append_nil, Rig.delivered_failed, Rig.delivered_failed]

theorem does_pause (hP : ∀ t, P (.slept t)) (seconds : Float) :
    Keeps (Does P base) (pause seconds) := by
  rw [keeps_iff_wp]
  intro r hr
  change wp (Rig.sleep _) _ _ _
  rw [Rig.wp_sleep hr.sleepsLeft hr.deadline]
  cases Rig.sleepLength (.float seconds) with
  | error f => exact hr
  | ok x =>
    refine hr.extend { hr with } [.slept (.float seconds)] ?_ (by simpa using hP _)
    unfold Rig.delivered
    rw [Array.toList_push, filter_append]
    rfl

end

/-- What a turn does apart from driving ahead: it turns on the spot, it halts and it sleeps. -/
structure Quiet (P : Event → Prop) : Prop where
  aside : ∀ e ∈ (sided (-63)).frames, P e
  halt : ∀ e ∈ (⟨0, 0, 0, 0⟩ : WheelSpeeds).frames, P e
  slept : ∀ t, P (.slept t)

section
variable {P : Event → Prop} {base : List Event} {p : Play Roaming}

theorem does_settle (hP : Quiet P) : Keeps (fun q => Does P base q.rig) settle := by
  have hrig {op : Op Rig Unit} (h : Keeps (Does P base) op) :
      Safe True (fun q : Play Roaming => Does P base q.rig) (Play.onRig op) :=
    .base (.onPart (fun _ hq => hq) (fun _ _ _ hr => hr) h)
  have hpause (seconds : Float) := hrig (does_pause hP.slept seconds)
  have hhalt : Safe True (fun q : Play Roaming => Does P base q.rig) (Play.onRig halt) :=
    hrig (does_drive fun w hw => by
      cases Chassis.wheelSpeeds_zero.symm.trans hw
      exact hP.halt)
  unfold settle
  exact .of_parts

theorem does_choose (hP : Quiet P) (hp : Does P base p.rig)
    (hgo : ∀ w, isNear p.game = .ok false → p.game.mayGo.truth →
      ahead p.game.speed = .ok w → ∀ e ∈ w.frames, P e) :
    wp choose (fun _ q => Does P base q.rig) (fun _ q => Does P base q.rig) p := by
  apply wp_except_bind
  · intro near hnear
    cases near with
    | true =>
      rw [if_pos rfl]
      split
      · rw [wp_bind, wp_update, wp_bind, liftM_rig, wp_onRig]
        have haside : Keeps (Does P base) (drive (.int 0) (.int 90) (.float (-0.5))) :=
          does_drive fun w hw => by
            cases aside_eq.symm.trans hw
            exact hP.aside
        refine wp_post (haside.wp hp) fun _ r hr => ?_
        rw [liftM_rig, wp_onRig]
        exact (does_pause hP.slept _).wp hr
      · exact hp
    | false =>
      rw [if_neg Bool.false_ne_true]
      split
      · rename_i hmay
        rw [wp_bind, wp_update, liftM_rig, wp_onRig]
        exact (does_drive fun w hw => hgo w hnear hmay hw).wp hp
      · exact hp
  · exact fun _ _ => hp

/-- Whether a turn orders the wheels to drive ahead: at a new speed, whatever is ahead, or because
nothing seems to be near. -/
def Goes (s : Roaming) : Prop :=
  s.speed.same s.lastSpeed = false ∨ isNear s = .ok false ∧ s.mayGo.truth

theorem does_turn_of_not_goes (hP : Quiet P) (hp : Does P base p.rig) (hgoes : ¬ Goes p.game) :
    Does P base (turn.after p).rig := by
  refine (wp_after_iff (P := fun q : Play Roaming => Does P base q.rig)).mp ?_
  cases hrun : p.game.running.truth with
  | false => exact (wp_of_ok (turn_of_idle hrun)).mpr hp
  | true =>
    have hsame : p.game.speed.same p.game.lastSpeed := by
      cases hsame : p.game.speed.same p.game.lastSpeed with
      | true => rfl
      | false => exact absurd (.inl hsame) hgoes
    rw [wp_turn hrun]
    unfold adapt
    rw [wp_bind, wp_state, hsame]
    have hchoose := does_choose hP hp fun w hnear hmay _ => absurd (.inr ⟨hnear, hmay⟩) hgoes
    change wp choose _ _ _
    exact wp_post hchoose fun _ q hq => (does_settle hP).wp hq

theorem go_outcome {speed : Value} (hw : ahead speed = .ok w) {r : Rig} (hr : r.Steady) :
    wp (go speed)
      (fun _ t => r.pendingFaults ≤ 1 ∧ Does (fun _ => True) (r.delivered ++ w.frames) t)
      (fun _ t => ¬ r.pendingFaults ≤ 1 ∧ t.delivered = r.delivered) r := by
  refine (Games.wp_drive hw hr.motors).mpr ?_
  rw [← Rig.attempt?_isSome]
  cases htry : r.attempt? with
  | none =>
    refine ⟨Bool.false_ne_true, ?_⟩
    rw [Rig.delivered_failed, Rig.delivered_failed]
  | some s =>
    obtain ⟨hsteady, hframes⟩ := turned_of_attempt? hr htry w
    exact ⟨rfl, hsteady, [], hframes.trans (append_nil _).symm, forall_mem_nil _⟩

theorem turn_of_goes (hp : p.rig.Steady) (hrun : p.game.running.truth)
    (hw : ahead p.game.speed = .ok w) (hgoes : Goes p.game) :
    p.rig.pendingFaults ≤ 1 ∧
        Does (fun _ => True) (p.rig.delivered ++ w.frames) (turn.after p).rig ∨
      ¬ p.rig.pendingFaults ≤ 1 ∧ (turn.after p).rig.delivered = p.rig.delivered := by
  have hall : Quiet fun _ => True := ⟨fun _ _ => trivial, fun _ _ => trivial, fun _ => trivial⟩
  let D (q : Play Roaming) : Prop := p.rig.pendingFaults ≤ 1 ∧
      Does (fun _ => True) (p.rig.delivered ++ w.frames) q.rig ∨
    ¬ p.rig.pendingFaults ≤ 1 ∧ q.rig.delivered = p.rig.delivered
  have hsettle {q : Play Roaming} (h1 : p.rig.pendingFaults ≤ 1)
      (hq : Does (fun _ => True) (p.rig.delivered ++ w.frames) q.rig) :
      wp settle (fun _ q => D q) (fun _ q => D q) q :=
    wp_mono ((does_settle hall).wp hq) (fun _ _ ht => .inl ⟨h1, ht⟩) fun _ _ ht => .inl ⟨h1, ht⟩
  refine (wp_after_iff (P := D)).mp ?_
  rw [wp_turn hrun]
  unfold adapt
  rw [wp_bind, wp_state]
  cases hsame : p.game.speed.same p.game.lastSpeed with
  | false =>
    change wp (_ >>= _) _ _ _
    rw [wp_bind, wp_update, liftM_rig, wp_onRig]
    refine wp_mono (go_outcome hw hp) (fun _ r hr => ?_) fun _ r hr => .inr hr
    have hchoose := does_choose (p := { p with rig := r, game := { p.game with
      lastSpeed := p.game.speed } }) hall hr.2 fun _ _ _ _ _ _ => trivial
    exact wp_mono hchoose (fun _ q hq => hsettle hr.1 hq) fun _ q hq => .inl ⟨hr.1, hq⟩
  | true =>
    obtain hnew | ⟨hnear, hmay⟩ := hgoes
    · cases hsame.symm.trans hnew
    · change wp choose _ _ _
      unfold choose
      refine (wp_ok_bind hnear _).mpr ?_
      rw [if_neg Bool.false_ne_true, if_pos hmay, wp_bind, wp_update, liftM_rig, wp_onRig]
      refine wp_mono (go_outcome hw hp) (fun _ r hr => ?_) fun _ r hr => .inr hr
      exact hsettle hr.1 hr.2

end

def sent (p : Play Roaming) : List Event :=
  (turn.after p).rig.delivered.drop p.rig.delivered.length

def DrivesAhead (p : Play Roaming) : Prop :=
  ∃ (n : Int) (w : WheelSpeeds), p.game.speed = .int n ∧ 0 < n ∧ ahead (.int n) = .ok w ∧
    w.frames <:+: sent p

theorem quiet_ne {n : Int} (hn : 0 < n) (hw : ahead (.int n) = .ok w) :
    Quiet (· ≠ (w.order 0).frame) := by
  have hpos := Chassis.frontLeft_pos hn hw
  have hspeed : 156 ≤ (Board.mounted 0 w.frontLeft % 256).toNat := by
    unfold Board.mounted
    omega
  have hother {i : Fin 4} {k : Int} (hk : 0 ≤ k) (hsmall : k < 156) (o : Board.MotorOrder)
      (ho : o.motor = i) (hspeed' : i = 0 → o.speed = k) : o.frame ≠ (w.order 0).frame := by
    intro heq
    injection heq with _ hbytes
    injection hbytes with hmotor hbytes
    injection hbytes with hbyte
    have h0 : i = 0 := by
      rw [ho] at hmotor
      change 31 + i.val = 31 + 0 at hmotor
      omega
    rw [hspeed' h0] at hbyte
    change (k % 256).toNat = (Board.mounted 0 w.frontLeft % 256).toNat at hbyte
    omega
  refine ⟨fun e he => ?_, fun e he => ?_, nofun⟩
  · obtain ⟨i, rfl⟩ := mem_ofFn.mp he
    refine hother (k := 63) (by decide) (by decide) _ rfl ?_
    rintro rfl
    rfl
  · obtain ⟨i, rfl⟩ := mem_ofFn.mp he
    refine hother (k := 0) (by decide) (by decide) _ rfl ?_
    rintro rfl
    rfl

theorem drivesAhead_iff {p : Play Roaming} (hp : p.rig.Steady) (hrun : p.game.running.truth) :
    DrivesAhead p ↔ p.rig.pendingFaults ≤ 1 ∧ Goes p.game ∧
      ∃ (n : Int) (w : WheelSpeeds), p.game.speed = .int n ∧ 0 < n ∧ ahead (.int n) = .ok w := by
  constructor
  · rintro ⟨n, w, hspeed, hn, hw, hsent⟩
    have hfst : (w.order 0).frame ∈ sent p :=
      hsent.subset (mem_ofFn.mpr ⟨0, rfl⟩)
    have hgoes : Goes p.game := by
      by_contra hgoes
      have hstart : Does (· ≠ (w.order 0).frame) p.rig.delivered p.rig :=
        ⟨hp, [], (append_nil _).symm, forall_mem_nil _⟩
      obtain ⟨more, hmore, hquiet⟩ := (does_turn_of_not_goes (quiet_ne hn hw) hstart hgoes).done
      unfold sent at hfst
      rw [hmore, drop_left] at hfst
      exact hquiet _ hfst rfl
    obtain ⟨h1, -⟩ | ⟨-, hnothing⟩ := turn_of_goes hp hrun (hspeed ▸ hw) hgoes
    · exact ⟨h1, hgoes, n, w, hspeed, hn, hw⟩
    · unfold sent at hfst
      rw [hnothing, drop_length] at hfst
      cases hfst
  · rintro ⟨h1, hgoes, n, w, hspeed, hn, hw⟩
    obtain ⟨-, hdoes⟩ | ⟨hmany, -⟩ := turn_of_goes hp hrun (hspeed ▸ hw) hgoes
    · obtain ⟨more, hmore, -⟩ := hdoes.done
      refine ⟨n, w, hspeed, hn, hw, [], more, ?_⟩
      unfold sent
      rw [hmore, append_assoc p.rig.delivered, drop_left]
      rfl
    · exact absurd h1 hmany

theorem atMost_nan (t : Num) : (Num.float (0.0 / 0.0)).atMost t = false := by
  cases t with
  | int n => rfl
  | float y =>
    rfl

/-- Among obstacles only, a turn drives ahead at a speed that is new, or if the sonar was heard a
single time so far, so that there is no distance yet. -/
theorem drivesAhead_among_obstacles_iff {rig : Rig} (hrig : rig.Steady) (files : ConfigFiles)
    (sonar : Option Sonar) (course : List Incident) {p : Play Roaming} {e : Echoes}
    (hp : Op.runAll Incident.occur course ⟨rig, files, sonar, {}⟩ = p)
    (he : echoes course ⟨rig, files, sonar, {}⟩ {} = e) (hrunning : p.game.running.truth = true)
    (hfresh : e.fresh = true) {t : Num} (hthreshold : p.game.threshold.num? = some t)
    (hfinite : t.IsFinite) (hmultiples : ∀ i ≤ 5, IsDouble ((i : ℕ) * t.amount))
    (hnear : ∀ k ∈ e.heard.rtake 5, amount (nearestInt k / 10) ≤ t.amount) :
    DrivesAhead p ↔ p.rig.pendingFaults ≤ 1 ∧
      (p.game.speed.same p.game.lastSpeed = false ∨
        e.heard.length = 1 ∧ p.game.mayGo.truth = true) ∧
      ∃ (n : Int) (w : WheelSpeeds), p.game.speed = .int n ∧ 0 < n ∧ ahead (.int n) = .ok w := by
  have hinformed : Informed e p := hp ▸ he ▸ (informed_start hrig files sonar).runAll course
  obtain ⟨hheard, hdistance⟩ := hinformed.measured hfresh
  have hsome := length_pos_iff.mpr hheard
  have hisNear {y : Float} (hy : estimate ((e.heard.rtake 5).map centimetres) = .ok (.float y)) :
      isNear p.game = .ok ((Num.float y).atMost t) := by
    injection hdistance.symm.trans hy with hvalue
    exact Value.compare_of_num? (congrArg Value.num? hvalue) hthreshold .le
  have hfar : isNear p.game = .ok false ↔ e.heard.length = 1 := by
    by_cases hsingle : e.heard.length = 1
    · obtain ⟨k, hk⟩ := length_eq_one_iff.mp hsingle
      have hy : estimate ((e.heard.rtake 5).map centimetres) = .ok (.float (0.0 / 0.0)) := by
        rw [hk]
        exact estimate_single (hinformed.heard k (by simp [hk]))
      rw [hisNear hy, atMost_nan]
      exact iff_of_true rfl hsingle
    · have hlength : 2 ≤ (e.heard.rtake 5).length ∧ (e.heard.rtake 5).length ≤ 5 := by
        unfold rtake
        rw [length_drop]
        omega
      obtain ⟨y, hy, -, hnumber, hbound⟩ := exists_estimate
        (fun k hk => hinformed.heard k (mem_of_mem_drop hk)) hlength.1 hlength.2
      have hle : (Num.float y).atMost t = true := by
        rw [Num.atMost_eq_amount (a := .float y) hnumber hfinite, decide_eq_true_iff]
        exact hbound _ hmultiples hnear
      rw [hisNear hy, hle]
      exact iff_of_false nofun hsingle
  rw [drivesAhead_iff hinformed.rig hrunning, Goes, hfar]

/-- With two near readings, the turn after the one that took over the speed does not drive ahead. -/
theorem not_drivesAhead_after_two_readings :
    let p := Op.runAll Incident.occur [.prepare, .start, .threshold (.list [.int 30]), ping 100,
      ping 200, .turn] ⟨{}, {}, some {}, {}⟩
    p.game.running.truth = true ∧ ¬ DrivesAhead p := by
  intro p
  have hrunning : p.game.running.truth = true := by decide +kernel
  have hthreshold : p.game.threshold.integer? = some 30 := by decide +kernel
  have hheard : (echoes [.prepare, .start, .threshold (.list [.int 30]), ping 100, ping 200, .turn]
      ⟨{}, {}, some {}, {}⟩ {}).heard = [100, 200] := by decide +kernel
  have hten : amount (nearestInt (100 : ℕ) / 10) = (10 : ℕ) :=
    (amount_nearestNat (n := 10) (by decide)).2
  have htwenty : amount (nearestInt (200 : ℕ) / 10) = (20 : ℕ) :=
    (amount_nearestNat (n := 20) (by decide)).2
  have hiff := drivesAhead_among_obstacles_iff steady_default {}
    (some {}) _ (p := p) rfl rfl hrunning (by decide +kernel) (Value.num?_of_integer? hthreshold) trivial
    (fun i hi => ?_) ?_
  · refine ⟨hrunning, fun hahead => ?_⟩
    obtain ⟨-, hnew | ⟨hone, -⟩, -⟩ := hiff.mp hahead
    · exact absurd hnew (by decide +kernel)
    · rw [hheard] at hone
      cases hone
  · change IsDouble (i * ((30 : ℤ) : ℚ))
    exact_mod_cast isDouble_natCast (n := i * 30) (by omega)
  · rw [hheard]
    change ∀ k ∈ [100, 200], amount (nearestInt (k : ℕ) / 10) ≤ ((30 : ℤ) : ℚ)
    rw [forall_mem_cons, forall_mem_singleton, hten, htwenty]
    norm_num

/-- The first turn after the start drives ahead, with a reading of ten centimetres. -/
theorem drivesAhead_at_first_turn :
    let p := Op.runAll Incident.occur [.prepare, .start, ping 100] ⟨{}, {}, some {}, {}⟩
    (p.game.readings.same (.list [.float 10]) = true ∧ p.game.threshold.same (.float 30) = true) ∧
      DrivesAhead p := by
  intro p
  have hinformed : Informed _ p :=
    (informed_start steady_default {} (some {})).runAll _
  obtain ⟨w, hw⟩ := Chassis.exists_wheelSpeeds_ahead (n := 40) (by decide) (by decide)
  obtain ⟨n, hspeed⟩ := hinformed.speed
  have hn : n = 40 := by
    have hinteger : p.game.speed.integer? = some 40 := by decide +kernel
    rw [hspeed] at hinteger
    exact Option.some_inj.mp hinteger
  subst hn
  have hgoes : Goes p.game := .inl (by decide +kernel)
  exact ⟨by decide +kernel, (drivesAhead_iff hinformed.rig (by decide +kernel)).mpr
    ⟨by decide +kernel, hgoes, 40, w, hspeed, by decide, hw⟩⟩

end Roaming

end Rover
