import Rover.Proofs.Switchboard.Hardware

/-!
# The watchman

When no report has come in time, the watchman unloads the game. Whether the wheels come to rest
then is up to the game: some games leave them as whoever drove last has set them.
-/

namespace Rover

open Switchboard

open Play (fit_within)
open Chassis (AtRest)

namespace Switchboard

variable {P : List Value → Prop} {K : ConfigFiles → Bool → Prop} {g : GameName}
  {op : Op (Play Arcade) Unit}

def stopping : List GameName := [.chase, .patrol, .reader, .roaming]

theorem leave_rests (hg : g ∈ stopping) (hreader : g ≠ .reader)
    (h : (Arcade.game g).leave = some op) : Rests K op := by
  cases g with
  | chase =>
    cases h
    exact ColorChase.stop_rests.within _ _
  | patrol =>
    cases h
    exact LinePatrol.stop_rests.within _ _
  | roaming =>
    cases h
    exact Roaming.leave_rests.within _ _
  | reader => exact absurd rfl hreader
  | remote | idle | spotter | alarm | track | signs | faces | tuner => simp [stopping] at hg

theorem fit_leave {k : Int} (hk : (k, some g) ∈ games) (hg : g ∉ stopping)
    (h : (Arcade.game g).leave = some op) : Uncut (Fit P K) op := by
  cases g with
  | remote =>
    cases h
    exact .pure _
  | spotter =>
    cases h
    exact fit_within _ _ ColorSpotter.fit_stop
  | tuner =>
    cases h
    exact fit_within _ _ fun _ hp => ⟨hp.rig, hp.kit⟩
  | chase | patrol | reader | roaming => simp [stopping] at hg
  | idle | alarm | track | signs | faces => simp [games] at hk

theorem fit_turn {k : Int} (hk : (k, some g) ∈ games) (hg : g ∉ stopping)
    (h : (Arcade.game g).turn = some op) : Uncut (Fit P K) op := by
  cases g with
  | remote | tuner => cases h
  | spotter =>
    cases h
    exact fit_within _ _ ColorSpotter.fit_turn
  | chase | patrol | reader | roaming => simp [stopping] at hg
  | idle | alarm | track | signs | faces => simp [games] at hk

/-- The loaded game has been left, which led to `t`; the motors were not touched since. -/
structure Unloaded (K : ConfigFiles → Bool → Prop) (s q : Play Switchboard) (g : GameName)
    (t : Play Arcade) : Prop where
  game : gameAt s.game.loaded = .ok (some g)
  left : ∃ op, (Arcade.game g).leave = some op ∧ op (arcadeOf s) = .ok () t
  loaded : q.game.loaded = .int 0
  arcade : q.game.arcade = t.game
  fit : q.Fit (· = t.rig.board.motors) K

theorem close_unloaded {s q : Play Switchboard} {t : Play Arcade} (hq : Unloaded K s q g t) :
    wp (do closeCamera; Play.onRig (Rig.sleep (.float 0.1)) : M Unit)
      (fun _ q => Unloaded K s q g t) (fun _ _ => True) q := by
  have hfit : Uncut (Fit (· = t.rig.board.motors) K)
      (do closeCamera; Play.onRig (Rig.sleep (.float 0.1)) : M Unit) := .of_parts
  have hgame : Keeps (fun q => q.game.loaded = .int 0 ∧ q.game.arcade = t.game)
      (do closeCamera; Play.onRig (Rig.sleep (.float 0.1)) : M Unit) := .of_parts
  refine wp_mono (hfit.and hgame q ⟨hq.fit, hq.loaded, hq.arcade⟩) (fun _ q' h => ?_)
    fun _ _ _ => trivial
  exact ⟨hq.game, hq.left, h.2.1, h.2.2, h.1⟩

theorem guardOnce_unloads {s : Play Switchboard} (hs : s.Fit FourMotors K)
    (hdue : s.game.due.less (.float s.rig.clock) = .ok true)
    (hload : s.game.loaded.same (.int 0) = false) :
    wp guardOnce (fun _ q => ∃ g t, Unloaded K s q g t) (fun _ _ => True) s := by
  -- a round that fails before the game has been left does not end
  rw [wp_guardOnce ⟨hdue, hload⟩, wp_part]
  split
  · trivial
  · trivial
  · rename_i g hg
    obtain ⟨k, hk, -⟩ := gameAt_eq_ok_iff.mp hg
    split
    · trivial
    · rename_i op hop
      have hfit := game_staysFit (K := K) hk .leave op hop (arcadeOf s) ⟨hs.rig, hs.kit⟩
      -- the state in which leaving ends is kept, for what each game does to the motors
      have hout : wp op (fun a t => op (arcadeOf s) = .ok a t)
          (fun e t => op (arcadeOf s) = .error e t) (arcadeOf s) :=
        wp_outcome_iff.mpr rfl
      refine wp_mono (wp_and hfit hout) (fun _ t ht => ?_) fun _ _ _ => trivial
      have hunloaded : Unloaded K s
          { withArcade s t with game := { (withArcade s t).game with loaded := .int 0 } } g t :=
        ⟨hg, ⟨op, hop, ht.2⟩, rfl, rfl, { ht.1.rig with motors := rfl }, ht.1.kit⟩
      exact wp_mono (close_unloaded hunloaded) (fun _ q hq => ⟨g, t, hq⟩) fun _ _ _ => trivial

end Switchboard

namespace Remote

open Switchboard (gameAt gameAt_eq_ok_iff guardOnce stopping Request Unloaded arcadeOf)

/-- What can happen to the vehicle: something is asked of the switchboard, the motors or the
direction are set from outside, or time passes. -/
inductive Act where
  | request (r : Request)
  | setMotors (args : List Value)
  | move (angle : Value)
  | wait (seconds : Float)

def Act.perform : Act → Server.M Unit
  | request r => Server.onBoard r.serve
  | setMotors args => do let _ ← Method.setMotors args
  | move angle => do let _ ← Method.move angle
  | wait seconds => modify fun p => { p with rig := { p.rig with clock := p.rig.clock + seconds } }

def history (acts : List Act) (p : Play Server) : Play Server := Op.runAll Act.perform acts p

section
variable {K : ConfigFiles → Bool → Prop}

theorem fit_onBoard {α : Type} {P : List Value → Prop} {op : Op (Play Switchboard) α}
    (h : Uncut (Fit P K) op) : Uncut (Fit P K) (Server.onBoard op) :=
  fit_within Server.board (fun s b => { s with board := b }) h

theorem fit_perform (a : Act) : Uncut (Fit FourMotors K) a.perform := by
  cases a with
  | request r => exact fit_onBoard .of_parts
  | setMotors | move =>
    dsimp only [Act.perform, Method.setMotors, Method.move, Method.tried]
    exact .of_parts
  | wait seconds => exact .modify fun _ h => ⟨{ h.rig with }, h.kit⟩

theorem fit_history (acts : List Act) {p : Play Server} (hp : p.Fit FourMotors K) :
    (history acts p).Fit FourMotors K :=
  runAll_keeps (fun a => (fit_perform a).keeps) acts hp

end

def ComesToRest (g : GameName) (q : Play Server) : Prop :=
  AtRest q.rig.board.motors ∨
    ∃ turn, (Arcade.game g).turn = some turn ∧
      AtRest ((Server.inArcade turn).after q).rig.board.motors

structure Overdue (s : Play Server) : Prop where
  due : s.game.board.due.less (.float s.rig.clock) = .ok true
  loaded : s.game.board.loaded.same (.int 0) = false

def boardOf (p : Play Server) : Play Switchboard := ⟨p.rig, p.files, p.sonar, p.game.board⟩

section
variable {K : ConfigFiles → Bool → Prop} {s q : Play Server} {g : GameName} {t : Play Arcade}

section

variable (hs : s.Fit FourMotors K)
include hs

theorem round_unloads (hlate : Overdue s) (hround : Server.onBoard guardOnce s = .ok () q) :
    ∃ g t, Unloaded K (boardOf s) (boardOf q) g t := by
  have hunloads := guardOnce_unloads (s := boardOf s) ⟨hs.rig, hs.kit⟩ hlate.due
    hlate.loaded
  have hwp : wp (Server.onBoard guardOnce)
      (fun _ q => ∃ g t, Unloaded K (boardOf s) (boardOf q) g t) (fun _ _ => True) s :=
    (wp_within ..).mpr hunloads
  exact (wp_of_ok hround).mp hwp

theorem reader_comesToRest
    (hq : Unloaded K (boardOf s) (boardOf q) .reader t) : ComesToRest .reader q := by
  obtain ⟨op, hop, hleft⟩ := hq.left
  cases hop
  -- leaving only raises flags; the motors are as they were
  obtain ⟨hrun, hstop, hkept⟩ : t.game.reader.running = .bool false ∧
      t.game.reader.stopping = .bool true ∧ t.rig.board.motors = s.rig.board.motors := by
    cases hleft
    exact ⟨rfl, rfl, rfl⟩
  have harcade : q.game.board.arcade = t.game := hq.arcade
  have hmot : FourMotors q.rig.board.motors := by
    have hmot : q.rig.board.motors = t.rig.board.motors := hq.fit.rig.motors
    rw [hmot, hkept]
    exact hs.rig.motors
  have hturn : wp (Server.inArcade (Play.within Arcade.reader (fun a s => { a with reader := s })
      CodeReader.turn)) (fun _ q => AtRest q.rig.board.motors)
      (fun _ q => AtRest q.rig.board.motors) q := by
    unfold Server.inArcade Server.onBoard inArcade
    rw [wp_within, wp_within, wp_within, harcade]
    exact wp_mono (CodeReader.turn_rests ⟨{ hq.fit.rig with motors := hmot }, hq.fit.kit⟩
      hrun hstop) (fun _ q hq => hq.rig.motors) fun _ q hq => hq.rig.motors
  exact .inr ⟨_, rfl, wp_after_iff.mp hturn⟩

theorem comesToRest_of_stopping
    (hq : Unloaded K (boardOf s) (boardOf q) g t) (hg : g ∈ stopping) :
    ComesToRest g q := by
  obtain ⟨op, hop, hleft⟩ := hq.left
  have hmot : q.rig.board.motors = t.rig.board.motors := hq.fit.rig.motors
  by_cases hreader : g = .reader
  · subst hreader
    exact reader_comesToRest hs hq
  · left
    have hrests := leave_rests (K := K) hg hreader hop
      (arcadeOf (boardOf s)) ⟨hs.rig, hs.kit⟩
    rw [hmot]
    exact ((wp_of_ok hleft).mp hrests).rig.motors

theorem comesToRest_iff_of_not_stopping
    (hq : Unloaded K (boardOf s) (boardOf q) g t) (hg : g ∉ stopping) :
    ComesToRest g q ↔ AtRest s.rig.board.motors := by
  obtain ⟨op, hop, hleft⟩ := hq.left
  obtain ⟨k, hk, -⟩ := gameAt_eq_ok_iff.mp hq.game
  have hs' : (arcadeOf (boardOf s)).Fit (· = s.rig.board.motors) K :=
    ⟨{ hs.rig with motors := rfl }, hs.kit⟩
  have ht := (wp_of_ok hleft).mp (fit_leave hk hg hop _ hs')
  have hmot : q.rig.board.motors = s.rig.board.motors :=
    hq.fit.rig.motors.trans ht.rig.motors
  constructor
  · rintro (hrest | ⟨turn, hturn, hrest⟩)
    · rw [← hmot]
      exact hrest
    · have hturned : Uncut (Fit (· = s.rig.board.motors) K) (Server.inArcade turn) :=
        fit_onBoard (fit_within _ _ (fit_turn hk hg hturn))
      have hafter := hturned.keeps.after (s := q) ⟨{ hq.fit.rig with motors := hmot }, hq.fit.kit⟩
      rw [← hafter.rig.motors]
      exact hrest
  · intro hrest
    left
    rw [hmot]
    exact hrest

end

end

/-- From any state of hardware that works, after any history: if a report is overdue while a game is
loaded and the watchman's round ends, then no game is loaded any more. The wheels come to rest then
exactly if the game sees to it or they were at rest before. -/
theorem watchman_stops_iff (p : Play Server) (hp : Working FourMotors p.rig) (acts : List Act)
    (q : Play Server) (hoverdue : Overdue (history acts p))
    (hround : Server.onBoard guardOnce (history acts p) = .ok () q) :
    q.game.board.loaded = .int 0 ∧
      ∃ g, gameAt (history acts p).game.board.loaded = .ok (some g) ∧
        (ComesToRest g q ↔ g ∈ stopping ∨ AtRest (history acts p).rig.board.motors) := by
  have hfit : (history acts p).Fit FourMotors fun _ _ => True := fit_history acts ⟨hp, trivial⟩
  obtain ⟨g, t, hq⟩ := round_unloads hfit hoverdue hround
  refine ⟨hq.loaded, g, hq.game, ?_⟩
  by_cases hg : g ∈ stopping
  · exact ⟨fun _ => .inl hg, fun _ => comesToRest_of_stopping hfit hq hg⟩
  · rw [comesToRest_iff_of_not_stopping hfit hq hg]
    exact ⟨.inr, fun h => h.resolve_left hg⟩

def started : Play Server := ⟨{}, {}, some {}, {}⟩

theorem started_working : Working FourMotors started.rig := ⟨by decide, rfl, rfl, rfl, rfl, rfl⟩

def abandoned (number : Int) : List Act := [
  .request (.load (.tuple [.int number])),
  .setMotors [.int 1, .int 50, .int 2, .int 50, .int 3, .int 50, .int 4, .int 50],
  .wait 20]

theorem overdue_of_toOption {s : Play Server}
    (hdue : (s.game.board.due.less (.float s.rig.clock)).toOption = some true)
    (hload : s.game.board.loaded.same (.int 0) = false) : Overdue s := by
  refine ⟨?_, hload⟩
  cases h : s.game.board.due.less (.float s.rig.clock) with
  | error f =>
    rw [h] at hdue
    cases hdue
  | ok late =>
    rw [h] at hdue
    exact congrArg Except.ok (Option.some.inj hdue)

theorem watchman_stops_iff_reader :
    Overdue (history (abandoned 5) started) ∧
      ¬ AtRest (history (abandoned 5) started).rig.board.motors ∧
      ∃ q, Server.onBoard guardOnce (history (abandoned 5) started) = .ok () q ∧
        q.game.board.loaded = .int 0 ∧ ComesToRest .reader q := by
  have hoverdue : Overdue (history (abandoned 5) started) :=
    overdue_of_toOption (by decide +kernel) (by decide +kernel)
  obtain ⟨q, hround⟩ : ∃ q, Server.onBoard guardOnce (history (abandoned 5) started) = .ok () q :=
    Op.exists_ok_of_completes (by decide +kernel)
  obtain ⟨hloaded, g, hg, hrest⟩ :=
    watchman_stops_iff started started_working (abandoned 5) q hoverdue hround
  have hgame : gameAt (history (abandoned 5) started).game.board.loaded =
      .ok (some .reader) := gameAt_eq_ok_iff.mpr ⟨5, by decide, by decide +kernel⟩
  cases hgame.symm.trans hg
  exact ⟨hoverdue, by decide +kernel, q, hround, hloaded, hrest.mpr (.inl (by decide))⟩

/-- The wheels of a vehicle that is driven by hand keep turning. -/
theorem abandoned_keeps_driving :
    Overdue (history (abandoned 1) started) ∧
      gameAt (history (abandoned 1) started).game.board.loaded = .ok (some .remote) ∧
      ∃ q, Server.onBoard guardOnce (history (abandoned 1) started) = .ok () q ∧
        q.game.board.loaded = .int 0 ∧ ¬ ComesToRest .remote q := by
  have hoverdue : Overdue (history (abandoned 1) started) :=
    overdue_of_toOption (by decide +kernel) (by decide +kernel)
  have hgame : gameAt (history (abandoned 1) started).game.board.loaded =
      .ok (some .remote) := gameAt_eq_ok_iff.mpr ⟨1, by decide, by decide +kernel⟩
  obtain ⟨q, hround⟩ : ∃ q, Server.onBoard guardOnce (history (abandoned 1) started) = .ok () q :=
    Op.exists_ok_of_completes (by decide +kernel)
  have hfit : (history (abandoned 1) started).Fit FourMotors fun _ _ => True :=
    fit_history _ ⟨started_working, trivial⟩
  obtain ⟨g, t, hq⟩ := round_unloads hfit hoverdue hround
  cases hgame.symm.trans hq.game
  refine ⟨hoverdue, hgame, q, hround, hq.loaded, ?_⟩
  rw [comesToRest_iff_of_not_stopping hfit hq (by decide)]
  decide +kernel

end Remote

end Rover
