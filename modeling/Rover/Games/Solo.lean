import Rover.Capture
import Rover.Games.Arcade

/-!
# A game as a program of its own

The program opens the camera, hands every picture to the game and shows the result in a window,
until a key is pressed or an interrupt ends the game.
-/

namespace Rover

structure Solo where
  arcade : Arcade := {}
  camera : Capture := {}
  upcoming : List (Option Scene) := []
  shows : Nat := 0
  interruptAt : Option Nat := none
  quitAt : Option Nat := none

namespace Solo

variable {α : Type}

abbrev M := Op (Play Solo)

open Play (update state)

@[inline] def inArcade (op : Op (Play Arcade) α) : M α :=
  Play.within arcade ({ · with arcade := · }) op

@[inline] def onCamera (op : Op Studio α) : M α :=
  Op.onPart (fun p => ⟨p.rig, p.game.camera⟩)
    (fun p s => { p with rig := s.rig, game := { p.game with camera := s.camera } }) op

def setUp : GameName → M Unit
  | .chase => update fun s =>
    { s with arcade.chase.targets := .tuple [.str "red"], arcade.chase.follows := .bool true }
  | .patrol => update fun s =>
    { s with arcade.patrol.targets := .tuple [.str "black"], arcade.patrol.running := .bool true }
  | .roaming => modify fun p => { p with sonar := some {} }
  | _ => pure ()

def goesOn : GameName → Arcade → Bool
  | .spotter, a => a.spotter.running.truth
  | .alarm, a => a.alarm.running.truth
  | .chase, a => a.chase.running.truth
  | .patrol, a => a.patrol.running.truth
  | .track, a => a.track.running.truth
  | .reader, a => a.reader.running.truth
  | .signs, a => a.signs.running.truth
  | .roaming, a => a.roaming.running.truth
  | .faces, a => a.faces.running.truth
  | .tuner, _ => true
  | .remote, _ | .idle, _ => false

def await : M Unit := do
  Play.onRig (Rig.sleep (.float 0.01))
  let s ← state
  if s.camera.frame.isNone then
    update ({ · with
      upcoming := s.upcoming.tail, camera.frame := s.upcoming.head?.join.map Raster.ofScene })

def present (game : Game Arcade) : M Unit := do
  Play.onRig (Rig.emit (.shown "frame" 240 320))
  update fun s => { s with camera.frame := none, shows := s.shows + 1 }
  let s ← state
  if s.interruptAt = some s.shows then
    if let some op := game.interrupt then
      Play.onRig (Rig.emit .interrupt)
      inArcade op

def look (name : GameName) : Nat → M Unit
  | 0 => return
  | fuel + 1 => do
    let s ← state
    if !goesOn name s.arcade then return
    match s.camera.frame with
    | none =>
      await
      look name fuel
    | some picture =>
      let _ ← inArcade ((Arcade.game name).watch (some picture))
      present (Arcade.game name)
      let s ← state
      if s.quitAt = some s.shows then return
      look name fuel

def run (name : GameName) (sleeps : Nat) : M Unit := do
  if name matches .remote | .idle then return
  modify fun p => { p with rig.sleepsLeft := some sleeps }
  let game := Arcade.game name
  inArcade game.prepare
  inArcade (game.start.getD (pure ()))
  setUp name
  onCamera (Capture.openWith true)
  look name (sleeps + (← state).upcoming.length + 1)
  onCamera Capture.close
  Play.onRig (Rig.emit .windowsClosed)

end Solo

end Rover
