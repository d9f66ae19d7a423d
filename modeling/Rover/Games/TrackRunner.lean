import Rover.Games.Blob
import Rover.Games.Poll
import Rover.LineSensor

/-!
# Following a track

The vehicle follows a dark line on the ground by four sensors.
-/

namespace Rover

structure TrackRunner where
  thresholds : Value := .none
  servos : Value := .none
  tilt : Value := .int 1500
  pan : Value := .int 1500
  targets : Value := .tuple [.str "red", .str "green"]
  running : Value := .bool false
  moving : Value := .bool false
  poll : Poll := {}

namespace TrackRunner

abbrev M := Op (Play TrackRunner)

open Play (update state)
open Games

def load : M Unit := do
  let files := (← get).files
  update ({ · with thresholds := files.thresholds, servos := files.servos })

def reset : M Unit := do
  update fun s => { s with
    moving := .bool false, poll := s.poll.clear }
  let tilt ← (← state).servos.subscript (.str "servo1")
  update ({ · with tilt })
  let pan ← (← state).servos.subscript (.str "servo2")
  update ({ · with pan })

def aim : M Unit := do
  halt
  let s ← state
  look s.tilt s.pan

def prepare : M Unit := do
  load
  reset
  aim

def speed : Value := .int 35

def forward (turn : Value) : Op Rig Unit := drive speed (.int 90) turn

def start : M Unit := do
  reset
  update ({ · with running := .bool true })
  forward (.int 0)

def stop : M Unit := do
  update ({ · with moving := .bool true, running := .bool false })
  dark

def interrupt : M Unit := do
  update ({ · with running := .bool false })
  halt

def setTargets (targets : Value) : M Value := do
  update ({ · with targets })
  return .tuple [.bool true, .tuple []]

def candidates : List String := ["red", "green"]

def vote (color : Value) : M (Option (Option String)) :=
  Op.onPart (fun p => p.game.poll) (fun p q => { p with game := { p.game with poll := q } })
    (Poll.cast candidates color)

def judge (seen : Option Value) : M Unit := do
  match seen with
  | none => update fun s => { s with poll := s.poll.vacate }
  | some color =>
    if let some winner ← vote color then
      update fun s => { s with poll := s.poll.declare winner }

def watch (frame : Option Raster) : M Shown := do
  let s ← state
  if s.running.truth then
    let picture ← Blob.smooth (← present frame)
    judge (← Blob.dominantIn s.thresholds s.targets picture)
    (← state).poll.checkCaption
  return .given

def rest : M Unit := do
  if (← state).moving.truth then
    halt
    update ({ · with moving := .bool false })

def steering : List Bool → Option Value
  | [false, true, true, false] => some (.int 0)
  | [false, false, true, false] => some (.float 0.03)
  | [false, true, false, false] => some (.float (-0.03))
  | [false, false, false, true] => some (.float 0.3)
  | [true, false, false, false] => some (.float (-0.3))
  | _ => none

def advance (turn : Value) : M Unit := do
  forward turn
  update ({ · with moving := .bool true })

def steer (eyes : List Bool) : M Unit := do
  if let some turn := steering eyes then advance turn
  else if eyes.all id then
    rest
    pause 0.01

def follow : M Unit := do
  light (← state).poll.elected
  steer (← LineSensor.read)
  if (← state).poll.elected.same (.str "green") && !(← state).moving.truth then advance (.int 0)

def wait : M Unit := do
  if (← state).moving.truth then
    beep (.float 0.1)
    light (← state).poll.elected
    halt
    update ({ · with moving := .bool false })
  pause 0.01

def turn : M Unit := do
  let s ← state
  if s.running.truth then
    if s.poll.elected.same (.str "red") then wait else follow
  else
    rest
    pause 0.01

def game : Game TrackRunner where
  load; prepare; reset; start; stop; leave := stop; aim; interrupt; watch; turn
  panel := Poll.dials poll ({ · with poll := · }) ++ [
    ⟨"running", running, ({ · with running := · })⟩,
    ⟨"car_stop", moving, ({ · with moving := · })⟩,
    ⟨"servo1", tilt, ({ · with tilt := · })⟩,
    ⟨"servo2", pan, ({ · with pan := · })⟩,
    ⟨"target_color", targets, ({ · with targets := · })⟩]
  settings := [
    ⟨"lab_data", thresholds, ({ · with thresholds := · })⟩,
    ⟨"servo_data", servos, ({ · with servos := · })⟩]

end TrackRunner

end Rover
