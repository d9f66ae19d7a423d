import Rover.Games.Blob
import Rover.Games.Poll

/-!
# Warning of red

The buzzer sounds when red is seen, but not again within three seconds.
-/

namespace Rover

structure ColorAlarm where
  thresholds : Value := .none
  servos : Value := .none
  tilt : Value := .int 1500
  pan : Value := .int 1500
  targets : Value := .tuple [.str "red", .str "green", .str "blue"]
  running : Value := .bool false
  quietUntil : Value := .int 0
  poll : Poll := {}

namespace ColorAlarm

abbrev M := Op (Play ColorAlarm)

open Play (update state)
open Games

def load : M Unit := do
  let files := (← get).files
  update ({ · with thresholds := files.thresholds, servos := files.servos })
  let tilt ← files.servos.subscript (.str "servo1")
  update ({ · with tilt })
  let pan ← files.servos.subscript (.str "servo2")
  update ({ · with pan })

def aim : M Unit := do
  let s ← state
  look s.tilt s.pan

def prepare : M Unit := do
  load
  aim

def start : M Unit := update ({ · with running := .bool true })

def interrupt : M Unit := update ({ · with running := .bool false })

def quietTime : Float := 3

def warn : M Unit := do
  let now ← Play.onRig Rig.now
  if ← Value.greater (.float now) (← state).quietUntil then
    update ({ · with quietUntil := .float (now + quietTime) })
    beep (.float 0.1)
    pause 0.1

def candidates : List String := ["red", "green", "blue"]

def vote (color : Value) : M (Option (Option String)) :=
  Op.onPart (fun p => p.game.poll) (fun p q => { p with game := { p.game with poll := q } })
    (Poll.cast candidates color)

def judge (seen : Option Value) : M Unit := do
  match seen with
  | none => update fun s => { s with poll := s.poll.vacate }
  | some color =>
    if let some winner ← vote color then
      if winner = some "red" then warn
      update fun s => { s with poll := s.poll.declare winner }

def watch (frame : Option Raster) : M Shown := do
  let s ← state
  if s.running.truth then
    let picture ← Blob.smooth (← present frame)
    judge (← Blob.dominantIn s.thresholds s.targets picture)
    (← state).poll.checkCaption
  return .given

def game : Game ColorAlarm where
  load; prepare; start; aim; interrupt; watch
  panel := Poll.dials poll ({ · with poll := · }) ++ [
    ⟨"running", running, ({ · with running := · })⟩,
    ⟨"interval_time", quietUntil, ({ · with quietUntil := · })⟩,
    ⟨"servo1", tilt, ({ · with tilt := · })⟩,
    ⟨"servo2", pan, ({ · with pan := · })⟩]
  settings := [
    ⟨"lab_data", thresholds, ({ · with thresholds := · })⟩,
    ⟨"servo_data", servos, ({ · with servos := · })⟩,
    ⟨"target_color", targets, ({ · with targets := · })⟩]

end ColorAlarm

end Rover
