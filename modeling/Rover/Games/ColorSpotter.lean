import Rover.Games.Blob
import Rover.Games.Poll

/-!
# Spotting a colour

The vehicle nods when it sees red and shakes its head when it sees green or blue.
-/

namespace Rover

structure ColorSpotter where
  thresholds : Value := .none
  servos : Value := .none
  tilt : Value := .int 1500
  pan : Value := .int 1500
  targets : Value := .tuple [.str "red", .str "green", .str "blue"]
  running : Value := .bool false
  unsettled : Value := .bool false
  claimed : Value := .bool false
  poll : Poll := {}

namespace ColorSpotter

abbrev M := Op (Play ColorSpotter)

open Play (update state)
open Games

def load : M Unit := do
  let files := (← get).files
  update ({ · with thresholds := files.thresholds, servos := files.servos })

def reset : M Unit := do
  update fun s => { s with
    unsettled := .bool false, claimed := .bool false, poll := s.poll.clear }
  let tilt ← (← state).servos.subscript (.str "servo1")
  update ({ · with tilt })
  let pan ← (← state).servos.subscript (.str "servo2")
  update ({ · with pan })

def aim : M Unit := do
  let s ← state
  look s.tilt s.pan

def prepare : M Unit := do
  load
  reset
  aim

def start : M Unit := do
  reset
  update ({ · with running := .bool true })

def stop : M Unit := do
  update ({ · with unsettled := .bool true, running := .bool false })
  dark

def interrupt : M Unit := do
  update ({ · with running := .bool false })
  aim

def setTargets (targets : Value) : M Value := do
  update ({ · with targets })
  return .tuple [.bool true, .tuple []]

def candidates : List String := ["red", "green", "blue"]

def vote (color : Value) : M (Option (Option String)) :=
  Op.onPart (fun p => p.game.poll) (fun p q => { p with game := { p.game with poll := q } })
    (Poll.cast candidates color)

def judge (seen : Option Value) : M Unit := do
  match seen with
  | none => update fun s => { s with poll := s.poll.vacate }
  | some color =>
    if let some winner ← vote color then
      update fun s => { s with poll := s.poll.declare winner, claimed := .bool winner.isSome }

def watch (frame : Option Raster) : M Shown := do
  let s ← state
  if s.running.truth then
    let picture ← Blob.smooth (← present frame)
    unless s.claimed.truth do judge (← Blob.dominantIn s.thresholds s.targets picture)
    (← state).poll.checkCaption
  return .given

def waggle (index : Int) (place : M Value) (reach time : Int) (wait : Float) : M Unit := do
  for _ in [0 : 3] do
    servo index (← (← place).sub (.int reach)) time
    pause wait
    servo index (← (← place).add (.int reach)) time
    pause wait
  servo index (← place) 500
  pause 0.5

def turn : M Unit := do
  let s ← state
  if s.running.truth then
    if !s.poll.elected.same (.str "None") && s.claimed.truth then
      beep (.float 0.1)
      light s.poll.elected
      if s.poll.elected.same (.str "red") then waggle 1 (return (← state).tilt) 100 300 0.3
      else waggle 2 (return (← state).pan) 150 350 0.35
      update fun s => { s with
        unsettled := .bool true, claimed := .bool false, poll := { s.poll with elected := .str "None" } }
      dark
    else pause 0.01
  else
    if s.unsettled.truth then
      aim
      update ({ · with unsettled := .bool false })
      pause 1.5
    pause 0.01

def game : Game ColorSpotter where
  load; prepare; reset; start; stop; leave := stop; aim; interrupt; watch; turn
  panel := Poll.dials poll ({ · with poll := · }) ++ [
    ⟨"stop", unsettled, ({ · with unsettled := · })⟩,
    ⟨"running", running, ({ · with running := · })⟩,
    ⟨"start_pick_up", claimed, ({ · with claimed := · })⟩,
    ⟨"servo1", tilt, ({ · with tilt := · })⟩,
    ⟨"servo2", pan, ({ · with pan := · })⟩,
    ⟨"target_color", targets, ({ · with targets := · })⟩]
  settings := [
    ⟨"lab_data", thresholds, ({ · with thresholds := · })⟩,
    ⟨"servo_data", servos, ({ · with servos := · })⟩]

end ColorSpotter

end Rover
