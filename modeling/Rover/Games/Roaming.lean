import Rover.Games.Basic
import Rover.Number.Spread

/-!
# Roaming without bumping into things

The vehicle drives ahead while the way is free and turns when the sonar sees something near.
-/

namespace Rover

structure Roaming where
  running : Value := .bool false
  speed : Value := .int 40
  lastSpeed : Value := .int 0
  distance : Value := .int 500
  threshold : Value := .float 30
  readings : Value := .list []
  mayTurn : Value := .bool true
  mayGo : Value := .bool true
  stopping : Value := .bool true

namespace Roaming

abbrev M := Op (Play Roaming)

open Play (update state)
open Games

def aim : M Unit := do
  halt
  let servos := (← get).files.servos
  let tilt ← servos.subscript (.str "servo1")
  let pan ← servos.subscript (.str "servo2")
  look tilt pan

def reset : M Unit := update fun s => { readings := s.readings }

def prepare : M Unit := do
  aim
  reset

def start : M Unit :=
  update ({ · with mayTurn := .bool true, mayGo := .bool true, stopping := .bool true, running := .bool true })

def stop : M Unit := do
  update ({ · with running := .bool false })
  halt
  pause 0.3
  halt

def setSonarLamp {σ : Type} (index color : Value) : Op (Play σ) Unit := do
  match (← get).sonar with
  | none => Op.fail (.noAttribute "NoneType" "setPixelColor")
  | some s =>
    let s ← Play.onRig (s.setPixel index color)
    modify fun p => { p with sonar := some s }

def leave : M Unit := do
  stop
  setSonarLamp (.int 0) (.int 0)
  setSonarLamp (.int 1) (.int 0)

def interrupt : M Unit := do
  update ({ · with running := .bool false })
  halt

def setSpeed (args : Value) : M Value := do
  let speed ← (← args.subscript (.int 0)).toInteger
  update ({ · with speed := .int speed })
  return .tuple [.bool true, .tuple []]

def answerThreshold : M Value := do
  return .tuple [.bool true, .tuple [(← state).threshold]]

def setThreshold (args : Value) : M Value := do
  let threshold ← args.subscript (.int 0)
  update ({ · with threshold })
  answerThreshold

def window : Nat := 5

def measured? : Value → Option Value
  | .none => none
  | .float x => if x.isNaN then none else some (.float x)
  | v => some v

def estimate (readings : List Value) : Result Value := do
  return (← Spread.trimmedMean? (readings.map measured?)).getD (.float (0.0 / 0.0))

def sense (reading : Value) : M Unit := do
  let readings ← extend (← state).readings reading
  update ({ · with readings := .list readings })
  let distance ← estimate readings
  update ({ · with distance })
  if readings.length = window then
    update ({ · with readings := .list (readings.drop 1) })

def watch (frame : Option Raster) : M Shown := do
  if (← get).sonar.isNone then Op.fail (.noAttribute "NoneType" "getDistance")
  let millimetres ← Play.onRig Sonar.getDistance
  sense (← millimetres.div (.float 10))
  if let some picture := frame then
    let _ ← visible picture
  return .given

def go (speed : Value) : Op Rig Unit := drive speed (.int 90) (.int 0)

def choose : M Unit := do
  let s ← state
  if ← Value.compare .le s.distance s.threshold then
    if s.mayTurn.truth then
      update ({ · with mayTurn := .bool false, mayGo := .bool true, stopping := .bool true })
      drive (.int 0) (.int 90) (.float (-0.5))
      pause 0.5
  else if s.mayGo.truth then
    update ({ · with mayTurn := .bool true, mayGo := .bool false, stopping := .bool true })
    go s.speed

def turn : M Unit := do
  let s ← state
  if s.running.truth then
    if !s.speed.same s.lastSpeed then
      update ({ · with lastSpeed := s.speed })
      go s.speed
    choose
    if (← state).stopping.truth then
      update ({ · with stopping := .bool false })
      halt
    update ({ · with mayTurn := .bool true, mayGo := .bool true })
    pause 0.03

def game : Game Roaming where
  prepare; reset; start; stop; leave; aim; interrupt; watch; turn
  panel := [
    ⟨"running", running, ({ · with running := · })⟩,
    ⟨"speed", speed, ({ · with speed := · })⟩,
    ⟨"old_speed", lastSpeed, ({ · with lastSpeed := · })⟩,
    ⟨"distance", distance, ({ · with distance := · })⟩,
    ⟨"Threshold", threshold, ({ · with threshold := · })⟩,
    ⟨"distance_data", readings, ({ · with readings := · })⟩,
    ⟨"turn", mayTurn, ({ · with mayTurn := · })⟩,
    ⟨"forward", mayGo, ({ · with mayGo := · })⟩,
    ⟨"stopMotor", stopping, ({ · with stopping := · })⟩]

end Roaming

end Rover
