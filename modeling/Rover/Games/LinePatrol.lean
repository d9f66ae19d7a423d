import Rover.Games.Blob
import Rover.Image.Canvas
import Rover.Image.Dominant
import Rover.Image.Rectangle
import Rover.Scale

/-!
# Patrolling along a line

The camera looks down at a line of colour, and the vehicle steers to keep the line in the middle of
the picture.
-/

namespace Rover

structure LinePatrol where
  thresholds : Value := .none
  servos : Value := .none
  tilt : Value := .int 1500
  pan : Value := .int 1500
  targets : Value := .tuple []
  running : Value := .bool false
  center : Value := .int (-1)
  moving : Value := .bool false
  swerving : Pid Value := Games.controller 0.001 0.00001 0.000001

namespace LinePatrol

abbrev M := Op (Play LinePatrol)

open Play (update state)
open Games

def load : M Unit := do
  let files := (← get).files
  update ({ · with thresholds := files.thresholds, servos := files.servos })

def reset : M Unit := do
  update ({ · with center := .int (-1), targets := .tuple [] })
  let tilt ← (← (← state).servos.subscript (.str "servo1")).add (.int 350)
  update ({ · with tilt })
  let pan ← (← state).servos.subscript (.str "servo2")
  update ({ · with pan })

def aim : M Unit := do
  halt
  let s ← state
  look s.tilt s.pan

def prepare : M Unit := do
  load
  reset
  aim

def start : M Unit := do
  reset
  update ({ · with running := .bool true })

def stop : M Unit := do
  update ({ · with running := .bool false })
  halt

def setTargets (targets : Value) : M Value := do
  update ({ · with targets })
  return .tuple [.bool true, .tuple []]

structure Strip where
  first : Nat
  last : Nat
  weight : Float

def strips : List Strip := [⟨240, 280, 0.1⟩, ⟨340, 380, 0.3⟩, ⟨430, 460, 0.6⟩]

def leastArea : Nat := 10

def middle? (boxes : List ColorSpace.Range) (picture : Raster) (given : Nat) (s : Strip) :
    Result (Option Float) := do
  let some box := boxes.getLast? | throw (.unboundLocal "dilated")
  let mask := ColorSpace.selectLab (picture.rows s.first s.last) box
  let outlines := mask.openBox.contours.map Contour.dominant
  let (some outline, _) := Blob.largest Contour.doubleArea leastArea outlines | return none
  let r := Rectangle.around outline
  let side (x : Float32) : Result Int := do
    let x := .int (← (Value.float (Canvas.measure x)).toInteger)
    (← Scale.convert x (.int 0) (.int width) (.int 0) (.int given)).toInteger
  return some (nearestInt ((← side r.x) + (← side r.x')) / 2)

def weigh (middles : List (Option Float × Float)) : Result (Option Int) := do
  let (total, weight) := middles.foldl (fun (total, weight) (m, w) =>
    match m with
    | some x => (total + x * w, weight + w)
    | none => (total, weight)) (0.0, 0.0)
  if weight == 0 then return none
  return some (← (Value.float (total / weight)).toInteger)

def watch (frame : Option Raster) : M Shown := do
  let picture ← present frame
  let s ← state
  if s.running.truth && !s.targets.same (.tuple []) then
    let smooth ← Blob.smooth picture
    let boxes := (← Blob.colorBoxes s.thresholds s.targets).map Prod.snd
    let middles ← strips.mapM fun p => do
      return (← middle? boxes smooth picture.width p, p.weight)
    match ← weigh middles with
    | some x =>
      -- the place of the line so far is marked in the picture, at whole pixels only
      let _ ← Canvas.coordinate s.center
      update ({ · with center := .int x })
    | none => update ({ · with center := .int (-1) })
  return .given

def pictureCenter : Value := .int 320

def turn : M Unit := do
  let s ← state
  if s.running.truth then
    if ← s.center.greater (.int 0) then
      if ← near s.center pictureCenter 10 then
        update ({ · with center := pictureCenter })
      let out ← control swerving ({ · with swerving := · }) pictureCenter
        (← state).center
      drive (.int 50) (.int 90) (← out.neg)
      update ({ · with moving := .bool true })
  else
    if s.moving.truth then
      update ({ · with moving := .bool false })
      halt
    pause 0.01

def game : Game LinePatrol where
  load; prepare; reset; start; stop; leave := stop; aim; interrupt := stop; watch; turn
  panel := [
    ⟨"running", running, ({ · with running := · })⟩,
    ⟨"servo1", tilt, ({ · with tilt := · })⟩,
    ⟨"servo2", pan, ({ · with pan := · })⟩,
    ⟨"line_centerx", center, ({ · with center := · })⟩,
    ⟨"target_color", targets, ({ · with targets := · })⟩,
    ⟨"car_en", moving, ({ · with moving := · })⟩]
  settings := [
    ⟨"lab_data", thresholds, ({ · with thresholds := · })⟩,
    ⟨"servo_data", servos, ({ · with servos := · })⟩]

end LinePatrol

end Rover
