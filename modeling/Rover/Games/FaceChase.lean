import Rover.Games.Basic
import Rover.Image.Canvas

/-!
# Chasing a face

The camera follows a face, and the wheels keep the vehicle in front of it and at its distance.
-/

namespace Rover

structure FaceChase where
  servos : Value := .none
  tilt : Value := .int 1500
  pan : Value := .int 1500
  running : Value := .bool false
  across : Value := .int 1500
  up : Value := .int 1500
  centerX : Value := .int (-1)
  centerY : Value := .int (-1)
  area : Value := .int 0
  moving : Value := .bool false
  sideways : Pid Value := Games.controller 0.150 0.001 0.0001
  distance : Pid Value := Games.controller 0.002 0.001 0.0001
  panning : Pid Value := Games.controller 0.05 0.0001 0.0005
  tilting : Pid Value := Games.controller 0.05 0.0001 0.0005

namespace FaceChase

abbrev M := Op (Play FaceChase)

open Play (update state)
open Games

def load : M Unit := do
  let files := (← get).files
  update ({ · with servos := files.servos })

def lose (s : FaceChase) : FaceChase :=
  { s with centerX := .int (-1), centerY := .int (-1), area := .int 0 }

def reset : M Unit := do
  let tilt ← (← (← state).servos.subscript (.str "servo1")).sub (.int 350)
  update ({ · with tilt })
  let pan ← (← state).servos.subscript (.str "servo2")
  update fun s => lose { s with
    pan, across := pan, up := tilt
    sideways := s.sideways.clear, distance := s.distance.clear
    panning := s.panning.clear, tilting := s.tilting.clear }

def aim : M Unit := do
  let s ← state
  look s.tilt s.pan

def prepare : M Unit := do
  load
  reset
  aim

def start : M Unit := do
  reset
  update ({ · with running := .bool true })

def stop : M Unit := do
  reset
  aim
  halt
  update ({ · with running := .bool false })

def interrupt : M Unit := do
  update ({ · with running := .bool false })
  halt
  aim

def notice (picture : Raster) (left top w h : Float) : M Unit := do
  let pixels (part : Float) (size : Nat) : Result Int :=
    (Value.float (part * size.toFloat)).toInteger
  let x ← pixels left picture.width
  let y ← pixels top picture.height
  let w ← pixels w picture.width
  let h ← pixels h picture.height
  -- the face is framed in the picture
  for n in [x, y, w, h] do
    let _ ← Canvas.coordinate (.int n)
  let middle (start length : Int) : Result Int := do
    (← (Value.int start).add (← (Value.int length).div (.int 2))).toInteger
  let x ← middle x w
  update ({ · with centerX := .int x })
  let y ← middle y h
  update ({ · with centerY := .int y, area := .int (w * h) })

def watch (frame : Option Raster) : M Shown := do
  if (← state).running.truth then
    let picture ← visible (← present frame)
    match (← get).rig.faces with
    | [] => update lose
    | faces => for (left, top, w, h) in faces do notice picture left top w h
  return .given

def follow : M Unit := do
  if ← near (← state).centerX (.float 320) 15 then
    update ({ · with centerX := .float 320 })
  let out ← control panning ({ · with panning := · }) (.float 320) (← state).centerX
  let across ← limit 800 2200 (← (← state).across.add (.int (← out.toInteger)))
  update ({ · with across })
  if ← near (← state).centerY (.float 240) 10 then
    update ({ · with centerY := .float 240 })
  let out ← control tilting ({ · with tilting := · }) (.float 240) (← state).centerY
  let up ← limit 1000 1900 (← (← state).up.sub (.int (← out.toInteger)))
  update ({ · with up })
  servo 1 up 20
  servo 2 across 20

def rightArea : Value := .int 30000

def approach : M Unit := do
  let s ← state
  let close ← near s.area rightArea 2000
  let close ← if close then pure true else s.up.less (.int 1100)
  let goal := if close then s.area else rightArea
  let y ← deaden 20 (← control distance ({ · with distance := · }) goal s.area)
  let goal := if ← near s.across s.pan 15 then s.across else s.pan
  let x ← deaden 20 (← control sideways ({ · with sideways := · }) goal s.across)
  let _ ← Play.onRig (({} : Chassis).translate x y)
  update ({ · with moving := .bool true })

def rest : M Unit := do
  if (← state).moving.truth then
    halt
    update ({ · with moving := .bool false })

def turn : M Unit := do
  let s ← state
  if s.running.truth && !s.centerX.same (.int (-1)) && !s.centerY.same (.int (-1)) then
    follow
    approach
  else
    rest
    pause 0.01

def game : Game FaceChase where
  load; prepare; reset; start; stop; leave := stop; aim; interrupt; watch; turn
  panel := [
    ⟨"running", running, ({ · with running := · })⟩,
    ⟨"servo1", tilt, ({ · with tilt := · })⟩,
    ⟨"servo2", pan, ({ · with pan := · })⟩,
    ⟨"servo_x", across, ({ · with across := · })⟩,
    ⟨"servo_y", up, ({ · with up := · })⟩,
    ⟨"center_x", centerX, ({ · with centerX := · })⟩,
    ⟨"center_y", centerY, ({ · with centerY := · })⟩,
    ⟨"area", area, ({ · with area := · })⟩,
    ⟨"car_en", moving, ({ · with moving := · })⟩]
  settings := [
    ⟨"servo_data", servos, ({ · with servos := · })⟩]

end FaceChase

end Rover
