import Rover.Games.Blob
import Rover.Image.Canvas
import Rover.Image.Circle
import Rover.Scale

/-!
# Chasing a colour

The camera follows a blob of colour, and the wheels keep the vehicle in front of it and at its
distance.
-/

namespace Rover

structure ColorChase where
  thresholds : Value := .none
  servos : Value := .none
  tilt : Value := .int 1500
  pan : Value := .int 1500
  targets : Value := .tuple []
  running : Value := .bool false
  across : Value := .int 1500
  up : Value := .int 1500
  centerX : Value := .int (-1)
  centerY : Value := .int (-1)
  radius : Value := .int 0
  moving : Value := .bool false
  follows : Value := .bool false
  sideways : Pid Value := Games.controller 0.15 0.001 0.0001
  distance : Pid Value := Games.controller 1.0 0.001 0.0001
  panning : Pid Value := Games.controller 0.06 0.0003 0.0006
  tilting : Pid Value := Games.controller 0.06 0.0003 0.0006

namespace ColorChase

abbrev M := Op (Play ColorChase)

open Play (update state)
open Games

def load : M Unit := do
  let files := (← get).files
  update ({ · with thresholds := files.thresholds, servos := files.servos })

def lose (s : ColorChase) : ColorChase :=
  { s with radius := .int 0, centerX := .int (-1), centerY := .int (-1) }

def reset : M Unit := do
  update ({ · with moving := .bool false, follows := .bool false })
  let tilt ← (← state).servos.subscript (.str "servo1")
  update ({ · with tilt })
  let pan ← (← state).servos.subscript (.str "servo2")
  update fun s => lose { s with
    pan, across := pan, up := tilt, targets := .tuple []
    sideways := s.sideways.clear, distance := s.distance.clear
    panning := s.panning.clear, tilting := s.tilting.clear }

def aim : M Unit := do
  let s ← state
  look s.tilt s.pan

def prepare : M Unit := do
  load
  reset
  aim

def start : M Unit := do
  reset
  update ({ · with running := .bool true })

def stop : M Unit := do
  reset
  aim
  halt
  update ({ · with running := .bool false })
  dark

def interrupt : M Unit := do
  update ({ · with running := .bool false })
  halt
  aim

def setTargets (targets : Value) : M Value := do
  update ({ · with targets })
  return .tuple [.bool true, .tuple []]

def setFollowing (on : Value) : M Value := do
  update ({ · with follows := on })
  unless on.truth do halt
  return .tuple [.bool true, .tuple []]

def target? (found : List (Value × List Contour)) : Option Contour :=
  match found.getLast? with
  | some (_, outlines) =>
    match Blob.largest Contour.doubleArea Blob.visible outlines with
    | (some c, area) => if 2000 < area then some c else none
    | (none, _) => none
  | none => none

def greatestRadius : Int := 300

def onPicture (x : Float32) (searched given : Nat) : Result Int := do
  (← Scale.convert (.float (Canvas.measure x)) (.int 0) (.int searched) (.int 0)
    (.int given)).toInteger

def watch (frame : Option Raster) : M Shown := do
  let picture ← present frame
  let s ← state
  if s.running.truth then
    let found ← Blob.families s.thresholds s.targets (← Blob.smooth picture)
    match target? found with
    | none => update lose
    | some outline =>
      let c := Circle.around outline
      let radius ← onPicture c.radius width picture.width
      let x ← onPicture c.x width picture.width
      let y ← onPicture c.y height picture.height
      if greatestRadius < radius then update lose
      else
        update ({ · with radius := .int radius, centerX := .int x, centerY := .int y })
        if let some color := (← s.targets.items).getLast? then
          let _ ← inkFor color
  return .given

def follow : M Unit := do
  if ← near (← state).centerX (.float 320) 15 then
    update ({ · with centerX := .float 320 })
  let out ← control panning ({ · with panning := · }) (.float 320) (← state).centerX
  let across ← limit 800 2200 (← (← state).across.add (.int (← out.toInteger)))
  update ({ · with across })
  if ← near (← state).centerY (.float 240) 10 then
    update ({ · with centerY := .float 240 })
  let out ← control tilting ({ · with tilting := · }) (.float 240) (← state).centerY
  let up ← limit 1200 1900 (← (← state).up.sub (.int (← out.toInteger)))
  update ({ · with up })
  servo 1 up 20
  servo 2 across 20
  pause 0.01

def approach : M Unit := do
  let s ← state
  let goal := if ← near s.radius (.int 100) 10 then s.radius else .int 100
  let y ← deaden 15 (← control distance ({ · with distance := · }) goal s.radius)
  let goal := if ← near s.across s.pan 15 then s.across else s.pan
  let x ← deaden 15 (← control sideways ({ · with sideways := · }) goal s.across)
  let _ ← Play.onRig (({} : Chassis).translate x y)
  update ({ · with moving := .bool true })

def rest : M Unit := do
  if (← state).moving.truth then
    halt
    update ({ · with moving := .bool false })

def turn : M Unit := do
  let s ← state
  if s.running.truth then
    if s.centerX.same (.int (-1)) || s.centerY.same (.int (-1)) then rest
    else
      follow
      if (← state).follows.truth then approach
      pause 0.01
  else
    rest
    pause 0.01

def game : Game ColorChase where
  load; prepare; reset; start; stop; leave := stop; aim; interrupt; watch; turn
  panel := [
    ⟨"running", running, ({ · with running := · })⟩,
    ⟨"servo1", tilt, ({ · with tilt := · })⟩,
    ⟨"servo2", pan, ({ · with pan := · })⟩,
    ⟨"servo_x", across, ({ · with across := · })⟩,
    ⟨"servo_y", up, ({ · with up := · })⟩,
    ⟨"color_radius", radius, ({ · with radius := · })⟩,
    ⟨"color_center_x", centerX, ({ · with centerX := · })⟩,
    ⟨"color_center_y", centerY, ({ · with centerY := · })⟩,
    ⟨"car_en", moving, ({ · with moving := · })⟩,
    ⟨"wheel_en", follows, ({ · with follows := · })⟩,
    ⟨"target_color", targets, ({ · with targets := · })⟩]
  settings := [
    ⟨"lab_data", thresholds, ({ · with thresholds := · })⟩,
    ⟨"servo_data", servos, ({ · with servos := · })⟩]

end ColorChase

end Rover
