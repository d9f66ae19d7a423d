import Rover.Image.Canvas
import Rover.Image.Raster
import Rover.Rig.Camera

/-!
# The camera of the games

The camera can be opened and closed while its reader goes on.
-/

namespace Rover

open Rig

structure Capture where
  width : Value := .int 640
  height : Value := .int 480
  opened : Bool := false
  hasDevice : Bool := false
  corrected : Bool := false
  frame : Option Raster := none

structure Studio where
  rig : Rig
  camera : Capture

namespace Studio

variable {α : Type}

instance : HasRig Studio := ⟨Studio.rig, ({ · with rig := · })⟩

@[inline] def onRig (op : Op Rig α) : Op Studio α := HasRig.onRig op

instance : MonadLift (Op Rig) (Op Studio) := ⟨onRig⟩

@[inline] def update (f : Capture → Capture) : Op Studio Unit :=
  modify fun s => { s with camera := f s.camera }

end Studio

namespace Capture

open Studio (update)

def device : Int := -1

def ofSize (size : Value) : Result Capture := do
  let width ← size.subscript (.int 0)
  let height ← size.subscript (.int 1)
  return { width, height }

def openWith (corrected : Bool) : Op Studio Unit :=
  Op.ignoring do
    let _ ← openCamera device
    update ({ · with hasDevice := true, corrected, opened := true })

def close : Op Studio Unit :=
  Op.ignoring do
    update ({ · with opened := false })
    sleep (.float 0.2)
    if (← get).camera.hasDevice then
      releaseCamera device
      sleep (.float 0.05)
    update ({ · with hasDevice := false })

def correctedSize : Nat × Nat := (640, 480)

def develop (c : Capture) (picture : Raster) : Result Raster := do
  let width ← Canvas.coordinate c.width
  let height ← Canvas.coordinate c.height
  if width ≤ 0 || height ≤ 0 || picture.width = 0 || picture.height = 0 then throw .badImage
  let scaled := picture.resize width.toNat height.toNat
  return if c.corrected then scaled.resize correctedSize.1 correctedSize.2 else scaled

def replaceDevice : Op Studio Unit := do
  if !(← get).camera.hasDevice then Op.fail (.noAttribute "NoneType" "release")
  releaseCamera device
  let _ ← openCamera device
  let _ ← readCamera

def readOnce : Op Studio Unit := do
  match ← readCamera with
  | some scene =>
    let picture ← (← get).camera.develop (Raster.ofScene scene)
    update ({ · with frame := some picture })
  | none =>
    update ({ · with frame := none })
    replaceDevice

def asks (c : Capture) : Bool := c.opened && c.hasDevice

def turn : Op Studio Unit := do
  let s ← get
  if s.camera.asks then
    Op.guarded (if s.rig.cameraIsOpen device then readOnce else replaceDevice)
      fun _ => sleep (.float 0.01)
  else sleep (.float 0.01)

def run : Nat → Nat → Op Studio Unit
  | 0, _ => return
  | fuel + 1, asking => do
    if (← get).camera.asks then
      if asking = 0 then Op.cutShort
      turn
      run fuel (asking - 1)
    else
      turn
      run fuel asking

def watch (sleeps asking : Nat) : Op Studio Unit := do
  modify fun s => { s with rig := { s.rig with sleepsLeft := some sleeps } }
  run (sleeps + asking + 1) asking

end Capture

end Rover
