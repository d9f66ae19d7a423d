import Rover.Commands

/-!
# Controllers on the bench

A controller can also be made apart from the vehicle's own, with the limits that hold at that time.
-/

namespace Rover

structure Bench where
  vehicle : Vehicle
  motion : Option Motion := none
  gimbal : Option Gimbal := none

namespace Bench

variable {α : Type}

instance : HasRig Bench := ⟨fun b => b.vehicle.rig, fun b rig => { b with vehicle.rig := rig }⟩

def gimbalInUse (b : Bench) : Gimbal := b.gimbal.getD b.vehicle.gimbal

def motionInUse (b : Bench) : Motion := b.motion.getD b.vehicle.motion

variable (op : Op Vehicle α)

def onVehicle : Op Bench α :=
  Op.onPart Bench.vehicle ({ · with vehicle := · }) op

def onMotion : Op Bench α :=
  Op.onPart (fun b => { b.vehicle with motion := b.motionInUse })
    (fun b v => { b with vehicle := { v with motion := b.vehicle.motion } }) op

def onGimbal : Op Bench α :=
  Op.onPart (fun b => { b.vehicle with gimbal := b.gimbalInUse })
    (fun b v =>
      if b.gimbal.isNone then { b with vehicle := v }
      else { b with gimbal := some v.gimbal, vehicle := { v with gimbal := b.vehicle.gimbal } }) op

def addMotion (maxSpeed maxAngle : Option String) : Op Bench Unit := do
  let m ← Motion.ofSettings maxSpeed maxAngle
  modify ({ · with motion := some m })

def addGimbal : Op Bench Unit := do
  let g ← HasRig.onRig Gimbal.new
  modify ({ · with gimbal := some g })

end Bench

end Rover
