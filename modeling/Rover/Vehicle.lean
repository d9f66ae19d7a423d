import Rover.Gimbal
import Rover.Sensors

/-!
# The vehicle

The hardware together with what the control program remembers about it: the limits of motion, the
gimbal and the camera picture.
-/

namespace Rover

/-- What is known of the camera: the open device, the latest picture, how many were read, and
whether the reader is meant to run and was ever started. -/
structure Vision where
  device : Option Nat := some 0
  frame : Option Scene := none
  count : Nat := 0
  running : Bool := true
  reader : Bool := true

structure Vehicle where
  rig : Rig := {}
  motion : Motion := {}
  gimbal : Gimbal := {}
  vision : Vision := {}

namespace Vehicle

instance : HasRig Vehicle := ⟨Vehicle.rig, ({ · with rig := · })⟩

@[inline] def onRig {α : Type} (op : Op Rig α) : Op Vehicle α := HasRig.onRig op

instance : MonadLift (Op Rig) (Op Vehicle) := ⟨onRig⟩

def moveGimbal (command : Gimbal → Op Rig Gimbal) : Op Vehicle Unit := do
  let g ← onRig (command (← get).gimbal)
  modify fun v => { v with gimbal := g }

end Vehicle

end Rover
