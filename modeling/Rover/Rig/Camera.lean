import Rover.Rig.Basic

/-!
# Camera devices

The devices through which pictures come in, by their index.
-/

namespace Rover.Rig

variable (index : Int)

def cameraIsOpen (r : Rig) : Bool :=
  match r.cameraMode with
  | .all => true
  | .only indices => indices.contains index
  | .none | .broken => false

def openCamera : Op Rig Bool := do
  emit (.cameraNew index)
  let r ← get
  if r.cameraMode = .broken then Op.fail .camera
  return r.cameraIsOpen index

def releaseCamera : Op Rig Unit := do
  emit (.cameraReleased index)
  if (← get).cameraMode = .broken then Op.fail .camera

def readCamera : Op Rig (Option Scene) := do
  match (← get).shots with
  | [] => return none
  | shot :: rest =>
    modify fun r => { r with shots := rest }
    match shot with
    | .scene s => return some s
    | .missed => return none
    | .broken => Op.fail .camera

end Rover.Rig
