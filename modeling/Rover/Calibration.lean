import Rover.Image.Raster
import Rover.Rig.Camera

/-!
# Calibrating the camera

Programs for the calibration of the lens: one draws the board that is photographed, one takes the
photographs, and one shows pictures before and after the correction.
-/

namespace Rover.Calibration

open Rig

structure Desk where
  rig : Rig
  keys : List Int := []

abbrev M := Op Desk

instance : HasRig Desk := ⟨Desk.rig, ({ · with rig := · })⟩

@[inline] def onRig {α : Type} (op : Op Rig α) : M α := HasRig.onRig op

instance : MonadLift (Op Rig) (Op Desk) := ⟨onRig⟩

def escape : Int := 27

def space : Int := 32

def key : M Int := do
  match (← get).keys with
  | [] => return escape
  | k :: rest =>
    modify fun d => { d with keys := rest }
    return k

def corners : Nat × Nat := (8, 6)

def boardWidth : Nat := 640

def square : Nat := boardWidth / (corners.1 + 1)

def whiteSquares : List (Nat × Nat) :=
  (List.range (corners.2 + 1)).flatMap fun row =>
    (List.range (corners.1 + 1)).filterMap fun column =>
      if (row + column) % 2 ≠ 0 then some (row, column) else none

def drawBoard : M Unit := do
  let height := square * (corners.2 + 1)
  let name := "calibration_board"
  emit (.stored (name ++ ".jpg") height boardWidth none (whiteSquares.length * square * square))
  emit (.shown name height boardWidth)
  if (← key) ≠ -1 then emit .windowsClosed

def brightBytes (r : Raster) : Nat := r.bytes.foldl (fun n b => if b == 0 then n else n + 1) 0

/-- Reads the camera until the program is ended by a key; `onPicture` gives back the number of
photographs so far. -/
def watch (onPicture : Nat → Scene → M (Option Nat)) : Nat → Nat → M Unit
  | 0, _ => return
  | fuel + 1, photographs => do
    match ← readCamera with
    | none =>
      sleep (.float 0.01)
      watch onPicture fuel photographs
    | some scene =>
      match ← onPicture photographs scene with
      | none => return
      | some photographs => watch onPicture fuel photographs

variable (sleeps : Nat)

def withCamera (onPicture : Nat → Scene → M (Option Nat)) : M Unit := do
  modify fun d => { d with rig.sleepsLeft := some sleeps }
  let _ ← openCamera (-1)
  watch onPicture (sleeps + (← get).rig.shots.length + 1) 0
  releaseCamera (-1)
  emit .windowsClosed

def photograph (photographs : Nat) (scene : Scene) : M (Option Nat) := do
  emit (.shown "Frame" scene.height scene.width)
  let k ← key
  if k = escape then return none
  if k = space then
    let picture := Raster.ofScene scene
    emit (.stored (natText (photographs + 1) ++ ".jpg") scene.height scene.width (some 3)
      (brightBytes picture))
    return some (photographs + 1)
  return some photographs

def collect : M Unit := withCamera sleeps photograph

def compare (photographs : Nat) (scene : Scene) : M (Option Nat) := do
  emit (.shown "origin" scene.height scene.width)
  emit (.shown "redress" 480 640)
  return if (← key) = escape then none else some photographs

def check : M Unit := withCamera sleeps compare

end Rover.Calibration
