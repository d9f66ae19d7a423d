import Rover.Games.Blob

/-!
# Tuning the thresholds

While the thresholds of a colour are changed, the picture shows which pixels have this colour.
-/

namespace Rover

structure ThresholdTuner where
  thresholds : Value := .none
  targets : Value := .tuple [.str "red"]
  running : Value := .bool false

namespace ThresholdTuner

abbrev M := Op (Play ThresholdTuner)

open Play (update state)

def load : M Unit := do
  let files := (← get).files
  update ({ · with thresholds := files.thresholds })

def reset : M Unit := update ({ · with targets := .tuple [] })

def prepare : M Unit := do
  load
  reset

def start : M Unit := update ({ · with running := .bool true })

def stop : M Unit := do
  update ({ · with running := .bool false })
  reset

def leave : M Unit := update ({ · with running := .bool false })

def places : List (String × Int) :=
  [("min", 0), ("min", 1), ("min", 2), ("max", 0), ("max", 1), ("max", 2)]

def setThresholds (args : Value) : M Value := do
  let request ← args.subscript (.int 0)
  let color ← request.subscript (.str "color")
  update ({ · with targets := .tuple [color] })
  for (side, i) in places do
    let new ← (← request.subscript (.str side)).subscript (.int i)
    let table ← (← state).thresholds.store [color, .str side, .int i] new
    update ({ · with thresholds := table })
  return .tuple [.bool true, .tuple [], .str "SetLABValue"]

def savedThresholds : M Value := do
  return .tuple [.bool true, .tuple [(← get).files.thresholds]]

def save : M Value := do
  modify fun p => { p with files.thresholds := ConfigFiles.filed p.game.thresholds }
  return .tuple [.bool true, .tuple [], .str "SaveLABValue"]

def leastArea : Nat := 21

def pixels (s : ThresholdTuner) (picture : Raster) : Result (Option Mask) := do
  let smooth := (← Games.visible picture).blur
  let step (found : Option Mask) (color : Value) : Result (Option Mask) := do
    if ← s.targets.contains color then
      return some (ColorSpace.selectLab smooth (← Blob.range s.thresholds color)).openBox
    else return found
  (← s.thresholds.items).foldlM step none

def watch (frame : Option Raster) : M Shown := do
  let picture ← Games.present frame
  let s ← state
  if s.running.truth && !s.targets.same (.tuple []) then
    if let some mask ← pixels s picture then return .mask mask
  return .given

def game : Game ThresholdTuner where
  load; prepare; reset; start; stop; leave; watch
  panel := [
    ⟨"running", running, ({ · with running := · })⟩,
    ⟨"shown_color", targets, ({ · with targets := · })⟩,
    ⟨"lab_data", thresholds, ({ · with thresholds := · })⟩]

end ThresholdTuner

end Rover
