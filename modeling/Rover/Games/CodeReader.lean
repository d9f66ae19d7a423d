import Rover.Games.Tally

/-!
# Reading codes

The camera reads numbers from printed codes, and each number from one to four is a way to drive.
-/

namespace Rover

structure CodeReader where
  servos : Value := .none
  tilt : Value := .int 1500
  pan : Value := .int 1500
  running : Value := .bool false
  stopping : Value := .bool false
  tally : Tally := {}

namespace CodeReader

abbrev M := Op (Play CodeReader)

open Play (update state)
open Games

def load : M Unit := do
  let files := (← get).files
  update ({ · with servos := files.servos })

def reset : M Unit := do
  update fun s => { s with
    stopping := .bool false, tally := s.tally.release }
  let tilt ← (← (← state).servos.subscript (.str "servo1")).sub (.int 350)
  update ({ · with tilt })
  let pan ← (← state).servos.subscript (.str "servo2")
  update ({ · with pan })

def aim : M Unit := do
  let s ← state
  look s.tilt s.pan

def prepare : M Unit := do
  load
  reset
  aim

def start : M Unit := do
  reset
  update ({ · with running := .bool true })

def stop : M Unit := update ({ · with stopping := .bool true, running := .bool false })

def interrupt : M Unit := do
  update ({ · with running := .bool false })
  halt

def checkOutline (code : Barcode) : Result Unit := do
  for v in code.outline do
    let n ← v.toInteger
    unless -(twoPow 63) ≤ n && n < twoPow 63 do throw (.beyondRange "Python int too large to convert to C long")
  if code.outline.isEmpty then throw .badImage

def count (code : Barcode) : M Unit :=
  Op.onPart (fun p => p.game.tally) (fun p t => { p with game := { p.game with tally := t } })
    (Tally.add (Value.str code.text).toInteger)

def watch (frame : Option Raster) : M Shown := do
  let s ← state
  if s.running.truth && !s.tally.locked.truth then
    update fun s => { s with tally := { s.tally with number := .int 0 } }
    let picture ← present frame
    for (code, i) in (← get).rig.barcodes.zipIdx do
      checkOutline code
      let _ ← visible picture
      if i = 0 then count code
  return .given

def directions : List Int := [90, 270, 0, 180]

def direction? (number : Value) : Option Int :=
  (directions.zipIdx.find? fun (_, i) => number.same (.int (i + 1))).map Prod.fst

def act (number : Value) : Op Rig Unit := do
  if let some d := direction? number then
    drive (.int 45) (.int d) (.int 0)
    Rig.sleep (.int 1)
    halt

def turn : M Unit := do
  let s ← state
  if s.running.truth && s.tally.locked.truth && s.tally.number.truth then
    act s.tally.number
    update fun s => { s with tally := { s.tally with locked := .bool false } }
  else
    if s.stopping.truth then
      halt
      update ({ · with stopping := .bool false })
      pause 0.5
    pause 0.01

def game : Game CodeReader where
  load; prepare; reset; start; stop; leave := stop; aim; interrupt; watch; turn
  panel := Tally.dials "results_num" tally ({ · with tally := · }) ++ [
    ⟨"running", running, ({ · with running := · })⟩,
    ⟨"car_stop", stopping, ({ · with stopping := · })⟩,
    ⟨"servo1", tilt, ({ · with tilt := · })⟩,
    ⟨"servo2", pan, ({ · with pan := · })⟩]
  settings := [
    ⟨"servo_data", servos, ({ · with servos := · })⟩]

end CodeReader

end Rover
