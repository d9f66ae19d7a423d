import Rover.Fault

/-!
# Drawing on a picture

What can be drawn: pixels are counted in 32 bits, and an ink has at most four numbers.
-/

namespace Rover.Canvas

def greatestMeasure : Nat := 4096

def measure (x : Float32) : Float :=
  let y := x.toFloat
  match Binary.ofFloat? y with
  | some b => if b.truncate.natAbs < greatestMeasure then y else 0.0
  | none => 0.0

def coordinate : Value → Result Int
  | .none => .ok 0
  | .int n => if -(twoPow 31) ≤ n && n < twoPow 31 then .ok n else .error .badImage
  | _ => .error .badImage

def checkInk (v : Value) : Result Unit :=
  let isNumber (v : Value) : Bool := v.num?.isSome
  let isInk : Bool := match v with
    | .none => true
    | .list vs | .tuple vs => vs.length ≤ 4 && vs.all isNumber
    | .str s => s.isEmpty
    | v => isNumber v
  if isInk then .ok () else .error .badImage

end Rover.Canvas
