import Rover.Value.Arith

/-!
# Scales

Carrying a reading from one scale to another, and keeping it within bounds.
-/

namespace Rover.Scale

def convert (x inLow inHigh outLow outHigh : Value) : Result Value := do
  let offset ← x.sub inLow
  let span ← outHigh.sub outLow
  let scaled ← (← offset.mul span).div (← inHigh.sub inLow)
  scaled.add outLow

def clamp (x low high : Value) : Result Value := do
  let raised := if ← x.greater low then x else low
  if ← raised.less high then return raised else return high

end Rover.Scale
