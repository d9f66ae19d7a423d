import Rover.Rig.Bus

/-!
# The line sensor

Four infrared eyes under the vehicle; each tells whether it sees the dark line.
-/

namespace Rover.LineSensor

def sees (reading : Value) (bit : Int) : Result Bool := do
  (← reading.bitAnd (.int bit)).greater (.int 0)

def read : Op Rig (List Bool) := do
  let reading ← Rig.readLine
  return [← sees reading 1, ← sees reading 2, ← sees reading 4, ← sees reading 8]

end Rover.LineSensor
