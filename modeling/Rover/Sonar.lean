import Rover.Rig.Bus

/-!
# The distance sensor

An ultrasonic sensor with two coloured lamps.
-/

namespace Rover

open Rig

structure Sonar where
  pixels : List Value := [.int 0, .int 0]

namespace Sonar

def noAnswer : Int := 99999

def farthest : Int := 5000

def getDistance : Op Rig Value :=
  Op.guarded
    (do
      writeFrame sonarAddress [.int 0]
      let d ← readSonar
      return .int (min d farthest))
    fun _ => return .int noAnswer

def setMode (mode : Value) : Op Rig Unit :=
  Op.ignoring (writeRegister sonarAddress (.int 2) mode)

def isLamp (index : Value) : Bool := index.same (.int 0) || index.same (.int 1)

def colorByte (rgb : Value) (shift : Int) : Result Value := do
  Value.bitAnd (.int 0xFF) (← rgb.shiftRight (.int shift))

def setPixel (s : Sonar) (index rgb : Value) : Op Rig Sonar :=
  Op.guarded
    (do
      if !isLamp index then return s
      let first : Int := if index.same (.int 0) then 3 else 6
      writeRegister sonarAddress (.int first) (← colorByte rgb 16)
      writeRegister sonarAddress (.int (first + 1)) (← colorByte rgb 8)
      writeRegister sonarAddress (.int (first + 2)) (← Value.bitAnd (.int 0xFF) rgb)
      match index.integer? with
      | some n => return { s with pixels := s.pixels.set n.toNat rgb }
      | none => return s)
    fun _ => return s

def getPixel (s : Sonar) (index : Value) : Result Value := do
  if !isLamp index then throw (.invalidPixel index)
  let rgb ← Value.itemAt s.pixels "list" index
  let part (shift : Int) : Result Value := do
    (← rgb.shiftRight (.int shift)).bitAnd (.int 0xFF)
  return .tuple [← part 16, ← part 8, ← part 0]

def setBreathing (index color cycle : Value) : Op Rig Unit :=
  Op.ignoring do
    if !isLamp index then return
    if (← color.less (.int 0)) || (← color.greater (.int 2)) then return
    let first : Int := if index.same (.int 0) then 9 else 12
    let steps ← (← cycle.div (.int 100)).toInteger
    writeRegister sonarAddress (← Value.add (.int first) color) (.int steps)

def startSymphony : Op Rig Unit := do
  setMode (.int 1)
  setBreathing (.int 1) (.int 0) (.int 2000)
  setBreathing (.int 1) (.int 1) (.int 3300)
  setBreathing (.int 1) (.int 2) (.int 4700)
  setBreathing (.int 2) (.int 0) (.int 4600)
  setBreathing (.int 2) (.int 1) (.int 2000)
  setBreathing (.int 2) (.int 2) (.int 3400)

def property (name : Value) : Op Rig Value := do
  match name with
  | .str "mm" => return .int 0
  | .str "cm" => return .int 1
  | .str "Distance" => getDistance
  | v =>
    v.hashable
    match v with
    | .tuple [only] => Op.fail (.unknownSonarAttribute only)
    | .tuple [] => Op.fail (.arguments "not enough arguments for format string")
    | .tuple _ => Op.fail (.arguments "not all arguments converted during string formatting")
    | v => Op.fail (.unknownSonarAttribute v)

end Sonar

end Rover
