import Rover.Rig.Bus

/-!
# The board

Motors, servos, battery and buzzer of the vehicle's board.
-/

namespace Rover.Board

open Rig

variable (index : Value)

def shownNumber : Result Value := do
  return .int (← index.toInteger)

def atMost (high : Int) (v : Value) : Result Value := do
  if ← v.greater (.int high) then return .int high else return v

def atLeast (low : Int) (v : Value) : Result Value := do
  if ← v.less (.int low) then return .int low else return v

def signedByte (v : Value) : Result Value :=
  match v.integer? with
  | none => .error (.noAttribute v.className "to_bytes")
  | some n =>
    if -128 ≤ n ∧ n < 128 then .ok (.int (n % 256)) else .error .wordRange

def wordBytes (v : Value) : Result (List Value) :=
  match v.integer? with
  | none => .error (.noAttribute v.className "to_bytes")
  | some n =>
    if n < 0 then .error .negativeToWord
    else if 65536 ≤ n then .error .wordRange
    else .ok [.int (n % 256), .int (n / 256)]

def setAt (items : List Value) (index : Int) (v : Value) : Result (List Value) :=
  let i := if index < 0 then index + items.length else index
  if 0 ≤ i ∧ i < items.length then .ok (items.set i.toNat v) else .error .assignmentRange

def checkMotor : Result Unit := do
  if (← index.less (.int 1)) || (← index.greater (.int 4)) then
    throw (.invalidMotor (← shownNumber index))

def checkServo : Result Unit := do
  if (← index.less (.int 1)) || (← index.greater (.int 6)) then
    throw (.invalidServo (← shownNumber index))

def motorCommand (index speed : Value) : Result Value := do
  let right := index.same (.int 2) || index.same (.int 4)
  let speed ← if right then pure speed else speed.neg
  atLeast (-100) (← atMost 100 speed)

def recordPosition (position : Value) : Result Int :=
  match position.integer? with
  | some n => .ok n
  | none => .error (.position "list" position.className)

def setMotor (index speed : Value) : Op Rig Value := do
  checkMotor index
  let command ← motorCommand index speed
  let place ← index.sub (.int 1)
  let register ← Value.add (.int 31) place
  twice do
    let byte ← signedByte command
    writeFrame boardAddress [register, byte]
    let motors ← setAt (← get).board.motors (← recordPosition place) command
    modify fun r => { r with board := { r.board with motors } }
  return command

def getMotor : Op Rig Value := do
  checkMotor index
  Value.itemAt (← get).board.motors "list" (← index.sub (.int 1))

def pulseOfAngle (angle : Value) : Result Value := do
  let scaled ← (← Value.mul (.int 200) angle).div (.int 9)
  return .int (← (← scaled.add (.int 500)).toInteger)

def angleOfPulse (pulse : Value) : Result Value := do
  return .int (← (← (← pulse.sub (.int 500)).mul (.float 0.09)).toInteger)

def recordServo (place : Value) (angle pulse : Value) : Op Rig Unit := do
  let n ← recordPosition place
  let angles ← setAt (← get).board.angles n angle
  let pulses ← setAt (← get).board.pulses n pulse
  modify fun r => { r with board := { r.board with angles, pulses } }

def setServoAngle (index angle : Value) : Op Rig Value := do
  checkServo index
  let place ← index.sub (.int 1)
  let angle ← atLeast 0 (← atMost 180 angle)
  let register ← Value.add (.int 21) place
  twice do
    writeFrame boardAddress [register, angle]
    recordServo place angle (← pulseOfAngle angle)
  return angle

def timedCommand : Value := .int 40

def setServoPulse (index pulse time : Value) : Op Rig Value := do
  checkServo index
  let place ← index.sub (.int 1)
  let pulse ← atMost 2500 (← atLeast 500 pulse)
  let time ← atMost 30000 (← atLeast 0 time)
  let bytes := [timedCommand, .int 1] ++ (← wordBytes time) ++ [index] ++ (← wordBytes pulse)
  twice do
    writeFrame boardAddress bytes
    recordServo place (← angleOfPulse pulse) pulse
  return pulse

def pairs : List Value → List (Value × Value)
  | s :: p :: rest => (s, p) :: pairs rest
  | _ => []

def encodeServos : List (Value × Value) → Op Rig (List Value)
  | [] => return []
  | (servo, pulse) :: rest => do
    let pulse ← atMost 2500 (← atLeast 500 pulse)
    let word ← wordBytes pulse
    let place ← servo.sub (.int 1)
    let pulses ← setAt (← get).board.pulses (← recordPosition place) pulse
    modify fun r => { r with board := { r.board with pulses } }
    let angles ← setAt (← get).board.angles (← recordPosition place) (← angleOfPulse pulse)
    modify fun r => { r with board := { r.board with angles } }
    return servo :: word ++ (← encodeServos rest)

def setServosPulse (args : Value) : Op Rig Unit := do
  let items ← match args with
    | .list items | .tuple items => pure items
    | .str s => Value.items (.str s)
    | .range a b c => pure (Value.rangeItems a b c)
    | .dict _ => Op.fail (.unhashable "slice")
    | v => Op.fail (.noLength v.className)
  let time ← Value.subscript args (.int 0)
  let time ← atMost 30000 (← atLeast 0 time)
  let count ← Value.subscript args (.int 1)
  let head := [timedCommand, count] ++ (← wordBytes time)
  let body ← encodeServos (pairs (items.drop 2))
  twice (writeFrame boardAddress (head ++ body))

def getServoPulse : Op Rig Value := do
  checkServo index
  Value.itemAt (← get).board.pulses "list" (← index.sub (.int 1))

def getServoAngle : Op Rig Value := getServoPulse index

def getBattery : Op Rig Value :=
  twice do
    writeFrame boardAddress [.int 0]
    return .int (← readBattery)

def setBuzzer (level : Value) : Op Rig Unit := emit (.pin 31 level)

def packColor (red green blue : Value) : Result Value := do
  let high ← red.shiftLeft (.int 16)
  let middle ← green.shiftLeft (.int 8)
  (← high.bitOr middle).bitOr blue

def setLamp (index : Nat) (color : Value) : Op Rig Unit := emit (.lamp index color)

def showLamps : Op Rig Unit := emit .lampsShown

end Rover.Board
