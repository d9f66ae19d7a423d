import Rover.Board
import Rover.LineSensor
import Rover.Sonar

/-!
# Sensors

What programs can ask about the surroundings: the distance ahead, the line under the vehicle and the
battery.
-/

namespace Rover.Sensors

def distance : Op Rig Value := do
  let d ← Sonar.getDistance
  Rig.debug ("超声波距离: " ++ d.text ++ "mm")
  return d

def distanceCm : Op Rig Value := do
  Op.ofExcept ((← distance).div (.float 10.0))

def closerThan (bound : Value) : Op Rig Value := do
  let d ← distance
  let closer ← d.less bound
  Rig.debug ("超声波检测: 当前" ++ d.text ++ "mm < 阈值" ++ bound.text ++ "mm = "
    ++ (Value.bool closer).text)
  return .bool closer

def line : Op Rig (List Bool) := do
  let eyes ← LineSensor.read
  Rig.debug ("巡线传感器: " ++ (Value.list (eyes.map .bool)).text)
  return eyes

def eye (eyes : List Bool) (i : Nat) : Bool := eyes.getD i false

def onLine : Op Rig Bool := do
  let eyes ← line
  return eye eyes 1 && eye eyes 2

def lineLeft : Op Rig Bool := return eye (← line) 0

def lineRight : Op Rig Bool := return eye (← line) 3

def crossing : Op Rig Bool := return (← line).all id

def lost : Op Rig Bool := return !(← line).any id

def lineAt (channel : Value) : Op Rig Value := do
  if (← channel.less (.int 0)) || (← channel.greater (.int 3)) then
    Op.fail (Fault.invalidChannel channel).written
  let eyes ← line
  Value.itemAt (eyes.map .bool) "list" channel

def voltage : Op Rig Value := do
  let v ← (← Board.getBattery).div (.float 1000.0)
  Rig.debug ("电池电压: " ++ v.text ++ "V")
  return v

def lowBattery : Op Rig Value := do
  return .bool (← (← voltage).less (.float 3.5))

def all : Op Rig Value := do
  let mm ← distance
  let cm ← distanceCm
  let eyes ← line
  let middle ← onLine
  let left ← lineLeft
  let right ← lineRight
  let cross ← crossing
  let lost ← lost
  let volts ← voltage
  let low ← lowBattery
  return record [
    ("ultrasonic", record [("distance_mm", mm), ("distance_cm", cm)]),
    ("line_follower", record [
      ("sensors", .list (eyes.map .bool)), ("on_line", .bool middle), ("left", .bool left),
      ("right", .bool right), ("intersection", .bool cross), ("lost", .bool lost)]),
    ("battery", record [("voltage", volts), ("low", low)])]

end Rover.Sensors
