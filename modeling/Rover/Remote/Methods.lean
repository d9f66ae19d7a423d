import Rover.Remote.Server
import Rover.Signature

/-!
# Methods

What can be called from outside. The vehicle has no driver for serial servos, so every command to one
ends with the name of the missing driver function; a command that checks its arguments does so
before.
-/

namespace Rover.SerialServo

variable {σ α : Type}

def write : Op σ α := Op.fail (.unknownName "serial_serro_wirte_cmd")

def read : Op σ α := Op.fail (.unknownName "serial_servo_read_cmd")

def clearDeviation : Op σ α := Op.fail (.unknownName "serial_servo_set_deviation")

def setPulse (pulse time : Value) : Op σ α := do
  let _ ← Board.atMost 1000 (← Board.atLeast 0 pulse)
  let _ ← Board.atMost 30000 (← Board.atLeast 0 time)
  write

end Rover.SerialServo

namespace Rover.Remote

inductive Trouble where
  | argumentCount | argument | failed | timeout | notCallable
deriving DecidableEq, Repr

def Trouble.text : Trouble → String
  | .argumentCount => "E01 - Invalid number of parameter!"
  | .argument => "E02 - Invalid parameter!"
  | .failed => "E03 - Operation failed!"
  | .timeout => "E04 - Operation timeout!"
  | .notCallable => "E05 - Not callable"

structure Method where
  signature : Signature Value
  run : List Value → Server.M Value

namespace Method

open Server (M onBoard inArcade)
open Play (update state)

variable (name : String)

def done (result : Value := .tuple []) : Value :=
  .tuple [.bool true, result, .str name]

def refused (t : Trouble) : Value :=
  .tuple [.bool false, .str t.text, .str name]

def tried (op : M Value) : M Value :=
  Op.guarded op fun _ => return refused name .failed

def queued (errand : Errand) : M Value := do
  match ← Server.ask errand with
  | none => return .tuple [.bool false, .str Trouble.timeout.text]
  | some answer =>
    if (← answer.subscript (.int 0)).truth then return answer
    else
      let text ← Value.add (.str (Trouble.failed.text ++ " ")) (← answer.subscript (.int 1))
      return .tuple [.bool false, text]

def pulseOfAngle (angle : Value) : Result Value := do
  let pulse ← Scale.convert angle (.int 90) (.int (-90)) (.int 500) (.int 2500)
  return .int (← pulse.toInteger)

def addServoWords : List (Value × Value) → M Unit
  | [] => pure ()
  | (servo, angle) :: rest => do
    let pulse ← pulseOfAngle angle
    update fun s => { s with servoWords := s.servoWords ++ [servo, pulse] }
    addServoWords rest

variable (args : List Value)

def setServos : M Value :=
  tried "SetPWMServo" do
    match args with
    | time :: count :: rest =>
      update fun s => { s with servoWords := time :: count :: s.servoWords }
      addServoWords (Board.pairs rest)
      Play.onRig (Board.setServosPulse (.list (← state).servoWords))
      update ({ · with servoWords := [] })
      return done "SetPWMServo"
    | _ => Op.fail (.indexRange "tuple")

def move (angle : Value) : M Value :=
  tried "SetMovementAngle" do
    if angle.same (.int (-1)) then Play.onRig Games.halt
    else Play.onRig (Games.drive (.int 70) angle (.int 0))
    return .none

def outside (low high : Int) (v : Value) : Result Bool := do
  if ← v.less (.int low) then return true
  v.greater (.int high)

def anyOutside (low high : Int) : List Value → Result Bool
  | [] => return false
  | v :: rest => do
    if ← outside low high v then return true
    anyOutside low high rest

def setMotors : M Value := do
  let name := "SetBrushMotor"
  if args.length % 2 ≠ 0 then return refused name .argumentCount
  tried name do
    let commands := Board.pairs args
    if ← anyOutside 1 4 (commands.map Prod.fst) then return refused name .argument
    for (motor, speed) in commands do
      let _ ← Play.onRig (Board.setMotor motor speed)
    return done name

def setSerialServos : M Value := do
  let name := "SetBusServoPulse"
  let expected ← (← (← Value.itemAt args "tuple" (.int 1)).mul (.int 2)).add (.int 2)
  if !expected.same (.int args.length) || args.length < 4 then return refused name .argumentCount
  tried name do
    let time := args.headD .none
    let commands := Board.pairs (args.drop 2)
    if ← anyOutside 1 6 (commands.map Prod.fst) then
      return .tuple [.bool false, .str Trouble.argument.text]
    for (_, pulse) in commands do
      let _ : Value ← SerialServo.setPulse pulse time
    return done name

def serialCommand (name word : String) (given : Value) (op : M Value) : M Value :=
  if given.same (.str word) then op else return refused name .argumentCount

def untold (op : M Value) : M Value := do
  Op.ignoring do
    let _ ← op
  return .none

def setSonarColor (index red green blue : Value) : M Value := do
  if index.same (.int 0) then
    Roaming.setSonarLamp (.int 0) (← Board.packColor red green blue)
    Roaming.setSonarLamp (.int 1) (← Board.packColor red green blue)
  else Roaming.setSonarLamp index (.tuple [red, green, blue])
  return done "SetSonarRGB" (.tuple [red, green, blue])

def plain (op : M Value) : Method :=
  ⟨{ name, parameters := [] }, fun _ => op⟩

def unary (name parameter : String) (default : Option Value) (op : Value → M Value) : Method :=
  ⟨{ name, parameters := [⟨parameter, default⟩] }, fun args => op (args.headD .none)⟩

def variadic (name rest : String) (namedRest : Option String) (op : List Value → M Value) :
    Method :=
  ⟨{ name, parameters := [], rest := some rest, namedRest },
    fun args => match args.head? with
      | some (.tuple items) => op items
      | _ => op []⟩

def named (parameters : List String) (op : List Value → M Value) : Method :=
  ⟨{ name, parameters := parameters.map (⟨·, none⟩) }, op⟩

def colors (errand : Value → Errand) : Method :=
  variadic name "target_color" none fun items => queued (errand (.tuple items))

def table : List Method := [
  named "map" ["x", "in_min", "in_max", "out_min", "out_max"] fun
    | [x, a, b, c, d] => Scale.convert x a b c d
    | _ => return .none,
  variadic "SetPWMServo" "args" "kwargs" setServos,
  unary "SetMovementAngle" "angle" none move,
  variadic "SetBrushMotor" "args" "kwargs" setMotors,
  plain "GetSonarDistance" do
    return done "GetSonarDistance" (← Play.onRig Sonar.getDistance),
  plain "GetBatteryVoltage"
    (tried "GetBatteryVoltage" do
      return done "GetBatteryVoltage" (← Play.onRig Board.getBattery)),
  unary "SetSonarRGBMode" "mode" (some (.int 0)) fun mode => do
    Play.onRig (Sonar.setMode mode)
    return done "SetSonarRGBMode" (.tuple [mode]),
  named "SetSonarRGB" ["index", "r", "g", "b"] fun
    | [index, red, green, blue] => setSonarColor index red green blue
    | _ => return .none,
  named "SetSonarRGBBreathCycle" ["index", "color", "cycle"] fun
    | [index, color, cycle] => do
      Play.onRig (Sonar.setBreathing index color cycle)
      return done "SetSonarRGBBreathCycle" (.tuple [index, color, cycle])
    | _ => return .none,
  plain "SetSonarRGBStartSymphony" do
    Play.onRig Sonar.startSymphony
    return done "SetSonarRGBStartSymphony",
  unary "SetAvoidanceSpeed" "speed" (some (.int 50)) fun v => queued (.setSpeed (.tuple [v])),
  unary "SetSonarDistanceThreshold" "new_threshold" (some (.int 30)) fun v =>
    queued (.setThreshold (.tuple [v])),
  plain "GetSonarDistanceThreshold" (queued .askThreshold),
  variadic "SetBusServoPulse" "args" "kwargs" setSerialServos,
  variadic "SetBusServoDeviation" "args" none fun args =>
    if args.length ≠ 2 then return refused "SetBusServoDeviation" .argumentCount
    else untold SerialServo.write,
  unary "GetBusServosDeviation" "args" none fun v =>
    let name := "GetBusServosDeviation"
    serialCommand name "readDeviation" v (tried name SerialServo.read),
  unary "SaveBusServosDeviation" "args" none fun v =>
    let name := "SaveBusServosDeviation"
    serialCommand name "downloadDeviation" v (tried name SerialServo.write),
  unary "UnloadBusServo" "args" none fun v =>
    serialCommand "UnloadBusServo" "servoPowerDown" v (untold SerialServo.write),
  unary "GetBusServosPulse" "args" none fun v =>
    let name := "GetBusServosPulse"
    serialCommand name "angularReadback" v (tried name SerialServo.read),
  unary "StopBusServo" "args" none fun v =>
    serialCommand "StopBusServo" "stopAction" v (untold SerialServo.write),
  unary "LoadFunc" "new_func" (some (.int 0)) fun v => queued (.load (.tuple [v])),
  plain "UnloadFunc" (queued .unload),
  plain "StartFunc" (queued .start),
  plain "StopFunc" (queued .stop),
  plain "FinishFunc" (Op.fail (.noAttribute "module" "finishFunc")),
  plain "Heartbeat" (queued .report),
  plain "GetRunningFunc" do
    return .tuple [.bool false, .str Trouble.notCallable.text],
  colors "ColorTracking" .chase,
  unary "ColorTrackingWheel" "state" (some (.int 0)) fun v => queued (.follow v),
  colors "VisualPatrol" .patrol,
  colors "ColorDetect" .spot,
  variadic "SetLABValue" "lab_value" none fun items => queued (.setColors (.tuple items)),
  plain "GetLABValue" do
    let saved ← inArcade (Arcade.inTuner ThresholdTuner.savedThresholds)
    return done "GetLABValue" (← saved.subscript (.int 1)),
  unary "SaveLABValue" "color" (some (.str "")) fun _ => queued .saveColors,
  plain "HaveLABAdjust" do
    return done "HaveLABAdjust" (.bool true),
  unary "echo" "s" none fun v => return v,
  named "add" ["a", "b"] fun
    | [a, b] => a.add b
    | _ => return .none]

def find? : Option Method := table.find? (·.signature.name == name)

end Method

end Rover.Remote
