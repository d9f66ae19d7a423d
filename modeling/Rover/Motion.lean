import Rover.Chassis

/-!
# Motion

The moves that programs command: straight ahead and back, sideways, turning on the spot, and moves
in any direction.
-/

namespace Rover

open Value

structure Motion where
  maxSpeed : Int := 80
  maxAngle : Int := 180
deriving DecidableEq, Repr

def Value.smaller (a b : Value) : Result Value := do
  if ← b.less a then return b else return a

def Value.larger (a b : Value) : Result Value := do
  if ← b.greater a then return b else return a

def Value.within (low high : Int) (v : Value) : Result Value := do
  larger (.int low) (← smaller (.int high) v)

namespace Motion

def ofSettings (maxSpeed maxAngle : Option String) : Result Motion := do
  let speed ← toInteger (.str (maxSpeed.getD "80"))
  let angle ← toInteger (.str (maxAngle.getD "180"))
  return ⟨speed, angle⟩

def clampSpeed (m : Motion) (speed : Value) : Result Value :=
  speed.within (-m.maxSpeed) m.maxSpeed

def clampAngle (m : Motion) (angle : Value) : Result Value :=
  angle.within 0 m.maxAngle

inductive Turn where
  | ahead | back
deriving DecidableEq, Repr

structure Move where
  title : String
  frontLeft : Turn
  frontRight : Turn
  backLeft : Turn
  backRight : Turn

namespace Move

def forward : Move := ⟨"前进", .ahead, .ahead, .ahead, .ahead⟩
def backward : Move := ⟨"后退", .back, .back, .back, .back⟩
def left : Move := ⟨"左平移", .back, .ahead, .back, .ahead⟩
def right : Move := ⟨"右平移", .ahead, .back, .ahead, .back⟩
def clockwise : Move := ⟨"旋转(顺时针)", .ahead, .back, .back, .ahead⟩
def counterClockwise : Move := ⟨"旋转(逆时针)", .back, .ahead, .ahead, .back⟩

end Move

def Turn.speed (speed : Value) : Turn → Result Value
  | .ahead => .ok speed
  | .back => speed.neg

def wheel (index : Int) (speed : Value) (t : Turn) : Op Rig Unit := do
  let _ ← Board.setMotor (.int index) (← t.speed speed)

variable (m : Motion)

def move (kind : Move) (speed : Value) : Op Rig Unit := do
  let speed ← m.clampSpeed speed
  Rig.info (kind.title ++ ": 速度=" ++ speed.text)
  wheel 1 speed kind.frontLeft
  wheel 2 speed kind.frontRight
  wheel 3 speed kind.backLeft
  wheel 4 speed kind.backRight

def stop : Op Rig Unit := do
  Rig.info "停止"
  Chassis.drive ⟨0, 0, 0, 0⟩

def moveAtAngle (angle speed : Value) : Op Rig Unit := do
  let speed ← m.clampSpeed speed
  Rig.info ("按角度移动: 角度=" ++ (← angle.shown) ++ "°, 速度=" ++ speed.text)
  let _ ← Chassis.setVelocity {} speed angle (.int 0)

def moveAlong (x y : Value) : Op Rig Unit := do
  let x ← within (-100) 100 (.int (← x.toInteger))
  let y ← within (-100) 100 (.int (← y.toInteger))
  Rig.info ("按XY移动: vx=" ++ x.text ++ ", vy=" ++ y.text)
  let _ ← Chassis.translate {} x y

def setServo (index angle : Value) : Op Rig Unit := do
  if (← index.less (.int 1)) || (← index.greater (.int 6)) then
    Op.fail (Fault.invalidServoId index).written
  let angle ← m.clampAngle angle
  Rig.info ("舵机" ++ index.text ++ ": 角度=" ++ angle.text ++ "°")
  let _ ← Board.setServoAngle index angle

def resetServos : Op Rig Unit := do
  Rig.info "复位所有舵机"
  for i in [1, 2, 3, 4, 5, 6] do
    let _ ← Board.setServoAngle (.int i) (.int 90)

def wait (seconds : Value) : Op Rig Unit := do
  let seconds ← within 0 60 (.float (← seconds.toFloat))
  Rig.info ("等待: " ++ seconds.text ++ "秒")
  Rig.sleep seconds

end Motion

end Rover
