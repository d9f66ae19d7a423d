import Rover.Motion

/-!
# The gimbal

The camera's mount: one servo turns it left and right, another up and down.
-/

namespace Rover

structure Gimbal where
  horizontal : Value := .int 90
  vertical : Value := .int 90

namespace Gimbal

def horizontalServo : Value := .int 2

def verticalServo : Value := .int 1

def center : Value := .int 90

def clampAngle (angle : Value) : Result Value := angle.within 0 180

def toCenter : Op Rig Gimbal := do
  let _ ← Board.setServoAngle horizontalServo center
  let _ ← Board.setServoAngle verticalServo center
  return {}

def new : Op Rig Gimbal := do
  let g ← toCenter
  Rig.info "云台初始化完成: 水平=90°, 垂直=90°"
  return g

variable (g : Gimbal)

def moveHorizontal (delta : Value) : Op Rig Gimbal := do
  let angle ← clampAngle (← g.horizontal.add delta)
  Rig.info ("云台水平移动: " ++ g.horizontal.text ++ "° -> " ++ angle.text ++ "°")
  let _ ← Board.setServoAngle horizontalServo angle
  return { g with horizontal := angle }

def moveVertical (delta : Value) : Op Rig Gimbal := do
  let angle ← clampAngle (← g.vertical.add delta)
  Rig.info ("云台垂直移动: " ++ g.vertical.text ++ "° -> " ++ angle.text ++ "°")
  let _ ← Board.setServoAngle verticalServo angle
  return { g with vertical := angle }

def stepAngle : Int := 10

def up : Op Rig Gimbal := g.moveVertical (.int stepAngle)

def down : Op Rig Gimbal := g.moveVertical (.int (-stepAngle))

def left : Op Rig Gimbal := g.moveHorizontal (.int (-stepAngle))

def right : Op Rig Gimbal := g.moveHorizontal (.int stepAngle)

def reset : Op Rig Gimbal := do
  Rig.info "云台复位"
  toCenter

variable (angle : Value)

def setHorizontal : Op Rig Gimbal := do
  let angle ← clampAngle angle
  Rig.info ("设置云台水平角度: " ++ angle.text ++ "°")
  let _ ← Board.setServoAngle horizontalServo angle
  return { g with horizontal := angle }

def setVertical : Op Rig Gimbal := do
  let angle ← clampAngle angle
  Rig.info ("设置云台垂直角度: " ++ angle.text ++ "°")
  let _ ← Board.setServoAngle verticalServo angle
  return { g with vertical := angle }

def offset : Result Value := angle.within 0 90

def lookUp : Op Rig Gimbal := do
  g.setVertical (← Value.add center (← offset angle))

def lookDown : Op Rig Gimbal := do
  g.setVertical (← Value.sub center (← offset angle))

def lookLeft : Op Rig Gimbal := do
  g.setHorizontal (← Value.sub center (← offset angle))

def lookRight : Op Rig Gimbal := do
  g.setHorizontal (← Value.add center (← offset angle))

def position : Value :=
  record [("horizontal", g.horizontal), ("vertical", g.vertical)]

end Gimbal

end Rover
