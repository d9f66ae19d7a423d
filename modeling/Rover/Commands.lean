import Rover.Signature
import Rover.Vision

/-!
# Commands

The words with which programs command the vehicle and ask its sensors.
-/

namespace Rover

open Gimbal Sensors Vehicle

/-- A word of the programs: how it is called, and what it does with the values of its parameters. -/
structure Command where
  signature : Signature Value
  act : List Value → Op Vehicle Value

namespace Command

def name (c : Command) : String := c.signature.name

def call (c : Command) (positional : List Value) (named : Record := []) : Op Vehicle Value := do
  c.act (← c.signature.bind positional named)

variable (name : String)

def plain (op : Op Vehicle Value) : Command := ⟨{ name, parameters := [] }, fun _ => op⟩

def unary (p : Parameter Value) (op : Value → Op Vehicle Value) : Command :=
  ⟨{ name, parameters := [p] }, fun args => op (args.getD 0 .none)⟩

def binary (p q : Parameter Value) (op : Value → Value → Op Vehicle Value) : Command :=
  ⟨{ name, parameters := [p, q] }, fun args => op (args.getD 0 .none) (args.getD 1 .none)⟩

def effect (op : Op Vehicle Unit) : Op Vehicle Value := do
  op
  return .none

def move (kind : Motion.Move) : Command :=
  unary name ⟨"speed", some (.int 50)⟩ fun speed => effect do
    let m := (← get).motion
    m.move kind speed

def gimbal (turn : Gimbal → Op Rig Gimbal) : Command :=
  plain name (effect (moveGimbal turn))

def gimbalBy (turn : Gimbal → Value → Op Rig Gimbal) : Command :=
  unary name ⟨"angle", some (.int 30)⟩ fun angle => effect (moveGimbal (turn · angle))

def question (op : Op Rig Value) : Command := plain name (onRig op)

def test (op : Op Rig Bool) : Command :=
  plain name do return .bool (← onRig op)

def driving : List Command := [
  move "qianjin" .forward,
  move "houtui" .backward,
  move "zuopingyi" .left,
  move "youpingyi" .right,
  move "xuanzhuan" .clockwise,
  move "fxuanzhuan" .counterClockwise,
  plain "tingzhi" (effect Motion.stop),
  binary "yidong_angle" ⟨"angle", none⟩ ⟨"speed", some (.int 50)⟩ fun angle speed => effect do
    let m := (← get).motion
    m.moveAtAngle angle speed,
  binary "yidong_xy" ⟨"vx", none⟩ ⟨"vy", none⟩ fun x y => effect (Motion.moveAlong x y),
  binary "set_servo" ⟨"servo_id", none⟩ ⟨"angle", none⟩ fun index angle => effect do
    let m := (← get).motion
    m.setServo index angle,
  plain "reset_servos" (effect Motion.resetServos)]

def sensing : List Command := [
  question "heshengbo" distance,
  question "heshengbo_juli" distanceCm,
  test "xunxian_zhong" onLine,
  test "xunxian_zuo" lineLeft,
  test "xunxian_you" lineRight,
  question "dianchi" voltage]

def looking : List Command := [
  gimbal "shang" up,
  gimbal "xia" down,
  gimbal "zuo" left,
  gimbal "you" right,
  gimbal "fuwei" fun _ => reset]

def further : List Command := [
  move "xiaozuozhuan" .counterClockwise,
  move "xiaoyouzhuan" .clockwise,
  unary "dengdai" ⟨"seconds", none⟩ fun seconds => effect (Motion.wait seconds),
  unary "xunxian" ⟨"channel", none⟩ fun channel => onRig (lineAt channel),
  gimbalBy "yuntai_shang" lookUp,
  gimbalBy "yuntai_xia" lookDown,
  gimbalBy "yuntai_zuo" lookLeft,
  gimbalBy "yuntai_you" lookRight,
  gimbal "yuntai_fuwei" fun _ => reset,
  unary "shibieyanse" ⟨"color_name", none⟩ fun color => do return .bool (← Vision.sees color)]

def all : List Command := driving ++ sensing ++ looking ++ further

def find? : Option Command := all.find? (·.name == name)

end Command

end Rover
