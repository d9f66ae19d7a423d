import Rover.Board
import Rover.Number.Arith

/-!
# The chassis

Kinematics of a chassis on four wheels whose rollers stand at an angle, so that it can move in every
direction while it turns.
-/

namespace Rover

open Arith Geometry

/-- The speeds of the four wheels: front left, front right, back left, back right. -/
structure WheelSpeeds where
  frontLeft : Int
  frontRight : Int
  backLeft : Int
  backRight : Int
deriving DecidableEq, Repr

structure Chassis where
  halfWidth : Value := .int 67
  halfLength : Value := .int 59
  velocity : Value := .int 0
  direction : Value := .int 0
  turnRate : Value := .int 0

namespace Chassis

def wheelSpeeds {α : Type} [Geometry α] (halfWidth halfLength velocity direction turnRate : α) :
    Result WheelSpeeds := do
  let degree ← div (pi : α) (whole 180)
  let x ← mul velocity (← cos (← mul direction degree))
  let y ← mul velocity (← sin (← mul direction degree))
  let turn ← mul (← neg turnRate) (← add halfWidth halfLength)
  let frontLeft ← truncate (← sub (← add y x) turn)
  let frontRight ← truncate (← add (← sub y x) turn)
  let backLeft ← truncate (← sub (← sub y x) turn)
  let backRight ← truncate (← add (← add y x) turn)
  return ⟨frontLeft, frontRight, backLeft, backRight⟩

def polar {α : Type} [Geometry α] (x y : α) : Result (α × α) := do
  let zero : α := whole 0
  let length ← sqrt (← add (← square x) (← square y))
  if same x zero then
    let ahead ← atMost zero y
    return (length, whole (if ahead then 90 else 270))
  else if same y zero then
    let right ← less zero x
    return (length, whole (if right then 0 else 180))
  else
    let angle ← atan (← div y x)
    let angle ← div (← mul angle (whole 180)) pi
    if ← less x zero then
      return (length, ← add angle (whole 180))
    else if ← less y zero then
      return (length, ← add angle (whole 360))
    else
      return (length, angle)

def drive (w : WheelSpeeds) : Op Rig Unit := do
  let _ ← Board.setMotor (.int 1) (.int w.frontLeft)
  let _ ← Board.setMotor (.int 2) (.int w.frontRight)
  let _ ← Board.setMotor (.int 3) (.int w.backLeft)
  let _ ← Board.setMotor (.int 4) (.int w.backRight)

variable (c : Chassis)

def setVelocity (velocity direction turnRate : Value) (trial : Bool := false) : Op Rig Chassis := do
  let w ← wheelSpeeds c.halfWidth c.halfLength velocity direction turnRate
  if trial then return c
  drive w
  return { c with velocity, direction, turnRate }

def translate (x y : Value) : Op Rig Chassis := do
  let (velocity, direction) ← polar x y
  c.setVelocity velocity direction (.int 0)

def stop : Op Rig Chassis := do
  drive ⟨0, 0, 0, 0⟩
  return { c with velocity := .int 0, direction := .int 0, turnRate := .int 0 }

inductive Order where
  | velocity (velocity direction turnRate : Value) (trial : Bool)
  | translation (x y : Value) (trial : Bool)
  | stop

def become (command : Chassis → Op Rig Chassis) : Op (Rig × Chassis) Value := do
  let c ← HasRig.onRig (command (← get).2)
  modify fun s => (s.1, c)
  return .none

def perform : Order → Op (Rig × Chassis) Value
  | .velocity velocity direction turnRate trial =>
    become fun c => c.setVelocity velocity direction turnRate trial
  | .translation x y false => become fun c => c.translate x y
  | .translation x y true => do
    let (length, direction) ← polar x y
    return .tuple [length, direction]
  | .stop => become stop

end Chassis

end Rover
