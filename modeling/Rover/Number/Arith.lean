import Rover.Value.Arith

/-!
# Arithmetic as a parameter

Controllers and kinematics are written over any kind of number that has these operations.
-/

namespace Rover

open Value

/-- Numbers with the four operations and an order. `whole` and `real` give the whole number `n`
and the same number as a measured quantity. -/
class Arith (α : Type) where
  whole : Int → α
  real : Int → α
  add : α → α → Result α
  sub : α → α → Result α
  mul : α → α → Result α
  div : α → α → Result α
  neg : α → Result α
  less : α → α → Result Bool
  atMost : α → α → Result Bool
  same : α → α → Bool

class Geometry (α : Type) extends Arith α where
  pi : α
  square : α → Result α
  sqrt : α → Result α
  sin : α → Result α
  cos : α → Result α
  atan : α → Result α
  truncate : α → Result Int

namespace Value

def circular (f : Float → Float) (v : Value) : Result Value := do
  let x ← v.toReal
  if x.isInf then throw .domain
  if x.isNaN then return v
  -- the machine's sine and cosine are closed to proofs, so that they are finite is said here, and
  -- below what they are at zero and at a quarter of a turn
  let y := f x
  return .float (if y.isFinite then y else 0.0)

def quarterTurn : Float := 1.5707963267948966

def shortfall : Float := Float.ofBits 0x3c91a62633145c07

@[irreducible] def cosine (x : Float) : Float :=
  if x == 0 then 1.0 else if x == quarterTurn then shortfall else x.cos

@[irreducible] def sine (x : Float) : Float :=
  if x == 0 then x else if x == quarterTurn then 1.0 else x.sin

def sqrt (v : Value) : Result Value := do
  let x ← v.toReal
  if x < 0 then throw .domain
  return .float x.sqrt

def pi : Float := 3.141592653589793

end Value

instance : Arith Value where
  whole := .int
  real n := .float (nearestInt n)
  add := add
  sub := sub
  mul := mul
  div := div
  neg := neg
  less := compare .lt
  atMost := compare .le
  same := same

instance : Geometry Value where
  pi := .float pi
  square v := v.pow (.int 2)
  sqrt := sqrt
  sin := circular sine
  cos := circular cosine
  atan v := do return .float (← v.toReal).atan
  truncate := toInteger

end Rover
