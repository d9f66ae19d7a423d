import Rover.Number.Text

/-!
# Complex numbers

Pairs of doubles with the four operations, powers and the absolute value.
-/

namespace Rover

structure Complex where
  re : Float
  im : Float
deriving Inhabited

namespace Complex

inductive Defect where
  | zeroDivision
  | zeroPower
  | overflow
deriving DecidableEq, Repr

def isNegative (x : Float) : Bool := twoPow 63 ≤ x.toBits.toNat

def ofReal (x : Float) : Complex := ⟨x, 0⟩

variable (a b : Complex)

def same : Bool := a.re == b.re && a.im == b.im

def nonzero (a : Complex) : Bool := a.re != 0 || a.im != 0

def add : Complex := ⟨a.re + b.re, a.im + b.im⟩
def sub : Complex := ⟨a.re - b.re, a.im - b.im⟩
def neg (a : Complex) : Complex := ⟨-a.re, -a.im⟩

def mul : Complex :=
  ⟨a.re * b.re - a.im * b.im, a.re * b.im + a.im * b.re⟩

def div : Except Defect Complex :=
  if b.im.abs ≤ b.re.abs then
    if b.re == 0 then .error .zeroDivision
    else
      let ratio := b.im / b.re
      let denominator := b.re + b.im * ratio
      .ok ⟨(a.re + a.im * ratio) / denominator, (a.im - a.re * ratio) / denominator⟩
  else if b.re.abs ≤ b.im.abs then
    let ratio := b.re / b.im
    let denominator := b.re * ratio + b.im
    .ok ⟨(a.re * ratio + a.im) / denominator, (a.im * ratio - a.re) / denominator⟩
  else .ok ⟨0.0 / 0.0, 0.0 / 0.0⟩

def rootOfFraction (num den : Nat) : Float :=
  -- the root of `num * 2 ^ (2 * s) / den` has at least 60 binary digits
  let shift := (124 + den.log2 - num.log2 + 1) / 2
  let scaled := num * twoPow (2 * shift)
  let whole := scaled / den
  let root := whole.sqrt
  let exact := root * root * den == scaled
  nearest false (2 * root + (if exact then 0 else 1)) (twoPow (shift + 1))

def hypot (x y : Float) : Float :=
  if x.isInf || y.isInf then 1.0 / 0.0
  else
    match Binary.ofFloat? x, Binary.ofFloat? y with
    | some a, some b =>
      let (n, d) := a.fraction
      let (m, e) := b.fraction
      rootOfFraction (n * n * (e * e) + m * m * (d * d)) (d * d * (e * e))
    | _, _ => 0.0 / 0.0

def abs (a : Complex) : Except Defect Float :=
  let r := hypot a.re a.im
  if r.isInf && !a.re.isInf && !a.im.isInf then .error .overflow else .ok r

def powNat (result square : Complex) (n : Nat) : Complex :=
  if n = 0 then result
  else powNat (if n % 2 = 1 then result.mul square else result) (square.mul square) (n / 2)
termination_by n

def powPolar : Except Defect Complex :=
  if !b.nonzero then .ok ⟨1, 0⟩
  else if !a.nonzero then
    if b.im != 0 || b.re < 0 then .error .zeroPower else .ok ⟨0, 0⟩
  else
    let size := hypot a.re a.im
    let angle := a.im.atan2 a.re
    let length := size.pow b.re
    let phase := angle * b.re
    let (length, phase) :=
      if b.im != 0 then (length / (angle * b.im).exp, phase + b.im * size.log)
      else (length, phase)
    -- an infinite angle has no direction
    if phase.isInf then .error .zeroPower
    else .ok ⟨length * phase.cos, length * phase.sin⟩

def pow : Except Defect Complex := do
  let r ←
    if b.im == 0 && b.re == b.re.floor && b.re.abs ≤ 100 then
      let n := b.re.abs.toUInt64.toNat
      if 0 < b.re then pure (powNat ⟨1, 0⟩ a n)
      else match (⟨1, 0⟩ : Complex).div (powNat ⟨1, 0⟩ a n) with
        | .ok r => pure r
        | .error _ => throw .zeroPower
    else powPolar a b
  if r.re.isInf || r.im.isInf then throw .overflow
  return r

def partText (x : Float) : String :=
  let s := (Number.floatText x).toList
  if [ '0', '.' ].isPrefixOf s.reverse then String.ofList (s.take (s.length - 2)) else String.ofList s

def signedPart (x : Float) : String :=
  let s := partText x
  if s.startsWith "-" then s else "+" ++ s

def text (a : Complex) : String :=
  if a.re == 0 && !isNegative a.re then partText a.im ++ "j"
  else "(" ++ partText a.re ++ signedPart a.im ++ "j)"

end Complex

end Rover
