/-!
# Doubles as exact fractions

A finite double is an integer times a power of two.
-/

namespace Rover

def twoPow (n : Nat) : Nat := Nat.pow 2 n

def tenPow (n : Nat) : Nat := Nat.pow 10 n

/-- The parts of a finite double: its value is `± mantissa * 2 ^ exponent`. -/
structure Binary where
  negative : Bool
  mantissa : Nat
  exponent : Int
deriving Repr, DecidableEq

namespace Binary

def ofFloat? (x : Float) : Option Binary :=
  let bits := x.toBits.toNat
  let negative := bits ≥ twoPow 63
  let biased : Nat := bits / twoPow 52 % twoPow 11
  let fraction : Nat := bits % twoPow 52
  if biased = 2047 then none
  else if biased = 0 then some ⟨negative, fraction, -1074⟩
  else some ⟨negative, fraction + twoPow 52, (biased : Int) - 1075⟩

variable (b : Binary)

def fraction : Nat × Nat :=
  if 0 ≤ b.exponent then (b.mantissa * twoPow b.exponent.toNat, 1)
  else (b.mantissa, twoPow (-b.exponent).toNat)

def truncate : Int :=
  let (num, den) := b.fraction
  let magnitude : Int := (num / den : Nat)
  if b.negative then -magnitude else magnitude

def floor : Int :=
  let (num, den) := b.fraction
  let signed : Int := if b.negative then -(num : Int) else num
  Int.fdiv signed den

end Binary

def roundHalfEven (num den : Nat) : Nat :=
  let q := num / den
  let r := num % den
  if 2 * r < den then q
  else if den < 2 * r then q + 1
  else if q % 2 = 0 then q else q + 1

def nearestBits (num den : Nat) : Nat :=
  if num = 0 ∨ den = 0 then 0
  else
    let scaled (q : Int) : Nat × Nat :=
      if 0 ≤ q then (num, den * twoPow q.toNat) else (num * twoPow (-q).toNat, den)
    -- the quotient has one or two bits more than a mantissa at this scale
    let coarse := max ((num.log2 : Int) - den.log2 - 53) (-1074)
    let (n, d) := scaled coarse
    let q := if n / d < twoPow 53 then coarse else coarse + 1
    let (n, d) := scaled q
    let bits := (q + 1074).toNat * twoPow 52 + roundHalfEven n d
    min bits (2047 * twoPow 52)

def nearest (negative : Bool) (num den : Nat) : Float :=
  let bits := nearestBits num den
  Float.ofBits (UInt64.ofNat (if negative then bits + twoPow 63 else bits))

def nearestInt (n : Int) : Float := nearest (n < 0) n.natAbs 1

def compareInt (n : Int) (x : Float) : Option Ordering :=
  match Binary.ofFloat? x with
  | some b =>
    let (num, den) := b.fraction
    let signed : Int := if b.negative then -(num : Int) else num
    some (compare (n * den) signed)
  | none => if x.isNaN then none else if x > 0 then some .lt else some .gt

end Rover
