import Rover.Number.Binary

/-!
# Shortest decimals

The decimal with the fewest digits that lies in the interval of reals rounding to a given double.
-/

namespace Rover

structure Decimal where
  digits : Nat
  exponent : Int
deriving Repr, DecidableEq

namespace Decimal

def log10 (num den : Nat) : Int :=
  let estimate : Int := ((num.log2 : Int) - den.log2) * 30103 / 100000
  let atLeast (e : Int) : Bool :=
    if 0 ≤ e then den * tenPow e.toNat ≤ num else den ≤ num * tenPow (-e).toNat
  if atLeast (estimate + 2) then estimate + 2
  else if atLeast (estimate + 1) then estimate + 1
  else if atLeast estimate then estimate
  else if atLeast (estimate - 1) then estimate - 1
  else estimate - 2

variable (b : Binary)

def interval : Nat × Nat × Nat × Nat :=
  let lower := if b.mantissa = twoPow 52 ∧ -1074 < b.exponent then 1 else 2
  let (unit, den) :=
    if 0 ≤ b.exponent then (twoPow b.exponent.toNat, 1) else (1, twoPow (-b.exponent).toNat)
  ((4 * b.mantissa - lower) * unit, 4 * b.mantissa * unit, (4 * b.mantissa + 2) * unit, 4 * den)

def onGrid? (grid : Int) : Option Nat :=
  let (low, value, high, den) := interval b
  let (low, value, high, den) :=
    if 0 ≤ grid then (low, value, high, den * tenPow grid.toNat)
    else
      let s := tenPow (-grid).toNat
      (low * s, value * s, high * s, den)
  let inside (d : Nat) : Bool :=
    if b.mantissa % 2 = 0 then low ≤ d * den ∧ d * den ≤ high
    else low < d * den ∧ d * den < high
  let below := value / den
  let rest := value % den
  let nearerBelow := 2 * rest < den ∨ (2 * rest = den ∧ below % 2 = 0)
  let first := if nearerBelow then below else below + 1
  let second := if nearerBelow then below + 1 else below
  if 0 < first ∧ inside first then some first
  else if 0 < second ∧ inside second then some second
  else none

def shortest : Decimal :=
  let (num, den) := b.fraction
  let top := log10 num den
  let rec search (count : Nat) (digits : Nat) : Decimal :=
    let grid := top - digits + 1
    match onGrid? b grid, count with
    | some d, _ => ⟨d, grid⟩
    | none, 0 => ⟨num / den, 0⟩
    | none, count + 1 => search count (digits + 1)
  search 17 1

end Decimal

end Rover
