import Rover.Number.Text

/-!
# Doubles with a chosen number of digits

Positional notation with so many places, notation with an exponent, and the one of the two that
suits the size of the number.
-/

namespace Rover.Number

structure Significant where
  digits : Chars
  exponent : Int
deriving Repr, DecidableEq

def padded (width n : Nat) : Chars :=
  let digits := Nat.toDigits 10 n
  List.replicate (width - digits.length) '0' ++ digits

def significant (num den count : Nat) : Significant :=
  if num = 0 then ⟨List.replicate count '0', 0⟩
  else
    let top := Decimal.log10 num den
    let grid := top - ((count : Int) - 1)
    let n := if 0 ≤ grid then roundHalfEven num (den * tenPow grid.toNat)
      else roundHalfEven (num * tenPow (-grid).toNat) den
    let digits := Nat.toDigits 10 n
    -- rounding up may lead to one digit more
    if count < digits.length then ⟨digits.take count, top + 1⟩ else ⟨digits, top⟩

def withPoint (pointed : Bool) (whole : Nat) (digits : Chars) : Chars :=
  let fraction := digits.drop whole
  digits.take whole ++ (if fraction.isEmpty && !pointed then [] else '.' :: fraction)

def fixedPoint (num den places : Nat) (pointed : Bool) : Chars :=
  let digits := padded (places + 1) (roundHalfEven (num * tenPow places) den)
  withPoint pointed (digits.length - places) digits

def exponentMark (e : Int) : Chars :=
  'e' :: (if e < 0 then '-' else '+') :: padded 2 e.natAbs

def scientific (num den places : Nat) (pointed : Bool) : Chars :=
  let s := significant num den (places + 1)
  withPoint pointed 1 s.digits ++ exponentMark s.exponent

def trimmed (digits : Chars) : Chars :=
  (digits.reverse.dropWhile (· == '0')).reverse

def placed (s : Significant) (bound : Int) (pointed whole : Bool) : Chars :=
  let digits := if s.digits.isEmpty then ['0'] else s.digits
  if -4 ≤ s.exponent ∧ s.exponent < bound then
    let (digits, before) :=
      if s.exponent < 0 then (List.replicate (-s.exponent).toNat '0' ++ digits, 1)
      else (digits ++ List.replicate (s.exponent.toNat + 1 - digits.length) '0',
        s.exponent.toNat + 1)
    let text := withPoint pointed before digits
    if whole && digits.length ≤ before then digits ++ ['.', '0'] else text
  else withPoint pointed 1 digits ++ exponentMark s.exponent

def general (num den count : Nat) (alternate whole : Bool) : Chars :=
  let count := max count 1
  let s := significant num den count
  let bound : Int := if whole then (count : Int) - 1 else count
  let digits := if alternate then s.digits else trimmed s.digits
  placed ⟨digits, s.exponent⟩ bound alternate whole

end Rover.Number
