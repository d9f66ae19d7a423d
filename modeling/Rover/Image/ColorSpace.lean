import Rover.Image.Raster

/-!
# Colour spaces

Colours by hue, saturation and value, and by lightness and two opponent axes, all on eight bits and
in fixed-point arithmetic.
-/

namespace Rover.ColorSpace

def toByte (n : Int) : Int := max 0 (min 255 n)

def reciprocals (top : Float) : Array Int :=
  (Array.range 256).map fun i =>
    if i = 0 then 0 else (top * 4096.0 / i.toFloat).round.toInt64.toInt

def saturationTable : Array Int := reciprocals 255.0
def hueTable : Array Int := reciprocals 30.0

def hsv (blue green red : UInt8) : Int × Int × Int :=
  let b : Int := blue.toNat
  let g : Int := green.toNat
  let r : Int := red.toNat
  let v := max b (max g r)
  let diff := v - min b (min g r)
  let s := (diff * saturationTable.getD v.toNat 0 + 2048) / 4096
  let h :=
    if v = r then g - b
    else if v = g then b - r + 2 * diff
    else r - g + 4 * diff
  let h := (h * hueTable.getD diff.toNat 0 + 2048) / 4096
  let h := if h < 0 then h + 180 else h
  (toByte h, s, v)

def gammaTable : Array Int :=
  (Array.range 256).map fun i =>
    let x := i.toFloat / 255.0
    let y := if x ≤ 0.04045 then x / 12.92 else ((x + 0.055) / 1.055).pow 2.4
    (2040.0 * y).round.toInt64.toInt

def rootTable : Array Int :=
  (Array.range 3072).map fun i =>
    let x := i.toFloat / 2040.0
    let y := if x < 0.008856 then x * 7.787 + 0.13793103448275862 else x.cbrt
    (32768.0 * y).round.toInt64.toInt

def weight (c white : Float) : Int := (4096.0 * c / white).round.toInt64.toInt

def weights : Array Int := #[
  weight 0.412453 0.950456, weight 0.357580 0.950456, weight 0.180423 0.950456,
  weight 0.212671 1.0, weight 0.715160 1.0, weight 0.072169 1.0,
  weight 0.019334 1.088754, weight 0.119193 1.088754, weight 0.950227 1.088754]

def descale (n : Int) (bits : Nat) : Int := Int.fdiv (n + twoPow (bits - 1)) (twoPow bits)

def lab (blue green red : UInt8) : Int × Int × Int :=
  let b := gammaTable.getD blue.toNat 0
  let g := gammaTable.getD green.toNat 0
  let r := gammaTable.getD red.toNat 0
  let root (k : Nat) : Int :=
    let n := descale (r * weights.getD k 0 + g * weights.getD (k + 1) 0
      + b * weights.getD (k + 2) 0) 12
    rootTable.getD n.toNat 0
  let fx := root 0
  let fy := root 3
  let fz := root 6
  let l := descale (296 * fy - (16 * 255 * 32768 + 50) / 100) 15
  let a := descale (500 * (fx - fy) + 128 * 32768) 15
  let c := descale (200 * (fy - fz) + 128 * 32768) 15
  (toByte l, toByte a, toByte c)

/-- A box in a colour space: the least and the greatest value of each coordinate. -/
structure Range where
  low : Int × Int × Int
  high : Int × Int × Int
deriving Repr, DecidableEq

def Range.contains (r : Range) (c : Int × Int × Int) : Bool :=
  r.low.1 ≤ c.1 && c.1 ≤ r.high.1 && r.low.2.1 ≤ c.2.1 && c.2.1 ≤ r.high.2.1
    && r.low.2.2 ≤ c.2.2 && c.2.2 ≤ r.high.2.2

def selectHsv (r : Raster) (range : Range) : Mask :=
  r.select fun b g d => range.contains (hsv b g d)

def selectLab (r : Raster) (range : Range) : Mask :=
  r.select fun b g d => range.contains (lab b g d)

end Rover.ColorSpace
