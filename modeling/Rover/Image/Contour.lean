import Rover.Image.Raster

/-!
# Contours

The outlines of the regions of a mask.
-/

namespace Rover

structure Contour where
  points : Array (Int × Int)
deriving Repr, DecidableEq, Inhabited

namespace Contour

variable (c : Contour)

def sumSides (f : Int → Int → Int → Int → Int) : Int :=
  let n := c.points.size
  (List.range n).foldl (fun acc i =>
    let p := c.points.getD ((i + n - 1) % n) (0, 0)
    let q := c.points.getD i (0, 0)
    acc + f p.1 p.2 q.1 q.2) 0

def signedDoubleArea : Int := c.sumSides fun x y x' y' => x * y' - y * x'

def doubleArea : Nat := c.signedDoubleArea.natAbs

def area : Float := c.doubleArea.toFloat / 2.0

def centroid? : Option (Float × Float) :=
  let a := c.signedDoubleArea
  if a = 0 then none
  else
    let mx := c.sumSides fun x y x' y' => (x * y' - y * x') * (x + x')
    let my := c.sumSides fun x y x' y' => (x * y' - y * x') * (y + y')
    let sixth : Float := if 0 < a then 0.16666666666666666 else -0.16666666666666666
    let m00 := nearestInt a.natAbs * 0.5
    some (nearestInt mx * sixth / m00, nearestInt my * sixth / m00)

end Contour

namespace Mask

def stepX : Array Int := #[1, 1, 0, -1, -1, -1, 0, 1]

def stepY : Array Int := #[0, -1, -1, -1, 0, 1, 1, 1]

def framed (m : Mask) : ByteArray := Id.run do
  let stride := m.width + 2
  let mut bytes : ByteArray := ⟨Array.replicate (stride * (m.height + 2)) 0⟩
  for y in [0 : m.height] do
    for x in [0 : m.width] do
      if m.bytes.get! (y * m.width + x) != 0 then
        bytes := bytes.set! ((y + 1) * stride + x + 1) 1
  return bytes

def trace (bytes : ByteArray) (stride : Nat) (start : Nat) (x0 y0 : Int) :
    Array (Int × Int) × ByteArray := Id.run do
  let next (place : Nat) (s : Nat) : Nat :=
    ((place : Int) + stepX.getD (s % 8) 0 + (stride : Int) * stepY.getD (s % 8) 0).toNat
  let mut bytes := bytes
  -- the last border pixel before the start, going round it with the clock from the left
  let mut first := 4
  for k in [1 : 8] do
    let s := (4 + 8 - k) % 8
    if bytes.get! (next start s) != 0 then
      first := s
      break
  if first = 4 then
    return (#[(x0, y0)], bytes.set! start 3)
  let last := next start first
  let mut points : Array (Int × Int) := #[]
  let mut here := start
  let mut x := x0
  let mut y := y0
  let mut s := first
  for _ in [0 : 8 * bytes.size] do
    let back := s
    let mut t := s
    for k in [1 : 9] do
      t := s + k
      if bytes.get! (next here t) != 0 then break
    let ahead := next here t
    let dir := t % 8
    -- the neighbour on the right was passed over
    if 0 < dir ∧ dir - 1 < back then
      bytes := bytes.set! here 3
    else if bytes.get! here == 1 then
      bytes := bytes.set! here 2
    points := points.push (x, y)
    x := x + stepX.getD dir 0
    y := y + stepY.getD dir 0
    if ahead = start ∧ here = last then break
    here := ahead
    s := (dir + 4) % 8
  return (points, bytes)

def contours (m : Mask) : List Contour := Id.run do
  if m.isEmpty then return []
  let stride := m.width + 2
  let mut bytes := m.framed
  let mut found : List Contour := []
  for y in [1 : m.height + 1] do
    let mut previous : UInt8 := 0
    -- the border pixel last passed in this row
    let mut border : UInt8 := 0
    for x in [1 : m.width + 1] do
      let place := y * stride + x
      let mut p := bytes.get! place
      if previous == 0 && p == 1 && border != 2 then
        let (points, marked) := trace bytes stride place ((x : Int) - 1) ((y : Int) - 1)
        bytes := marked
        found := ⟨points⟩ :: found
        p := bytes.get! place
      previous := p
      if 2 ≤ p then border := p
  return found

end Mask

end Rover
