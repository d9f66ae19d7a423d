import Rover.Image.Contour

/-!
# The circle around an outline

The smallest circle that holds all points of an outline, found by adding the points one by one in
single precision; the radius has a small allowance.
-/

namespace Rover

structure Circle where
  x : Float32
  y : Float32
  radius : Float32

namespace Circle

abbrev Point := Float32 × Float32

def allowance : Float32 := 1.0e-4

def norm (x y : Float32) : Float :=
  (x.toFloat * x.toFloat + y.toFloat * y.toFloat).sqrt

def holds (c : Circle) (p : Float32 × Float32) : Bool :=
  norm (c.x - p.1) (c.y - p.2) < c.radius.toFloat

def ofTwo (p q : Point) : Circle :=
  ⟨(p.1 + q.1) / 2, (p.2 + q.2) / 2,
    (norm (p.1 - q.1) (p.2 - q.2)).toFloat32 / 2 + allowance⟩

def ofThree (p q r : Point) : Circle :=
  let v : Point := (q.1 - p.1, q.2 - p.2)
  let w : Point := (r.1 - p.1, r.2 - p.2)
  let c := (p.1 + q.1) / 2 * v.1 + (p.2 + q.2) / 2 * v.2
  let d := (p.1 + r.1) / 2 * w.1 + (p.2 + r.2) / 2 * w.2
  let det := v.1 * w.2 - v.2 * w.1
  if det.abs ≤ allowance then
    let square (a b : Point) : Float32 :=
      (a.1 - b.1) * (a.1 - b.1) + (a.2 - b.2) * (a.2 - b.2)
    let middle (a b : Point) (s : Float32) : Circle :=
      ⟨(a.1 + b.1) * 0.5, (a.2 + b.2) * 0.5, s.sqrt * 0.5 + allowance⟩
    let d1 := square p q
    let d2 := square p r
    let d3 := square q r
    if d2 ≤ d1 && d3 ≤ d1 then middle p q d1
    else if d1 ≤ d2 && d3 ≤ d2 then middle p r d2
    else middle q r d3
  else
    let x := (c * w.2 - d * v.2) / det
    let y := (v.1 * d - w.1 * c) / det
    let dx := x - p.1
    let dy := y - p.2
    ⟨x, y, (dx * dx + dy * dy).sqrt + allowance⟩

variable (points : Array Point)

def throughTwo (i j : Nat) : Circle :=
  let p := points.getD i (0, 0)
  let q := points.getD j (0, 0)
  (List.range j).foldl (fun c k =>
    let r := points.getD k (0, 0)
    if c.holds r then c else ofThree p q r) (ofTwo q p)

def throughOne (i : Nat) : Circle :=
  (List.range' 1 (i - 1)).foldl (fun c j =>
    if c.holds (points.getD j (0, 0)) then c else throughTwo points i j)
    (ofTwo (points.getD 0 (0, 0)) (points.getD i (0, 0)))

def around (c : Contour) : Circle :=
  let points := c.points.map fun (x, y) => ((nearestInt x).toFloat32, (nearestInt y).toFloat32)
  match points.toList with
  | [] => ⟨0, 0, 0⟩
  | [p] => ⟨p.1, p.2, allowance⟩
  | [p, q] => ofTwo p q
  | p :: q :: _ =>
    (List.range' 2 (points.size - 2)).foldl (fun c i =>
      let r := points.getD i (0, 0)
      if (norm (r.1 - c.x) (r.2 - c.y)).toFloat32 < c.radius then c
      else throughOne points i) (ofTwo p q)

end Circle

end Rover
