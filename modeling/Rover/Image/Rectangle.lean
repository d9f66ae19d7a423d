import Rover.Image.Hull

/-!
# The rectangle around an outline

The smallest rectangle, in any direction, that holds all points of an outline.
-/

namespace Rover

structure Rectangle where
  x : Float32
  y : Float32
  x' : Float32
  y' : Float32

namespace Rectangle

structure Vector where
  x : Float32
  y : Float32

instance : Inhabited Vector := ⟨0, 0⟩

variable (hull : Array Vector)

def sides : Array Vector :=
  Array.ofFn fun i : Fin hull.size =>
    let p := hull.getD i ⟨0, 0⟩
    let q := hull.getD ((i + 1) % hull.size) ⟨0, 0⟩
    ⟨q.x - p.x, q.y - p.y⟩

def extreme (better : Vector → Vector → Bool) : Nat :=
  (List.range hull.size).foldl (fun best i =>
    if better (hull.getD i ⟨0, 0⟩) (hull.getD best ⟨0, 0⟩) then i else best) 0

structure Hold where
  area : Float32
  a : Float32
  b : Float32
  width : Float32
  height : Float32
  left : Nat
  bottom : Nat

structure Jaws where
  bottom : Nat
  right : Nat
  top : Nat
  left : Nat

def isRightOf (v w : Vector) : Bool := v.y * w.x + -v.x * w.y < 0

def turn (hull sides : Array Vector) (j : Jaws) : Jaws × Hold :=
  let side (i : Nat) : Vector := sides.getD i ⟨0, 0⟩
  let corner (i : Nat) : Vector := hull.getD i ⟨0, 0⟩
  let next (i : Nat) : Nat := if i + 1 = hull.size then 0 else i + 1
  let unit (i : Nat) : Vector :=
    let s := side i
    let dx := s.x.toFloat
    let dy := s.y.toFloat
    let inverse := (1.0 / (dx * dx + dy * dy).sqrt).toFloat32
    ⟨s.x * inverse, s.y * inverse⟩
  -- the sides as the bottom jaw would see them
  let bottom := side j.bottom
  let right : Vector := ⟨(side j.right).y, -(side j.right).x⟩
  let top : Vector := ⟨-(side j.top).x, -(side j.top).y⟩
  let left : Vector := ⟨-(side j.left).y, (side j.left).x⟩
  let (nearest, chosen) := if isRightOf right bottom then (1, right) else (0, bottom)
  let (nearest, chosen) := if isRightOf top chosen then (2, top) else (nearest, chosen)
  let nearest := if isRightOf left chosen then 3 else nearest
  let (a, b, j) : Float32 × Float32 × Jaws := match nearest with
    | 0 => let u := unit j.bottom; (u.x, u.y, { j with bottom := next j.bottom })
    | 1 => let u := unit j.right; (u.y, -u.x, { j with right := next j.right })
    | 2 => let u := unit j.top; (-u.x, -u.y, { j with top := next j.top })
    | _ => let u := unit j.left; (-u.y, u.x, { j with left := next j.left })
  let r := corner j.right
  let l := corner j.left
  let width := (r.x - l.x) * a + (r.y - l.y) * b
  let t := corner j.top
  let o := corner j.bottom
  let height := -(t.x - o.x) * b + (t.y - o.y) * a
  (j, ⟨width * height, a, b, width, height, j.left, j.bottom⟩)

def tightest : Option Hold :=
  let ss := sides hull
  let start : Jaws :=
    { bottom := extreme hull fun p q => p.y < q.y
      right := extreme hull fun p q => q.x < p.x
      top := extreme hull fun p q => q.y < p.y
      left := extreme hull fun p q => p.x < q.x }
  ((List.range hull.size).foldl (fun (j, best) _ =>
    let (j, h) := turn hull ss j
    match best with
    | some (b : Hold) => (j, if h.area ≤ b.area then some h else best)
    | none => (j, some h)) (start, none)).2

def length (x y : Float32) : Float32 :=
  (x.toFloat * x.toFloat + y.toFloat * y.toFloat).sqrt.toFloat32

def ofHold (h : Hold) : Rectangle :=
  let l := hull.getD h.left ⟨0, 0⟩
  let o := hull.getD h.bottom ⟨0, 0⟩
  let c1 := h.a * l.x + l.y * h.b
  let c2 := -h.b * o.x + o.y * h.a
  let scale := 1 / (h.a * h.a - -h.b * h.b)
  let px := (c1 * h.a - c2 * h.b) * scale
  let py := (h.a * c2 - -h.b * c1) * scale
  let ux := h.a * h.width
  let uy := h.b * h.width
  let vx := -h.b * h.height
  let vy := h.a * h.height
  let cx := px + (ux + vx) * 0.5
  let cy := py + (uy + vy) * 0.5
  let w := length ux uy
  let t := length vx vy
  let pi : Float := 3.141592653589793
  let degrees := ((Float.atan2 uy.toFloat ux.toFloat).toFloat32.toFloat * 180 / pi).toFloat32
  let angle := degrees.toFloat * pi / 180
  let b := angle.cos.toFloat32 * 0.5
  let a := angle.sin.toFloat32 * 0.5
  let x := cx - a * t - b * w
  let y := cy + b * t - a * w
  ⟨x, y, 2 * cx - x, 2 * cy - y⟩

def around (c : Contour) : Rectangle :=
  let hull := (c.hull.map fun (x, y) =>
    (⟨(nearestInt x).toFloat32, (nearestInt y).toFloat32⟩ : Vector)).toArray
  match tightest hull with
  | some h => ofHold hull h
  | none => ⟨0, 0, 0, 0⟩

end Rectangle

end Rover
