import Rover.Image.Contour

/-!
# Convex hulls

The corners of the convex hull of an outline.
-/

namespace Rover.Contour

structure Walk where
  avoided : Int
  bend : Int

def walk (points : Array (Int × Int)) (w : Walk) (start stop pace : Int) :
    Nat → List Int → Int → List Int
  | 0, way, _ => way
  | fuel + 1, way, next =>
    if next = stop then way
    else
      let at' (i : Int) : Int × Int := points.getD i.toNat (0, 0)
      match way with
      | here :: before :: rest =>
        let (x, y) := at' here
        let rise := (at' next).2 - y
        if rise.sign = w.avoided then walk points w start stop pace fuel way (next + pace)
        else
          let ax := x - (at' before).1
          let ay := y - (at' before).2
          let bend := ay * ((at' next).1 - x) - ax * rise
          if bend.sign = w.bend && (ax != 0 || ay != 0) then
            walk points w start stop pace fuel (next :: way) (next + pace)
          else if before = start then
            walk points w start stop pace fuel [next, start] (next + pace)
          else walk points w start stop pace fuel (before :: rest) next
      | _ => way

def quarter (points : Array (Int × Int)) (w : Walk) (start stop : Nat) : List Nat :=
  if start = stop ∨ points[start]? = points[stop]? then [start]
  else
    let pace : Int := if start < stop then 1 else -1
    let way := walk points w start (stop + pace) pace (3 * points.size)
      [start + pace, (start : Int)] (start + 2 * pace)
    (way.map Int.toNat).reverse

def firstBest (points : Array (Int × Int)) (better : Int → Int → Bool) : Nat :=
  (List.range points.size).foldl (fun best i =>
    if better (points.getD i (0, 0)).2 (points.getD best (0, 0)).2 then i else best) 0

def turned (places : List Nat) : List Nat :=
  let n := places.length
  if n < 3 then places
  else
    let get (i : Nat) : Nat := places.getD i 0
    let (least, most, rises, _) := (List.range (n - 1)).foldl
      (fun (least, most, rises, passed) k =>
        if passed then (least, most, rises, passed)
        else
          let i := k + 1
          let rises := if get (i - 1) < get i then rises + 1 else rises
          if 1 < rises ∧ rises + 2 ≤ i then (least, most, rises, true)
          else (if get i < get least then i else least, if get most < get i then i else most,
            rises, false))
      (0, 0, 0, false)
    let apart := max least most - min least most
    if (apart = 1 ∨ apart = n - 1) ∧ (rises ≤ 1 ∨ n ≤ rises + 2) then
      let ascending := (most + 1) % n == least
      let first := if ascending then least else most
      let again := places.drop first ++ places.take first
      if (again.zip (again.drop 1)).all fun (a, b) => decide (a < b) == ascending then again
      else places
    else places

def hull (c : Contour) : List (Int × Int) :=
  let before (p q : (Int × Int) × Nat) : Bool :=
    p.1.1 < q.1.1 || (p.1.1 = q.1.1 && (p.1.2 < q.1.2 || (p.1.2 = q.1.2 && p.2 ≤ q.2)))
  let sorted := c.points.toList.zipIdx.mergeSort before
  let points := (sorted.map Prod.fst).toArray
  let original (i : Nat) : Nat := (sorted[i]?.map Prod.snd).getD 0
  let last := points.size - 1
  if points[0]? = points[last]? then c.points.toList.take 1
  else
    let top := firstBest points fun y best => best < y
    let bottom := firstBest points fun y best => y < best
    let topLeft := quarter points ⟨-1, 1⟩ 0 top
    let topRight := quarter points ⟨-1, -1⟩ last top
    let bottomLeft := quarter points ⟨1, -1⟩ 0 bottom
    let bottomRight := quarter points ⟨1, 1⟩ last bottom
    -- points on one line: the second half would repeat the first one
    let stop? : Option Nat :=
      if 2 < topLeft.length then topLeft[1]?
      else if 2 < topRight.length then topRight[topRight.length - 2]? else none
    let check? : Option Nat :=
      if 2 < bottomLeft.length then bottomLeft[1]?
      else if 2 < bottomLeft.length + bottomRight.length then
        bottomRight[2 - bottomLeft.length]?
      else none
    let flat := match stop?, check? with
      | some i, some j => i == j || points[i]? == points[j]?
      | _, _ => false
    let bottomLeft := if flat then bottomLeft.take 2 else bottomLeft
    let bottomRight := if flat then bottomRight.take 2 else bottomRight
    let places := topRight.dropLast ++ (topLeft.drop 1).reverse
      ++ bottomLeft.dropLast ++ (bottomRight.drop 1).reverse
    (turned (places.map original)).map fun i => c.points.getD i (0, 0)

end Rover.Contour
