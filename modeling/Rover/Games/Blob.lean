import Rover.Games.Basic
import Rover.Image.ColorSpace
import Rover.Image.Contour
import Rover.Image.Morphology

/-!
# Blobs of colour

Games find things by their colour: the table of thresholds gives each colour a box in colour space,
the pixels inside it form blobs, and the largest blob counts.
-/

namespace Rover.Blob

def bound (v : Value) : Result Int :=
  match v.num? with
  | some (.int n) => .ok n
  | some (.float x) => match Binary.ofFloat? x with
    | some b =>
      let (num, den) := b.fraction
      let n : Int := roundHalfEven num den
      .ok (if x < 0 then -n else n)
    | none => .error .badImage
  | none => .error .badImage

def corner (thresholds color : Value) (side : String) : Result (List Value) :=
  [0, 1, 2].mapM fun (i : Int) => do
    ((← (← thresholds.subscript color).subscript (.str side)).subscript (.int i))

def range (thresholds color : Value) : Result ColorSpace.Range := do
  let lows ← corner thresholds color "min"
  let highs ← corner thresholds color "max"
  match ← lows.mapM bound, ← highs.mapM bound with
  | [a, b, c], [d, e, f] => return ⟨(a, b, c), (d, e, f)⟩
  | _, _ => throw .badImage

def smooth (picture : Raster) : Result Raster := do
  return ((← Games.visible picture).resize Games.width Games.height).blur

def outlines (r : Raster) (box : ColorSpace.Range) : List Contour :=
  (ColorSpace.selectLab r box).openBox.closeBox.contours

def colorBoxes (thresholds targets : Value) : Result (List (Value × ColorSpace.Range)) := do
  let step (found : List (Value × ColorSpace.Range)) (color : Value) :
      Result (List (Value × ColorSpace.Range)) := do
    if ← thresholds.contains color then return (color, ← range thresholds color) :: found
    else return found
  return (← (← targets.items).foldlM step []).reverse

def families (thresholds targets : Value) (r : Raster) : Result (List (Value × List Contour)) := do
  return (← colorBoxes thresholds targets).map fun (color, box) => (color, outlines r box)

def largest {α : Type} (area : α → Nat) (least : Nat) (shapes : List α) : Option α × Nat :=
  shapes.foldl (fun (best, most) s =>
    let a := area s
    if most < a then (if least ≤ a then some s else best, a) else (best, most)) (none, 0)

def visible : Nat := 601

def foremost {α : Type} (area : α → Nat) (found : List (Value × List α)) : Option (Value × α × Nat) :=
  found.foldl (fun best (color, shapes) =>
    match largest area visible shapes with
    | (some s, a) =>
      match best with
      | some (_, _, most) => if most < a then some (color, s, a) else best
      | none => some (color, s, a)
    | (none, _) => best) none

def dominant (found : List (Value × List Contour)) : Result (Option Value) :=
  match foremost Contour.doubleArea found with
  | some (color, _, area) =>
    if 5000 < area then do
      let _ ← Games.inkFor color
      return some color
    else .ok none
  | none => .ok none

def dominantIn (thresholds targets : Value) (picture : Raster) : Result (Option Value) := do
  dominant (← families thresholds targets picture)

end Rover.Blob
