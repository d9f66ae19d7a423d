import Rover.Image.Raster

/-!
# Morphology

Growing and shrinking sets of pixels by a box or by a disc of five pixels.
-/

namespace Rover.Mask

variable (m : Mask)

def spread (grow : Bool) (reachX reachY : Nat) : Mask :=
  let w := m.width
  let h := m.height
  let row (y : Nat) (bytes : ByteArray) : ByteArray := Id.run do
    let y0 := y - reachY
    let y1 := min (y + reachY + 1) h
    let mut bytes := bytes
    for x in [0 : w] do
      let x0 := x - reachX
      let x1 := min (x + reachX + 1) w
      let mut result : UInt8 := if grow then 0 else 1
      for v in [y0 : y1] do
        for u in [x0 : x1] do
          let b := m.bytes.get! (v * w + u)
          result := if grow then result ||| b else result &&& b
      bytes := bytes.push result
    return bytes
  ⟨w, h, Rows.build m.bytes w w h reachY row⟩

def dilateBox (reachX reachY : Nat) : Mask :=
  if m.isEmpty then m
  else
    let across := if reachX = 0 then m else spread m true reachX 0
    if reachY = 0 then across else spread across true 0 reachY

def erodeBox (reachX reachY : Nat) : Mask :=
  if m.isEmpty then m
  else
    let across := if reachX = 0 then m else spread m false reachX 0
    if reachY = 0 then across else spread across false 0 reachY

def dilateDisc : Mask :=
  if m.isEmpty then m else (m.dilateBox 2 1).union (m.dilateBox 0 2)

def erodeDisc : Mask :=
  if m.isEmpty then m else (m.erodeBox 2 1).inter (m.erodeBox 0 2)

def openBox : Mask := (m.erodeBox 1 1).dilateBox 1 1

def closeBox : Mask := (m.dilateBox 1 1).erodeBox 1 1

def openDisc : Mask := m.erodeDisc.dilateDisc

def closeDisc : Mask := m.dilateDisc.erodeDisc

end Rover.Mask
