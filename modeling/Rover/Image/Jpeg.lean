import Rover.Image.Raster

/-!
# The size of a JPEG file

How many bytes a picture takes as a baseline JPEG file of quality 95 with colour at half the
resolution.
-/

namespace Rover.Jpeg

open List

structure CodeWord where
  bits : Nat
  length : Nat
deriving Inhabited

def canonicalCode (counts symbols : List Nat) : Array CodeWord :=
  let step (state : Nat × List Nat × Array CodeWord) (entry : Nat × Nat) :
      Nat × List Nat × Array CodeWord :=
    let (first, symbols, table) := state
    let (count, length) := entry
    let table := (symbols.take count).zipIdx.foldl
      (fun t (s, i) => t.set! s ⟨first + i, length⟩) table
    (2 * (first + count), symbols.drop count, table)
  let lengths := counts.zipIdx.map fun (n, i) => (n, i + 1)
  (lengths.foldl step (0, symbols, Array.replicate 256 ⟨0, 0⟩)).2.2

def coefficientSymbols : List Nat :=
  0x00 :: (range 16).flatMap fun run =>
    (if run = 15 then [0xF0] else []) ++ (range 10).map fun size => 16 * run + size + 1

def ordered (first : List Nat) : List Nat :=
  first ++ coefficientSymbols.filter fun s => !first.contains s

/-- How a component is coded: the steps of its coefficients row by row, and its codes. -/
structure Coding where
  steps : Array Nat
  level : Array CodeWord
  coefficient : Array CodeWord

def finer (steps : List Nat) : Array Nat :=
  (steps.map fun s => max 1 ((10 * s + 50) / 100)).toArray

def brightness : Coding where
  steps := finer [
    16, 11, 10, 16, 24, 40, 51, 61, 12, 12, 14, 19, 26, 58, 60, 55,
    14, 13, 16, 24, 40, 57, 69, 56, 14, 17, 22, 29, 51, 87, 80, 62,
    18, 22, 37, 56, 68, 109, 103, 77, 24, 35, 55, 64, 81, 104, 113, 92,
    49, 64, 78, 87, 103, 121, 120, 101, 72, 92, 95, 98, 112, 100, 103, 99]
  level := canonicalCode [0, 1, 5, 1, 1, 1, 1, 1, 1] (range 12)
  coefficient := canonicalCode [0, 2, 1, 3, 3, 2, 4, 3, 5, 5, 4, 4, 0, 0, 1, 125] (ordered [
    0x01, 0x02, 0x03, 0x00, 0x04, 0x11, 0x05, 0x12, 0x21, 0x31, 0x41, 0x06, 0x13, 0x51, 0x61,
    0x07, 0x22, 0x71, 0x14, 0x32, 0x81, 0x91, 0xA1, 0x08, 0x23, 0x42, 0xB1, 0xC1, 0x15, 0x52,
    0xD1, 0xF0, 0x24, 0x33, 0x62, 0x72, 0x82, 0x09, 0x0A])

def chroma : Coding where
  steps := finer ([
    17, 18, 24, 47, 99, 99, 99, 99, 18, 21, 26, 66, 99, 99, 99, 99,
    24, 26, 56, 99, 99, 99, 99, 99, 47, 66, 99, 99, 99, 99, 99, 99] ++ replicate 32 99)
  level := canonicalCode [0, 3, 1, 1, 1, 1, 1, 1, 1, 1, 1] (range 12)
  coefficient := canonicalCode [0, 2, 1, 2, 4, 4, 3, 4, 7, 5, 4, 4, 0, 1, 2, 119] (ordered [
    0x00, 0x01, 0x02, 0x03, 0x11, 0x04, 0x05, 0x21, 0x31, 0x06, 0x12, 0x41, 0x51, 0x07, 0x61,
    0x71, 0x13, 0x22, 0x32, 0x81, 0x08, 0x14, 0x42, 0x91, 0xA1, 0xB1, 0xC1, 0x09, 0x23, 0x33,
    0x52, 0xF0, 0x15, 0x62, 0x72, 0xD1, 0x0A, 0x16, 0x24, 0x34, 0xE1, 0x25, 0xF1])

def transform (shift : Nat) : List Int → List Int
  | [d0, d1, d2, d3, d4, d5, d6, d7] =>
    let a0 := d0 + d7; let a7 := d0 - d7
    let a1 := d1 + d6; let a6 := d1 - d6
    let a2 := d2 + d5; let a5 := d2 - d5
    let a3 := d3 + d4; let a4 := d3 - d4
    let b0 := a0 + a3; let b3 := a0 - a3
    let b1 := a1 + a2; let b2 := a1 - a2
    let e := (b2 + b3) * 4433
    let f := (a4 + a6 + a5 + a7) * 9633
    let z1 := (a4 + a7) * -7373
    let z2 := (a5 + a6) * -20995
    let z3 := (a4 + a6) * -16069 + f
    let z4 := (a5 + a7) * -3196 + f
    [(b0 + b1) * 8192, a7 * 12299 + z1 + z4, e + b3 * 6270, a6 * 25172 + z2 + z3,
      (b0 - b1) * 8192, a5 * 16819 + z2 + z4, e - b2 * 15137, a4 * 2446 + z1 + z3].map
        fun (v : Int) => (v + twoPow (shift - 1)).shiftRight shift
  | other => other

def zigzag : List Nat :=
  (range 15).flatMap fun d =>
    let onDiagonal := (range 8).filterMap fun row =>
      if row ≤ d ∧ d - row < 8 then some (8 * row + (d - row)) else none
    if d % 2 = 0 then onDiagonal.reverse else onDiagonal

def quantize (v : Int) (step : Nat) : Int :=
  let d := 8 * step
  let size : Int := (v.natAbs + d / 2) / d
  if v < 0 then -size else size

def coefficients (c : Coding) (samples : List (List Int)) : List Int :=
  let rows := samples.map fun row => transform 11 (row.map (· - 128))
  let columns := (range 8).map fun x => transform 15 (rows.map fun row => row.getD x 0)
  let all := (columns.map toArray).toArray
  zigzag.map fun i =>
    quantize ((all.getD (i % 8) #[]).getD (i / 8) 0) (c.steps.getD i 1)

/-- Bits that were coded: the whole bytes so far by their number, and the bits of the last one. -/
structure Output where
  count : Nat := 0
  pending : Nat := 0
  width : Nat := 0

def Output.settle : Nat → Output → Output
  | 0, o => o
  | fuel + 1, o =>
    if o.width < 8 then o
    else
      let rest := o.width - 8
      let byte := o.pending / twoPow rest
      settle fuel ⟨o.count + (if byte = 255 then 2 else 1), o.pending % twoPow rest, rest⟩

variable (o : Output)

def Output.put (bits length : Nat) : Output :=
  settle (length / 8 + 2) ⟨o.count, o.pending * twoPow length + bits, o.width + length⟩

def Output.word (w : CodeWord) : Output := o.put w.bits w.length

def sizeOf (v : Int) : Nat := if v = 0 then 0 else v.natAbs.log2 + 1

def Output.digits (v : Int) : Output :=
  let n := sizeOf v
  o.put (if v < 0 then v + twoPow n - 1 else v).toNat n

def Output.details (c : Coding) : Nat → List Int → Output → Output
  | 0, [], o => o
  | _ + 1, [], o => o.word (c.coefficient.getD 0x00 default)
  | run, v :: rest, o =>
    if v = 0 then details c (run + 1) rest o
    else
      let o := (range (run / 16)).foldl
        (fun o _ => o.word (c.coefficient.getD 0xF0 default)) o
      let o := o.word (c.coefficient.getD (16 * (run % 16) + sizeOf v) default)
      details c 0 rest (o.digits v)

def Output.block (c : Coding) (previous : Int) (values : List Int) (o : Output) : Output :=
  match values with
  | [] => o
  | mean :: rest =>
    let o := (o.word (c.level.getD (sizeOf (mean - previous)) default)).digits (mean - previous)
    Output.details c 0 rest o

structure Plane where
  width : Nat
  height : Nat
  sample : Nat → Nat → Int

def Plane.block (p : Plane) (c : Coding) (column row : Nat) : List Int :=
  coefficients c ((range 8).map fun y => (range 8).map fun x =>
    p.sample (8 * column + x) (8 * row + y))

variable (r : Raster)

def colorAt (x y : Nat) : Int × Int × Int :=
  let i := 3 * (min y (r.height - 1) * r.width + min x (r.width - 1))
  let part (k : Nat) : Int := (r.bytes.get! (i + k)).toNat
  (part 0, part 1, part 2)

def blocks (n size : Nat) : Nat := (n + size - 1) / size

def brightnessOf : Plane where
  width := blocks r.width 8
  height := blocks r.height 8
  sample := fun x y =>
    let (b, g, d) := colorAt r x y
    (19595 * d + 38470 * g + 7471 * b + 32768) / 65536

def halved (part : Int → Int → Int → Int) : Plane where
  width := blocks r.width 16
  height := blocks r.height 16
  sample := fun x y =>
    let y := min y (blocks r.height 2 - 1)
    let at' (dx dy : Nat) : Int :=
      let (b, g, d) := colorAt r (2 * x + dx) (2 * y + dy)
      part b g d
    (at' 0 0 + at' 1 0 + at' 0 1 + at' 1 1 + (if x % 2 = 0 then 1 else 2)) / 4

def offset : Int := 128 * 65536 + 32767

def bluenessOf : Plane :=
  halved r fun b g d => (32768 * b - 21709 * g - 11059 * d + offset) / 65536

def rednessOf : Plane :=
  halved r fun b g d => (32768 * d - 27439 * g - 5329 * b + offset) / 65536

structure Progress where
  output : Output := {}
  brightness : Int := 0
  blueness : Int := 0
  redness : Int := 0

def flat (mean : Int) : List Int := mean :: replicate 63 0

def unit (y b d : Plane) (column row : Nat) (p : Progress) : Progress :=
  let p := [(0, 0), (1, 0), (0, 1), (1, 1)].foldl (fun (p : Progress) (dx, dy) =>
    let cx := 2 * column + dx
    let cy := 2 * row + dy
    let values := if cx < y.width ∧ cy < y.height then y.block Jpeg.brightness cx cy
      else flat p.brightness
    { p with
      output := p.output.block Jpeg.brightness p.brightness values
      brightness := values.headD 0 }) p
  let blue := b.block chroma column row
  let red := d.block chroma column row
  { p with
    output := (p.output.block chroma p.blueness blue).block chroma p.redness red
    blueness := blue.headD 0
    redness := red.headD 0 }

def headerSize : Nat := 2 + 18 + 2 * 69 + 19 + 2 * 33 + 2 * 183 + 14

def size : Nat :=
  let y := brightnessOf r
  let b := bluenessOf r
  let d := rednessOf r
  let p := (range (blocks r.height 16)).foldl (fun p row =>
    (range (blocks r.width 16)).foldl (fun p column => unit y b d column row p) p) {}
  headerSize + (p.output.put 127 7).count + 2

end Rover.Jpeg
