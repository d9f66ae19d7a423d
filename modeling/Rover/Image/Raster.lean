import Rover.Scene

/-!
# Raster images

Images of eight bits a channel with the channels blue, green and red, row by row, and the masks of
pixels that an operation has marked.
-/

namespace Rover

/-- An image with three channels; `bytes` holds them for each pixel, row by row. -/
structure Raster where
  width : Nat
  height : Nat
  bytes : ByteArray

/-- A set of pixels: one byte for each, 1 if it belongs to the set and 0 if not. -/
structure Mask where
  width : Nat
  height : Nat
  bytes : ByteArray

namespace Rows

def isRepeated (bytes : ByteArray) (length y : Nat) : Bool := Id.run do
  if y = 0 then return false
  for i in [y * length : (y + 1) * length] do
    if bytes.get! i != bytes.get! (i - length) then return false
  return true

/-- Builds an image row by row: `row y` looks at the source rows up to `reach` rows away. A row that
looks at the same bytes as the one before it is copied. -/
def build (source : ByteArray) (sourceLength length height reach : Nat)
    (row : Nat → ByteArray → ByteArray) : ByteArray := Id.run do
  let mut bytes := ByteArray.emptyWithCapacity (length * height)
  -- the number of repeated source rows up to the last one that was looked at
  let mut run := 0
  let mut seen := 0
  for y in [0 : height] do
    for z in [seen : min (y + reach + 1) height] do
      run := if isRepeated source sourceLength z then run + 1 else 0
    seen := min (y + reach + 1) height
    let isCopy := 2 * reach < run && reach < y && y + reach < height
    bytes := if isCopy then bytes ++ bytes.extract ((y - 1) * length) (y * length) else row y bytes
  return bytes

end Rows

namespace Raster

def filled (width height : Nat) (c : Color) : Raster := Id.run do
  let mut bytes := ByteArray.emptyWithCapacity (3 * width * height)
  for _ in [0 : width * height] do
    bytes := ((bytes.push c.blue).push c.green).push c.red
  return ⟨width, height, bytes⟩

def place (n : Int) (size : Nat) : Nat :=
  if n < 0 then (n + size).toNat else min n.toNat size

def clip (start length : Int) (size : Nat) : Nat × Nat :=
  (place start size, place (start + length) size)

variable (r : Raster)

def paint (p : Patch) : Raster := Id.run do
  let (x0, x1) := clip p.x p.width r.width
  let (y0, y1) := clip p.y p.height r.height
  let width := r.width
  let mut bytes := r.bytes
  for y in [y0 : y1] do
    for x in [x0 : x1] do
      let i := 3 * (y * width + x)
      bytes := bytes.set! i p.color.blue
      bytes := bytes.set! (i + 1) p.color.green
      bytes := bytes.set! (i + 2) p.color.red
  return ⟨r.width, r.height, bytes⟩

def ofScene (s : Scene) : Raster :=
  s.patches.foldl paint (filled s.width s.height s.background)

def nearestPositions (size source : Nat) : Array Nat :=
  let ratio : Float := 1.0 / (size.toFloat / source.toFloat)
  (Array.range size).map fun i =>
    min ((i.toFloat * ratio).floor.toUInt64.toNat) (source - 1)

def resize (width height : Nat) : Raster := Id.run do
  if r.width = width ∧ r.height = height then return r
  let columns := nearestPositions width r.width
  let rows := nearestPositions height r.height
  let mut bytes := ByteArray.emptyWithCapacity (3 * width * height)
  for y in rows do
    let base := y * r.width
    for x in columns do
      let i := 3 * (base + x)
      bytes := bytes.push (r.bytes.get! i)
      bytes := bytes.push (r.bytes.get! (i + 1))
      bytes := bytes.push (r.bytes.get! (i + 2))
  return ⟨width, height, bytes⟩

def before (i size : Nat) : Nat := if i = 0 then min 1 (size - 1) else i - 1

def after (i size : Nat) : Nat := if i + 1 < size then i + 1 else size - 1 - min 1 (size - 1)

def blur : Raster :=
  let w := r.width
  let h := r.height
  let row (y : Nat) (bytes : ByteArray) : ByteArray := Id.run do
    let up := before y h * w
    let here := y * w
    let down := after y h * w
    let mut bytes := bytes
    for x in [0 : w] do
      let left := before x w
      let right := after x w
      for c in [0 : 3] do
        let at' (row column : Nat) : UInt32 := (r.bytes.get! (3 * (row + column) + c)).toUInt32
        let along (base : Nat) : UInt32 := 84 * (at' base left + at' base right) + 88 * at' base x
        let total := 84 * (along up + along down) + 88 * along here
        bytes := bytes.push ((total + 32768) >>> 16).toUInt8
    return bytes
  ⟨w, h, Rows.build r.bytes (3 * w) (3 * w) h 1 row⟩

def rows (first last : Nat) : Raster :=
  let first := min first r.height
  let last := max first (min last r.height)
  ⟨r.width, last - first, r.bytes.extract (3 * first * r.width) (3 * last * r.width)⟩

def select (test : UInt8 → UInt8 → UInt8 → Bool) : Mask :=
  let row (y : Nat) (bytes : ByteArray) : ByteArray := Id.run do
    let mut bytes := bytes
    let mut b : UInt8 := 0
    let mut g : UInt8 := 0
    let mut d : UInt8 := 0
    let mut verdict : UInt8 := if test 0 0 0 then 1 else 0
    for i in [y * r.width : (y + 1) * r.width] do
      let b' := r.bytes.get! (3 * i)
      let g' := r.bytes.get! (3 * i + 1)
      let d' := r.bytes.get! (3 * i + 2)
      if !(b' == b && g' == g && d' == d) then
        b := b'
        g := g'
        d := d'
        verdict := if test b g d then 1 else 0
      bytes := bytes.push verdict
    return bytes
  ⟨r.width, r.height, Rows.build r.bytes (3 * r.width) r.width r.height 0 row⟩

end Raster

namespace Mask

def count (m : Mask) : Nat := m.bytes.foldl (fun n b => if b == 0 then n else n + 1) 0

def empty (width height : Nat) : Mask :=
  ⟨width, height, ⟨Array.replicate (width * height) 0⟩⟩

def isEmpty (m : Mask) : Bool := Id.run do
  for i in [0 : m.bytes.size] do
    if m.bytes.get! i != 0 then return false
  return true

def combine (f : UInt8 → UInt8 → UInt8) (a b : Mask) : Mask := Id.run do
  let mut bytes := ByteArray.emptyWithCapacity a.bytes.size
  for i in [0 : a.bytes.size] do
    bytes := bytes.push (f (a.bytes.get! i) (b.bytes.get! i))
  return ⟨a.width, a.height, bytes⟩

def union : Mask → Mask → Mask := combine (· ||| ·)

def inter : Mask → Mask → Mask := combine (· &&& ·)

def bounds? (m : Mask) : Option (Nat × Nat × Nat × Nat) := Id.run do
  let mut box : Option (Nat × Nat × Nat × Nat) := none
  for y in [0 : m.height] do
    for x in [0 : m.width] do
      if m.bytes.get! (y * m.width + x) != 0 then
        box := match box with
          | none => some (x, y, x, y)
          | some (l, t, r, b) => some (min l x, min t y, max r x, max b y)
  return box

end Mask

end Rover
