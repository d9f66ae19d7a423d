import Rover.Program.Item.Same

/-!
# Sets as tables

The elements of a set stand in a table whose size is a power of two.
-/

namespace Rover.Program

namespace Code

def modulus : Nat := twoPow 61 - 1

def word (n : Int) : Nat := (n % (twoPow 64 : Nat)).toNat

def avoidMinusOne (n : Int) : Int := if n = -1 then -2 else n

def ofInt (n : Int) : Int :=
  let m : Int := n.natAbs % modulus
  avoidMinusOne (if n < 0 then -m else m)

def ofFloat (x : Float) : Int :=
  match Binary.ofFloat? x with
  | some b =>
    -- two to the power 61 leaves one
    let shift := (b.exponent % 61).toNat
    let m : Int := b.mantissa * twoPow shift % modulus
    avoidMinusOne (if b.negative then -m else m)
  | none => if x.isNaN then 0 else if x > 0 then 314159 else -314159

def signed (n : Nat) : Int := if n < twoPow 63 then n else (n : Int) - twoPow 64

def ofComplex (z : Complex) : Int :=
  avoidMinusOne (signed (word (ofFloat z.re + 1000003 * ofFloat z.im)))

def rotate (n : Nat) : Nat := word ((n * twoPow 31 + n / twoPow 33 : Nat))

def ofCodes (codes : List Int) : Int :=
  let prime5 := 2870177450012600261
  let mixed := codes.foldl (fun acc c =>
    word ((rotate (word ((acc + word c * 14029467366897019727 : Nat)))
      * 11400714785074694791 : Nat))) prime5
  let n := word ((mixed + (codes.length ^^^ (prime5 ^^^ 3527539)) : Nat))
  if n = twoPow 64 - 1 then 1546275796 else signed n

def ofChars (cs : Chars) : Int :=
  signed (cs.foldl (fun n c => word ((n * 1000003 + c.toNat : Nat))) 0)

end Code

namespace Item

mutual

def code : Item → Int
  | .bool b => if b then 1 else 0
  | .int _ n => Code.ofInt n
  | .float _ x => Code.ofFloat x
  | .complex _ z => Code.ofComplex z
  | .str _ s => Code.ofChars s.toList
  | .bytes _ bs => Code.ofChars (bs.map Char.ofNat)
  | .tuple _ items => Code.ofCodes (codes items)
  | .function id | .iterator _ id => id
  | _ => 0

def codes : List Item → List Int
  | [] => []
  | i :: rest => code i :: codes rest

end

end Item

abbrev Slots := List (Option Item)

namespace Slots

def empty : Slots := List.replicate 8 none

def rowLength : Nat := 10

variable (t : Array (Option Item))

def search (x : Item) : Nat → Nat → Nat → Option (Nat × Bool)
  | 0, _, _ => none
  | fuel + 1, i, perturb =>
    let row := if i + rowLength ≤ t.size then rowLength else 1
    let hit := (List.range row).findSome? fun j =>
      match (t[i + j]?).join with
      | none => some (i + j, false)
      | some y => if y.alike x then some (i + j, true) else none
    match hit with
    | some found => some found
    | none =>
      let perturb := perturb / 32
      search x fuel ((i * 5 + 1 + perturb) % t.size) perturb

def place? (x : Item) : Option (Nat × Bool) :=
  let code := Code.word x.code
  search t x (t.size + 64) (code % t.size) code

def put (x : Item) : Array (Option Item) :=
  match place? t x with
  | some (i, false) => t.setIfInBounds i (some x)
  | _ => t

def sizeAbove (least : Nat) : Nat → Nat → Nat
  | 0, size => size
  | fuel + 1, size => if size ≤ least then sizeAbove least fuel (2 * size) else size

def resize (least : Nat) : Array (Option Item) :=
  let size := sizeAbove least 64 8
  t.foldl (fun acc slot => match slot with
    | some x => put acc x
    | none => acc) (Array.replicate size none)

def used : Nat := t.foldl (fun n s => if s.isSome then n + 1 else n) 0

def add (x : Item) : Array (Option Item) :=
  match place? t x with
  | some (i, false) =>
    let t := t.setIfInBounds i (some x)
    let n := used t
    if n * 5 < (t.size - 1) * 3 then t else resize t (if 50000 < n then n * 2 else n * 4)
  | _ => t

variable (s : Slots)

def insertAll (items : List Item) : Slots := (items.foldl add s.toArray).toList

def ofItems (items : List Item) : Slots := insertAll empty items

def merge (s other : Slots) : Slots :=
  let t := s.toArray
  let o := other.toArray
  let t := if (t.size - 1) * 3 ≤ (used t + used o) * 5 then resize t ((used t + used o) * 2) else t
  if used t = 0 ∧ t.size = o.size then other
  else (o.foldl (fun acc slot => match slot with
    | some x => add acc x
    | none => acc) t).toList

def copy : Slots := merge empty s

def contains (x : Item) : Bool := (Item.filled s).any (·.alike x)

def size : Nat := (Item.filled s).length

def inter (s other : Slots) : Slots :=
  let (big, small) := if s.size < other.size then (other, s) else (s, other)
  ofItems ((Item.filled small).filter big.contains)

def erase (drop : Item → Bool) : Slots :=
  s.map fun slot => slot.filter fun x => !drop x

def diff (s other : Slots) : Slots :=
  if other.size < s.size / 4 then s.copy.erase other.contains
  else ofItems ((Item.filled s).filter fun x => !contains other x)

def symmDiff (s other : Slots) : Slots :=
  let common := s.inter other
  insertAll (other.copy.erase common.contains) ((Item.filled s).filter fun x => !contains other x)

end Slots

end Rover.Program
