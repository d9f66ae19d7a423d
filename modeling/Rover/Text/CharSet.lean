/-!
# Sets of characters

Sets given by ranges of code points, for the properties of characters that a standard lists.
-/

namespace Rover

abbrev Chars := List Char

/-- A set of characters: the ranges of their code points in ascending order, each from its first
code point up to the one after its last. -/
structure CharSet where
  ranges : Array (Nat × Nat)
deriving Inhabited

namespace CharSet

def numbers (s : String) : List Nat :=
  (s.toList.foldl (fun ((done, leading) : List Nat × Nat) c =>
    if c.toNat < 35 then (done, leading)
    else if c.toNat < 92 then ((leading * 57 + (c.toNat - 35)) :: done, 0)
    else (done, leading * 30 + (c.toNat - 93))) ([], 0)).1.reverse

def ofGapsFrom : Nat → List Nat → List (Nat × Nat)
  | at_, gap :: count :: rest =>
    (at_ + gap, at_ + gap + count) :: ofGapsFrom (at_ + gap + count) rest
  | _, _ => []

def ofGaps (s : String) : CharSet := ⟨(ofGapsFrom 0 (numbers s)).toArray⟩

/-- The first index that is not before what is looked for. -/
def boundary (before : Nat → Bool) : Nat → Nat → Nat → Nat
  | 0, low, _ => low
  | fuel + 1, low, high =>
    if low < high then
      let middle := (low + high) / 2
      if before middle then boundary before fuel (middle + 1) high
      else boundary before fuel low middle
    else low

def contains (s : CharSet) (c : Char) : Bool :=
  let i := boundary (fun i => match s.ranges[i]? with
    | some (_, stop) => stop ≤ c.toNat
    | none => false) s.ranges.size 0 s.ranges.size
  match s.ranges[i]? with
  | some (start, stop) => start ≤ c.toNat && c.toNat < stop
  | none => false

end CharSet

end Rover
