import Rover.Image.Contour

/-!
# Dominant points

An outline with fewer points: those at which it bends most.
-/

namespace Rover.Contour

namespace Dominant

def bends (points : Array (Int × Int)) : Array Nat :=
  let n := points.size
  let get (i : Nat) : Int × Int := points.getD (i % n) (0, 0)
  let step (i : Nat) : Int × Int := ((get (i + 1)).1 - (get i).1, (get (i + 1)).2 - (get i).2)
  let steps : List (Int × Int) :=
    [(1, 0), (1, -1), (0, -1), (-1, -1), (-1, 0), (-1, 1), (0, 1), (1, 1)]
  let code (i : Nat) : Nat := steps.idxOf (step i)
  (Array.range n).map fun i =>
    let d := ((code i : Int) - code (i + n - 1)).natAbs
    min d (8 - d)

def reachFrom (get : Int → Int × Int) (i : Int) : Nat → Nat → Int → Int → Nat
  | 0, k, _, _ => k - 1
  | fuel + 1, k, chord, offset =>
    let (x1, y1) := get (i - k)
    let (x2, y2) := get (i + k)
    let (x, y) := get i
    let dx := x2 - x1
    let dy := y2 - y1
    let chord' := dx * dx + dy * dy
    let offset' := (x - x1) * dy - (y - y1) * dx
    let growth := offset * chord' - offset' * chord
    if 1 < k ∧ (chord' ≤ chord ∨ (0 < offset ∧ growth ≤ 0) ∨ (offset < 0 ∧ 0 ≤ growth)) then k - 1
    else reachFrom get i fuel (k + 1) chord' offset'

def reach (points : Array (Int × Int)) (i : Nat) : Nat :=
  let n : Int := points.size
  reachFrom (fun i => points.getD (i % n).toNat (0, 0)) i (points.size + 1) 1 0 0

def sift (test : Array Nat → Nat → Bool) (bends : Array Nat) (places : List Nat) :
    Array Nat × List Nat :=
  let (bends, kept) := places.foldl (fun (bends, kept) i =>
    if test bends i then (bends.setIfInBounds i 0, kept) else (bends, i :: kept))
    (bends, ([] : List Nat))
  (bends, kept.reverse)

def isOutdone (bends : Array Nat) (i distance : Nat) : Bool :=
  let n := bends.size
  let get (i : Nat) : Nat := bends.getD (i % n) 0
  (List.range distance).any fun d => get i < get (i + n - (d + 1)) || get i < get (i + (d + 1))

def runs : List Nat → List (List Nat)
  | [] => []
  | i :: rest =>
    match runs rest with
    | (j :: more) :: others => if j = i + 1 then (i :: j :: more) :: others else [i] :: (j :: more) :: others
    | others => [i] :: others

/-- The places that stay of runs: a single one, the better one of two, the ends of a longer run. -/
def thin (better : Nat → Nat → Bool) : Bool → List (List Nat) → List Nat
  | _, [] => []
  | loose, run :: rest =>
    match run with
    | [i, j] =>
      if better i j then i :: thin better true rest
      else (if loose then [i, j] else [j]) ++ thin better false rest
    | i :: j :: k :: more => i :: (j :: k :: more).getLast?.getD i :: thin better false rest
    | short => short ++ thin better false rest

/-- The places that stay when the neighbours among them are thinned out. A run across the start is
treated first. -/
def settle (n : Nat) (bend reach : Nat → Nat) (places : List Nat) : List Nat :=
  let better (i j : Nat) : Bool :=
    bend j < bend i || (bend i = bend j && reach i ≤ reach j)
  let across := places.head? = some 0 ∧ places.getLast? = some (n - 1)
  match runs places with
  | [all] => if across then all else thin better false [all]
  | first :: others =>
    if across then
      let last := others.getLast?.getD []
      let middle := others.dropLast
      if first.length = 1 ∧ last.length = 1 then
        thin better false (middle ++ [[n - 1, n]])
      else
        thin better false
          ([[first.getLast?.getD 0]] ++ middle ++ [[last.head?.getD (n - 1)]])
    else thin better false (first :: others)
  | [] => []

end Dominant

open Dominant in
def dominant (c : Contour) : Contour :=
  let n := c.points.size
  if n < 2 then c
  else
    let start := Dominant.bends c.points
    let places := (List.range n).filter fun i => start.getD i 0 != 0
    let reaches := (Array.range n).map (Dominant.reach c.points)
    let reachAt (i : Nat) : Nat := reaches.getD (i % n) 0
    let (bends, places) := sift (fun bends i => isOutdone bends i (reachAt i / 2)) start places
    let (bends, places) := sift (fun bends i => reachAt i == 1 &&
      (let get (i : Nat) : Nat := bends.getD (i % n) 0
      get i ≤ get (i + n - 1) || get i ≤ get (i + 1))) bends places
    let kept := settle n (fun i => bends.getD (i % n) 0) reachAt places
    ⟨(kept.map fun i => c.points.getD (i % n) (0, 0)).toArray⟩

end Rover.Contour
