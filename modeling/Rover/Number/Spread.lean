import Rover.Number.Arith

/-!
# Mean and spread of measurements

The mean of measurements, their sample deviation, and the mean of those that lie within one
deviation of the mean.
-/

namespace Rover.Spread

open Arith

variable {α : Type} [Geometry α]

def addAll (start : α) (xs : List α) : Result α := xs.foldlM add start

def lanes : Nat := 8

def block : Nat := 128

def addRows : Nat → List α → List α → Result (List α)
  | 0, sums, _ => return sums
  | rows + 1, sums, xs => do
    let sums ← (sums.zip xs).mapM fun (s, x) => add s x
    addRows rows sums (xs.drop lanes)

def addNeighbours : List α → Result (List α)
  | x :: y :: rest => do return (← add x y) :: (← addNeighbours rest)
  | xs => return xs

def blockSum (xs : List α) : Result α := do
  if xs.length < lanes then addAll (real 0) xs
  else
    let rows := xs.length / lanes
    let sums ← addRows (rows - 1) (xs.take lanes) (xs.drop lanes)
    let quarters ← addNeighbours (← addNeighbours sums)
    let total ← addAll (real 0) (← addNeighbours quarters)
    addAll total (xs.drop (rows * lanes))

def sum (xs : List α) : Result α := do
  if xs.length ≤ block then blockSum xs
  else
    let half := xs.length / 2
    let cut := half - half % lanes
    add (← sum (xs.take cut)) (← sum (xs.drop cut))
termination_by xs.length
decreasing_by
  all_goals simp only [List.length_take, List.length_drop, block, lanes] at *
  all_goals omega

variable (xs : List (Option α))

def count : Nat := (xs.filter Option.isSome).length

def total : Result α := sum (xs.map (·.getD (real 0)))

def mean? : Result (Option α) := do
  if count xs = 0 then return none
  return some (← div (← total xs) (real (count xs)))

def variance? (mean : α) : Result (Option α) := do
  if count xs < 2 then return none
  let squares ← xs.mapM (Option.mapM fun x => do
    let d ← sub mean x
    mul d d)
  return some (← div (← total squares) (real (count xs - 1 : Nat)))

def distance (x y : α) : Result α := do
  let d ← sub x y
  if ← less d (real 0) then neg d else return d

def trimmedMean? : Result (Option α) := do
  let some mean ← mean? xs | return none
  let some variance ← variance? xs mean | return none
  let deviation ← Geometry.sqrt variance
  mean? (← xs.mapM fun
    | some x => do return if ← atMost (← distance x mean) deviation then some x else none
    | none => return none)

end Rover.Spread
