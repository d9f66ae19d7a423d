import Rover.Games.Basic

/-!
# Tallies

Games that read numbers from the picture collect five of them and take their mean.
-/

namespace Rover

/-- The numbers read so far, the result, and whether the result waits to be carried out. -/
structure Tally where
  results : Value := .list []
  number : Value := .none
  locked : Value := .bool false

namespace Tally

def size : Nat := 5

def release (t : Tally) : Tally := { t with number := .none, locked := .bool false }

def add (n : Result Int) : Op Tally Unit := do
  let _ ← Games.extend (← get).results .none
  let results ← Games.extend (← get).results (.int (← n))
  modify ({ · with results := .list results })
  if results.length = size then
    let mean ← Games.meanOf results
    set { results := .list [], number := mean, locked := .bool true : Tally }

def dials {σ : Type} (result : String) (get : σ → Tally) (set : σ → Tally → σ) : List (Dial σ) := [
  ⟨result, fun s => (get s).number, fun s v => set s { get s with number := v }⟩,
  ⟨"results_lock", fun s => (get s).locked, fun s v => set s { get s with locked := v }⟩,
  ⟨"results_list", fun s => (get s).results, fun s v => set s { get s with results := v }⟩]

end Tally

end Rover
