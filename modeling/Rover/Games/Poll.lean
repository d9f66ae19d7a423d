import Rover.Games.Basic
import Rover.Image.Canvas

/-!
# Polls

A single picture can deceive, so games let three pictures vote.
-/

namespace Rover

/-- A vote among colours: the ballots so far, the colour elected last, and the ink in which it is
written on the picture. -/
structure Poll where
  ballots : Value := .list []
  elected : Value := .str "None"
  ink : Value := Games.ink 0 0 0

namespace Poll

def size : Nat := 3

variable (candidates : List String)

def number (color : Value) : Nat :=
  match candidates.findIdx? fun c => color.same (.str c) with
  | some i => i + 1
  | none => 0

def winner? (ballots : List Value) : Result (Option String) := do
  let isMean : Nat → Bool ← match ballots.mapM Value.integer? with
    | some ns => pure fun n => ns.foldl (· + ·) 0 = (ns.length * n : Int)
    | none => do
      let mean ← Games.meanOf ballots
      pure fun n => mean.same (.int n)
  return (candidates.zipIdx.find? fun (_, i) => isMean (i + 1)).map Prod.fst

variable (p : Poll)

def vacate : Poll := { p with elected := .str "None", ink := Games.ink 0 0 0 }

def clear : Poll := { p with ballots := .list [], elected := .str "None" }

def declare (winner : Option String) : Poll :=
  match winner with
  | some c => { p with elected := .str c, ink := (Games.ink? (.str c)).getD (Games.ink 0 0 0) }
  | none => p.vacate

def cast (color : Value) : Op Poll (Option (Option String)) := do
  let ballots ← Games.extend (← get).ballots (.int (number candidates color))
  modify ({ · with ballots := .list ballots })
  if ballots.length = size then
    let winner ← winner? candidates ballots
    modify ({ · with ballots := .list [] })
    return some winner
  else return none

def checkCaption : Result Unit := do
  let _ ← (Value.str "Color: ").add p.elected
  Canvas.checkInk p.ink

def dials {σ : Type} (get : σ → Poll) (set : σ → Poll → σ) : List (Dial σ) := [
  ⟨"color_list", fun s => (get s).ballots, fun s v => set s { get s with ballots := v }⟩,
  ⟨"detect_color", fun s => (get s).elected, fun s v => set s { get s with elected := v }⟩,
  ⟨"draw_color", fun s => (get s).ink, fun s v => set s { get s with ink := v }⟩]

end Poll

end Rover
