import Rover.Proofs.Board
import Rover.Proofs.Games.Play

/-!
# What the steps of games are made of

Whatever a game does when it is made ready, started, stopped or left, it does by a few operations:
it commands motors and servos, switches lamps, sleeps, and changes its own state. So what survives
each of these survives every step of every game.
-/

namespace Rover

/-- The operations of the hardware that the steps of games are made of. -/
inductive Rig.Handled : (α : Type) → Op Rig α → Prop where
  | motor (index speed : Value) : Handled Value (Board.setMotor index speed)
  | servo (index pulse time : Value) : Handled Value (Board.setServoPulse index pulse time)
  | emit (e : Event) : Handled PUnit (emit e)
  | sleep (t : Value) : Handled PUnit (sleep t)

section
open Rig (Handled)
variable (index speed pulse time : Value)

instance : Composed Handled (Board.setMotor index speed) := .base (.motor index speed)

instance : Composed Handled (Board.setServoPulse index pulse time) := .base (.servo index pulse time)

instance (e : Event) : Composed Handled (Rig.emit e) := .base (.emit e)

instance : Composed Handled (Rig.sleep time) := .base (.sleep time)

end

namespace Play

variable {σ : Type}

/-- The operations that the steps of games are made of. -/
inductive Handled : (α : Type) → Op (Play σ) α → Prop where
  | get : Handled (Play σ) get
  | update (f : σ → σ) : Handled PUnit (update f)
  | onRig {α : Type} {op : Op Rig α} (h : Composed Rig.Handled op) : Handled α (onRig op)
  | sonarLamp (index color : Value) : Handled Unit (Roaming.setSonarLamp index color)

instance : Composed Handled (get : Op (Play σ) (Play σ)) := .base .get

instance : Composed Handled (state : Op (Play σ) σ) := .map (.base .get)

instance (f : σ → σ) : Composed Handled (update f) := .base (.update f)

instance {α : Type} {op : Op Rig α} [h : Composed Rig.Handled op] :
    Composed Handled (liftM op : Op (Play σ) α) := .base (.onRig h)

instance (index color : Value) :
    Composed Handled (Roaming.setSonarLamp index color : Op (Play σ) Unit) :=
  .base (.sonarLamp index color)

end Play

def Game.Handled {σ : Type} (g : Game σ) : Prop :=
  ∀ (s : Step) (op : Op (Play σ) Unit), s.of g = some op → Composed Play.Handled op

-- some steps are longer than what is looked for by default
set_option synthInstance.maxSize 1000000000

theorem ColorSpotter.handled : game.Handled := by
  intro s op h
  cases s <;> cases h
  all_goals
    dsimp only [game, prepare, load, reset, aim, start, stop]
    infer_instance

theorem ColorChase.handled : game.Handled := by
  intro s op h
  cases s <;> cases h
  all_goals
    dsimp only [game, prepare, load, reset, aim, start, stop]
    infer_instance

theorem LinePatrol.handled : game.Handled := by
  intro s op h
  cases s <;> cases h
  all_goals
    dsimp only [game, prepare, load, reset, aim, start, stop]
    infer_instance

theorem CodeReader.handled : game.Handled := by
  intro s op h
  cases s <;> cases h
  all_goals
    dsimp only [game, prepare, load, reset, aim, start, stop]
    infer_instance

theorem Roaming.handled : game.Handled := by
  intro s op h
  cases s <;> cases h
  all_goals
    dsimp only [game, prepare, reset, aim, start, stop, leave]
    infer_instance

theorem ThresholdTuner.handled : game.Handled := by
  intro s op h
  cases s <;> cases h
  all_goals
    dsimp only [game, prepare, load, reset, start, stop, leave]
    infer_instance

end Rover
