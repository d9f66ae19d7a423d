import Rover.Games.CodeReader
import Rover.Games.ColorAlarm
import Rover.Games.ColorChase
import Rover.Games.ColorSpotter
import Rover.Games.FaceChase
import Rover.Games.HandSigns
import Rover.Games.LinePatrol
import Rover.Games.Roaming
import Rover.Games.ThresholdTuner
import Rover.Games.TrackRunner

/-!
# All games

The games keep their states side by side, whichever of them is being played.
-/

namespace Rover

@[inline] def Play.within {σ τ α : Type} (read : τ → σ) (write : τ → σ → τ)
    (op : Op (Play σ) α) : Op (Play τ) α :=
  Op.onPart (fun p => ⟨p.rig, p.files, p.sonar, read p.game⟩)
    (fun p q => ⟨q.rig, q.files, q.sonar, write p.game q.game⟩) op

def Game.within {σ τ : Type} (read : τ → σ) (write : τ → σ → τ) (g : Game σ) : Game τ :=
  let part (op : Option (Op (Play σ) Unit)) : Option (Op (Play τ) Unit) :=
    op.map (Play.within read write)
  let dial (d : Dial σ) : Dial τ :=
    ⟨d.name, fun t => d.read (read t), fun t v => write t (d.write (read t) v)⟩
  { load := part g.load
    prepare := Play.within read write g.prepare
    reset := part g.reset
    start := part g.start
    stop := part g.stop
    leave := part g.leave
    aim := part g.aim
    interrupt := part g.interrupt
    watch := fun frame => Play.within read write (g.watch frame)
    turn := part g.turn
    panel := g.panel.map dial
    settings := g.settings.map dial }

structure Arcade where
  spotter : ColorSpotter := {}
  alarm : ColorAlarm := {}
  chase : ColorChase := {}
  patrol : LinePatrol := {}
  track : TrackRunner := {}
  reader : CodeReader := {}
  signs : HandSigns := {}
  roaming : Roaming := {}
  faces : FaceChase := {}
  tuner : ThresholdTuner := {}

/-- The names of the games. With `remote` the vehicle is only driven by hand, and `idle` does
nothing at all. -/
inductive GameName where
  | remote | idle | spotter | alarm | chase | patrol | track | reader | signs | roaming | faces | tuner
deriving DecidableEq, Repr

namespace Arcade

variable {α : Type}

abbrev M := Op (Play Arcade)

def inSpotter : Op (Play ColorSpotter) α → M α := Play.within spotter ({ · with spotter := · })

def inChase : Op (Play ColorChase) α → M α := Play.within chase ({ · with chase := · })

def inPatrol : Op (Play LinePatrol) α → M α := Play.within patrol ({ · with patrol := · })

def inTrack : Op (Play TrackRunner) α → M α := Play.within track ({ · with track := · })

def inRoaming : Op (Play Roaming) α → M α := Play.within roaming ({ · with roaming := · })

def inTuner : Op (Play ThresholdTuner) α → M α := Play.within tuner ({ · with tuner := · })

def game : GameName → Game Arcade
  | .remote =>
    { reset := some (pure ()), start := some (pure ()), stop := some (pure ())
      leave := some (pure ()) }
  | .idle => { reset := some (pure ()), leave := some (pure ()) }
  | .spotter => ColorSpotter.game.within spotter ({ · with spotter := · })
  | .alarm => ColorAlarm.game.within alarm ({ · with alarm := · })
  | .chase => ColorChase.game.within chase ({ · with chase := · })
  | .patrol => LinePatrol.game.within patrol ({ · with patrol := · })
  | .track => TrackRunner.game.within track ({ · with track := · })
  | .reader => CodeReader.game.within reader ({ · with reader := · })
  | .signs => HandSigns.game.within signs ({ · with signs := · })
  | .roaming => Roaming.game.within roaming ({ · with roaming := · })
  | .faces => FaceChase.game.within faces ({ · with faces := · })
  | .tuner => ThresholdTuner.game.within tuner ({ · with tuner := · })

def setTargets? : GameName → Value → Option (M Value)
  | .spotter, targets => some (inSpotter (ColorSpotter.setTargets targets))
  | .chase, targets => some (inChase (ColorChase.setTargets targets))
  | .patrol, targets => some (inPatrol (LinePatrol.setTargets targets))
  | .track, targets => some (inTrack (TrackRunner.setTargets targets))
  | _, _ => none

end Arcade

end Rover
