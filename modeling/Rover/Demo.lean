import Rover.Games.Basic
import Rover.LineSensor

/-!
# Demonstrations

Small programs that show one part of the vehicle.
-/

namespace Rover

open Board

inductive Move where
  | drive (speed direction : Int) (turn : Value)
  | motor (index speed : Int)
  | servo (index pulse time : Int)
  | lamps (color : Int)
  | buzzer (level : Int)
  | sonarMode (mode : Int)
  | sonarLamps (color : Int)
  | sonarSymphony
  | distance
  | line
  | wait (duration : Value)
  | boot

structure Demo where
  opening : List Move := []
  rounds : Option (List Move) := none
  closing : List Move := []
  onInterrupt : Option (List Move) := none

namespace Demo

structure Stage where
  rig : Rig
  sonar : Sonar := {}
  going : Bool := true
  interruptAt : Option Nat := none

instance : HasRig Stage := ⟨Stage.rig, ({ · with rig := · })⟩

@[inline] def onRig {α : Type} (op : Op Rig α) : Op Stage α := HasRig.onRig op

def bootLamp (index : Nat) : Op Rig Unit := do
  setLamp index (.int 0)
  showLamps

def move : Move → Op Stage Unit
  | .drive speed direction turn => onRig (Games.drive (.int speed) (.int direction) turn)
  | .motor index speed => onRig do
    let _ ← setMotor (.int index) (.int speed)
  | .servo index pulse time => onRig (Games.servo index (.int pulse) time)
  | .lamps color => onRig do
    setLamp 0 (.int color)
    setLamp 1 (.int color)
    showLamps
  | .buzzer level => onRig (setBuzzer (.int level))
  | .sonarMode mode => onRig (Sonar.setMode (.int mode))
  | .sonarLamps color => do
    for index in [0, 1] do
      let sonar ← onRig ((← get).sonar.setPixel (.int index) (.int color))
      modify fun s => { s with sonar }
  | .sonarSymphony => onRig Sonar.startSymphony
  | .distance => onRig do
    let _ ← Sonar.getDistance
  | .line => onRig do
    let _ ← LineSensor.read
  | .wait duration => onRig (Rig.sleep duration)
  | .boot => onRig do
    bootLamp 0
    bootLamp 1
    setBuzzer (.int 0)

def interrupted (d : Demo) (sleptBefore : Nat) : Op Stage Unit := do
  let s ← get
  if sleptBefore < s.rig.sleeps && s.interruptAt = some s.rig.sleeps then
    onRig (Rig.emit .interrupt)
    match d.onInterrupt with
    | none => pure ()
    | some moves =>
      modify fun s => { s with going := false }
      moves.forM move

def moves (d : Demo) : List Move → Op Stage Unit
  | [] => pure ()
  | m :: rest => do
    let slept := (← get).rig.sleeps
    move m
    d.interrupted slept
    d.moves rest

def repeated (d : Demo) (round : List Move) : Nat → Op Stage Unit
  | 0 => return
  | fuel + 1 => do
    d.moves round
    if (← get).going then d.repeated round fuel

def run (d : Demo) (sleeps : Nat) : Op Stage Unit := do
  modify fun s => { s with rig.sleepsLeft := some sleeps }
  d.moves d.opening
  match d.rounds with
  | none => pure ()
  | some round =>
    d.repeated round (sleeps + 1)
    d.moves d.closing

def halt : Move := .drive 0 0 (.int 0)

def driving (legs : List (Int × Int × Value × Int)) : Demo where
  rounds := some (legs.flatMap fun (speed, direction, turn, seconds) =>
    [.drive speed direction turn, .wait (.int seconds)])
  closing := [halt]
  onInterrupt := some [halt]

def ahead : Demo := driving [(50, 90, .int 0, 1)]

def sides : Demo := driving ([90, 0, 270, 180].map fun d => (50, d, .int 0, 1))

def diagonals : Demo := driving ([45, 315, 225, 135].map fun d => (50, d, .int 0, 1))

def turning : Demo := driving [(0, 90, .float 0.3, 3), (0, 90, .float (-0.3), 3)]

def drifting : Demo := driving [(50, 180, .float 0.3, 3), (50, 0, .float (-0.3), 3)]

def stopMotors : List Move := [1, 2, 3, 4].map fun m => .motor m 0

def oneMotor : Demo where
  rounds := some [.motor 1 35, .wait (.int 1), .motor 1 60, .wait (.int 2), .motor 1 90,
    .wait (.int 3)]
  closing := stopMotors
  onInterrupt := some stopMotors

def oneServo : Demo where
  rounds := some [.servo 1 1500 1000, .wait (.int 1), .servo 1 2500 1000, .wait (.int 1)]
  closing := [.servo 1 1500 1000, .wait (.int 1)]
  onInterrupt := some []

def buzzing : Demo where
  opening := [.boot, .buzzer 0, .buzzer 1, .wait (.float 0.1), .buzzer 0, .wait (.int 1), .buzzer 1,
    .wait (.float 0.5), .buzzer 0]

def shining (colors : List Int) : Demo where
  opening := [.boot, .lamps 0]
  rounds := some (colors.flatMap fun c => [.lamps c, .wait (.int 1)])
  closing := [.lamps 0]
  onInterrupt := some []

def threeColors : Demo := shining [0xFF0000, 0x00FF00, 0x0000FF]

def redLamps : Demo := shining [0xFF0000]

def everything : Demo where
  opening :=
    let nod (index first last : Int) : List Move :=
      [.servo index first 300, .wait (.float 0.3), .servo index 1500 300, .wait (.float 0.3),
        .servo index last 300, .wait (.float 0.3), .servo index 1500 300, .wait (.float 1.5)]
    nod 1 1800 1200 ++ nod 2 1200 1800 ++ [1, 2, 3, 4].flatMap fun m =>
      [.motor m 45, .wait (.float 0.5), .motor m 0, .wait (.int 1)]

def sonar : Demo where
  opening := [.sonarMode 0, .sonarLamps 0, .wait (.float 0.1), .sonarLamps 0xFF0000, .wait (.int 1),
    .sonarLamps 0x00FF00, .wait (.int 1), .sonarLamps 0x0000FF, .wait (.int 1), .sonarSymphony]
  rounds := some [.wait (.int 1), .distance]

def lineSensor : Demo where
  rounds := some [.line, .wait (.float 0.5)]

def quiet : Demo := {}

end Demo

end Rover
