import Rover.Switchboard

/-!
# The main loop

Remote calls that touch the games are not served at once: they are put into a queue, which the main
loop drains in each of its turns before it hands the camera picture to the game.
-/

namespace Rover.Remote

open Switchboard Arcade Roaming

inductive Errand where
  | load (args : Value)
  | unload
  | start
  | stop
  | report
  | setSpeed (args : Value)
  | setThreshold (args : Value)
  | askThreshold
  | spot (colors : Value)
  | chase (colors : Value)
  | patrol (colors : Value)
  | follow (flag : Value)
  | setColors (args : Value)
  | saveColors

/-- An errand that waits in the queue, with the number under which it is answered. -/
structure Job where
  number : Nat
  errand : Errand

/-- The state of the main loop and of the methods that are called from outside. -/
structure Server where
  board : Switchboard := { eye := .own {} }
  queue : List Job := []
  answers : List (Nat × Value) := []
  next : Nat := 0
  servoWords : List Value := []
  voltage : Value := .float 0
  crash : Option Fault := none
  shown : Option (Nat × Nat) := none

namespace Server

variable {α : Type}

abbrev M := Op (Play Server)

open Play (update state)

def alive (s : Server) : Bool := s.crash.isNone

@[inline] def onBoard (op : Op (Play Switchboard) α) : M α :=
  Play.within board ({ · with board := · }) op

@[inline] def inArcade (op : Op (Play Arcade) α) : M α := onBoard (Switchboard.inArcade op)

def perform : Errand → Op (Play Switchboard) Value
  | .load args => load args
  | .unload => unload
  | .start => start
  | .stop => stop
  | .report => report
  | .setSpeed args => Switchboard.inArcade (inRoaming (setSpeed args))
  | .setThreshold args => Switchboard.inArcade (inRoaming (setThreshold args))
  | .askThreshold => Switchboard.inArcade (inRoaming answerThreshold)
  | .spot colors => Switchboard.inArcade (inSpotter (ColorSpotter.setTargets colors))
  | .chase colors => Switchboard.inArcade (inChase (ColorChase.setTargets colors))
  | .patrol colors => Switchboard.inArcade (inPatrol (LinePatrol.setTargets colors))
  | .follow flag => Switchboard.inArcade (inChase (ColorChase.setFollowing flag))
  | .setColors args => Switchboard.inArcade (inTuner (ThresholdTuner.setThresholds args))
  | .saveColors => Switchboard.inArcade (inTuner ThresholdTuner.save)

def put (errand : Errand) : M Nat := do
  let number := (← state).next
  update fun s => { s with next := number + 1, queue := s.queue ++ [⟨number, errand⟩] }
  return number

def take : M (Option Job) := do
  match (← state).queue with
  | [] => return none
  | job :: rest =>
    update ({ · with queue := rest })
    return some job

def serve (handler : Errand → Op (Play Switchboard) Value) (job : Job) : M Bool := do
  match ← Op.attempt (onBoard (handler job.errand)) with
  | .ok answer =>
    update fun s => { s with answers := (job.number, answer) :: s.answers }
    return true
  | .error _ => return false

def drain (handler : Errand → Op (Play Switchboard) Value) : Nat → M Unit
  | 0 => pure ()
  | n + 1 => do
    match ← take with
    | none => pure ()
    | some job =>
      if ← serve handler job then drain handler n

def frame (s : Server) : Option Raster :=
  match s.board.eye with
  | .own camera => camera.frame
  | _ => none

def size (r : Raster) : Nat × Nat := (r.height, r.width)

def lowVoltage : Float := 7.2

def play : M Unit := do
  let s ← state
  let loaded := s.board.loaded
  if (← loaded.greater (.int 0)) && (← Value.compare .le loaded (.int 9)) then
    match s.frame with
    | none => update ({ · with shown := none })
    | some picture =>
      let _ ← onBoard (watch (some picture))
      if loaded.same (.int 9) then
        update ({ · with shown := some (2 * picture.height, picture.width) })
      else
        let _ ← Value.compare .le s.voltage (.float lowVoltage)
        let _ ← s.voltage.toReal
        update ({ · with shown := some (size picture) })
  else update ({ · with shown := s.frame.map size })

def turn : M Unit := do
  let s ← state
  if s.alive then
    drain perform s.queue.length
    match ← Op.attempt play with
    | .ok _ => pure ()
    | .error f => update ({ · with crash := some f })

def turns : Nat → M Unit
  | 0 => pure ()
  | n + 1 => do
    turn
    turns n

def await (number : Nat) : Nat → M (Option Value)
  | 0 => return none
  | looks + 1 => do
    Play.onRig (Rig.sleep (.float 0.01))
    turn
    match (← state).answers.lookup number with
    | some answer => return some answer
    | none => await number looks

def patience : Nat := 201

def ask (errand : Errand) : M (Option Value) := do
  let number ← put errand
  await number patience

def begin : M Unit := do
  modify fun p => { p with sonar := some {} }
  Play.onRig (Sonar.setMode (.int 0))
  setSonarLamp (.int 0) (.int 0)
  setSonarLamp (.int 1) (.int 0)
  turn

end Server

end Rover.Remote
