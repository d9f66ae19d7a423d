import Rover.Capture
import Rover.Games.Arcade

/-!
# Switching between games

One game at a time is loaded, by its number.
-/

namespace Rover

inductive Eye where
  | absent
  | remote
  | own (camera : Capture)

def Eye.seeing (frame : Option Raster) : Eye → Eye
  | .own camera => .own { camera with frame }
  | e => e

structure Switchboard where
  arcade : Arcade := {}
  loaded : Value := .int 0
  due : Value := .int 0
  eye : Eye := .remote

namespace Switchboard

variable {α : Type}

abbrev M := Op (Play Switchboard)

open Play (update state)

def games : List (Int × Option GameName) := [
  (0, none), (1, some .remote), (2, some .spotter), (3, some .chase), (4, some .patrol),
  (5, some .reader), (6, some .roaming), (7, none), (8, none), (9, some .tuner)]

variable (number : Value)

def gameAt : Result (Option GameName) :=
  match games.find? fun (n, _) => number.same (.int n) with
  | some (_, g) => .ok g
  | none => .error (.missingKey number)

@[inline] def inArcade (op : Op (Play Arcade) α) : M α :=
  Play.within arcade ({ · with arcade := · }) op

def part (name : String) (select : Game Arcade → Option (Op (Play Arcade) Unit)) : M Unit := do
  match ← gameAt (← state).loaded with
  | none => Op.fail (.noAttribute "NoneType" name)
  | some g =>
    match select (Arcade.game g) with
    | none => Op.fail (.noAttribute "module" name)
    | some op => inArcade op

def onCamera (name : String) (told : Event) (op : Op Studio Unit) : M Unit := do
  match (← state).eye with
  | .absent => Op.fail (.noAttribute "NoneType" name)
  | .remote => Play.onRig (Rig.emit told)
  | .own _ =>
    Op.onPart
      (fun p => ⟨p.rig, match p.game.eye with | .own c => c | _ => {}⟩)
      (fun p s => { p with rig := s.rig, game := { p.game with eye := .own s.camera } })
      op

def openCamera : M Unit := onCamera "camera_open" .cameraOpened (Capture.openWith false)

def closeCamera : M Unit := onCamera "camera_close" .cameraClosed Capture.close

def patience : Float := 15

def report : M Value := do
  let now ← Play.onRig Rig.now
  update ({ · with due := .float (now + patience) })
  return .tuple [.bool true, .tuple []]

def answerLoaded : M Value := return .tuple [.bool true, .tuple [(← state).loaded]]

def enter : M Unit := do
  update ({ · with loaded := number })
  closeCamera
  openCamera
  if ← (← state).loaded.greater (.int 0) then part "init" fun g => some g.prepare

def switch : M Unit :=
  Op.ignoring do
    if ← (← state).loaded.greater (.int 1) then part "exit" Game.leave
    enter number

def load (args : Value) : M Value := do
  let number ← args.subscript (.int 0)
  let _ ← report
  if (← number.less (.int 1)) || (← number.greater (.int 9)) then
    return .tuple [.bool false, .str "loadFunc: Invalid argument"]
  switch number
  answerLoaded

def unload : M Value := do
  if !(← state).loaded.same (.int 0) then
    part "exit" Game.leave
    update ({ · with loaded := .int 0 })
  closeCamera
  return .tuple [.bool true, .tuple [.int 0]]

def start : M Value := do
  part "start" Game.start
  answerLoaded

def stop : M Value := do
  part "stop" Game.stop
  answerLoaded

def current : M (Option GameName) := do
  let loaded := (← state).loaded
  gameAt (if loaded.same (.int 0) then .int 1 else loaded)

def watch (frame : Option Raster) : M Shown := do
  match ← current with
  | none => Op.fail (.noAttribute "NoneType" "run")
  | some g => inArcade ((Arcade.game g).watch frame)

def guardOnce : M Unit := do
  let s ← state
  let now ← Play.onRig Rig.now
  if ← s.due.less (.float now) then
    if !s.loaded.same (.int 0) then
      let _ ← unload
  Play.onRig (Rig.sleep (.float 0.1))

def guardLoop : Nat → M Unit
  | 0 => return
  | fuel + 1 => do
    guardOnce
    guardLoop fuel

def guard (sleeps : Nat) : M Unit := do
  modify fun p => { p with rig := { p.rig with sleepsLeft := some sleeps } }
  guardLoop (sleeps + 1)

end Switchboard

end Rover
