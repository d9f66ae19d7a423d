import Rover.Chassis
import Rover.Image.Raster
import Rover.Pid
import Rover.Sonar

/-!
# Games

A game watches the camera picture and moves the vehicle.
-/

namespace Rover

open Board

def usualThresholds : Value :=
  let color (low high : List Int) : Value :=
    record [("max", .list (high.map .int)), ("min", .list (low.map .int))]
  record [
    ("black", color [0, 0, 0] [115, 135, 135]),
    ("blue", color [0, 126, 0] [130, 185, 120]),
    ("green", color [0, 81, 106] [252, 118, 255]),
    ("red", color [0, 150, 130] [255, 255, 255]),
    ("white", color [193, 0, 0] [255, 255, 255])]

def usualServos : Value := record [("servo1", .int 1535), ("servo2", .int 1500)]

/-- The files with the settings that can be changed on the vehicle, as the values they hold. -/
structure ConfigFiles where
  thresholds : Value := usualThresholds
  servos : Value := usualServos

namespace ConfigFiles

def inOrder : Value × Value → Value × Value → Bool
  | (.str a, _), (.str b, _) => decide (a ≤ b)
  | _, _ => true

mutual

def filed : Value → Value
  | .list items => .list (filedItems items)
  | .tuple items => .tuple (filedItems items)
  | .dict entries => .dict ((filedEntries entries).mergeSort inOrder)
  | v => v

def filedItems : List Value → List Value
  | [] => []
  | x :: rest => filed x :: filedItems rest

def filedEntries : Entries → Entries
  | [] => []
  | (k, v) :: rest => (k, filed v) :: filedEntries rest

end

end ConfigFiles

/-- A game being played: the hardware, the files, the sonar if there is one, and the state of the
game. -/
structure Play (σ : Type) where
  rig : Rig := {}
  files : ConfigFiles := {}
  sonar : Option Sonar := none
  game : σ

namespace Play

variable {σ α : Type}

instance : HasRig (Play σ) := ⟨Play.rig, ({ · with rig := · })⟩

@[inline] def onRig (op : Op Rig α) : Op (Play σ) α := HasRig.onRig op

instance : MonadLift (Op Rig) (Op (Play σ)) := ⟨onRig⟩

@[inline] def state : Op (Play σ) σ := return (← get).game

@[inline] def update (f : σ → σ) : Op (Play σ) Unit := modify fun p => { p with game := f p.game }

end Play

inductive Shown where
  | given
  | mask (m : Mask)

structure Dial (σ : Type) where
  name : String
  read : σ → Value
  write : σ → Value → σ

structure Game (σ : Type) where
  load : Option (Op (Play σ) Unit) := none
  prepare : Op (Play σ) Unit := pure ()
  reset : Option (Op (Play σ) Unit) := none
  start : Option (Op (Play σ) Unit) := none
  stop : Option (Op (Play σ) Unit) := none
  leave : Option (Op (Play σ) Unit) := none
  aim : Option (Op (Play σ) Unit) := none
  interrupt : Option (Op (Play σ) Unit) := none
  watch : Option Raster → Op (Play σ) Shown := fun _ => pure .given
  turn : Option (Op (Play σ) Unit) := none
  panel : List (Dial σ) := []
  settings : List (Dial σ) := []

def Game.dial {σ : Type} (g : Game σ) (name : String) (v : Value) (s : σ) : σ :=
  match (g.panel ++ g.settings).find? (·.name == name) with
  | some d => d.write s v
  | none => s

namespace Games

def width : Nat := 640

def height : Nat := 480

def lampColor : Value → Int
  | .str "red" => 0xFF0000
  | .str "green" => 0x00FF00
  | .str "blue" => 0x0000FF
  | _ => 0

variable (name : Value)

def light : Op Rig Unit := do
  setLamp 0 (.int (lampColor name))
  setLamp 1 (.int (lampColor name))
  showLamps

def dark : Op Rig Unit := light (.str "None")

def beep (duration : Value) : Op Rig Unit := do
  setBuzzer (.int 0)
  setBuzzer (.int 1)
  Rig.sleep duration
  setBuzzer (.int 0)

def servo (index : Int) (pulse : Value) (time : Int) : Op Rig Unit := do
  let _ ← setServoPulse (.int index) pulse (.int time)

def look (tilt pan : Value) : Op Rig Unit := do
  servo 1 tilt 1000
  servo 2 pan 1000

def drive (speed direction turn : Value) : Op Rig Unit := do
  let _ ← Chassis.setVelocity {} speed direction turn

def halt : Op Rig Unit := drive (.int 0) (.int 90) (.int 0)

def pause (seconds : Float) : Op Rig Unit := Rig.sleep (.float seconds)

def ink (blue green red : Int) : Value := .tuple [.int blue, .int green, .int red]

def ink? : Option Value :=
  let known : Record := [
    ("red", ink 0 0 255), ("blue", ink 255 0 0), ("green", ink 0 255 0),
    ("black", ink 0 0 0), ("white", ink 255 255 255)]
  (known.find? fun (n, _) => name.same (.str n)).map Prod.snd

def inkFor : Result Value :=
  match ink? name with
  | some c => .ok c
  | none => .error (.missingKey name)

def present (frame : Option Raster) : Result Raster :=
  match frame with
  | some s => .ok s
  | none => .error (.noAttribute "NoneType" "copy")

def visible (picture : Raster) : Result Raster :=
  if picture.width = 0 || picture.height = 0 then .error .badImage else .ok picture

def extend (items : Value) (v : Value) : Result (List Value) :=
  match items with
  | .list vs => .ok (vs ++ [v])
  | v => .error (.noAttribute v.className "append")

def meanOf (vs : List Value) : Result Value := do
  let isLong (v : Value) : Bool :=
    match v.integer? with
    | some n => n < -(twoPow 63) || twoPow 64 ≤ n
    | none => false
  let zero : Value := if vs.any isLong then .int 0 else .float 0
  (← vs.foldlM Value.add zero).div (.int vs.length)

def controller (kp ki kd : Float) : Pid Value :=
  Pid.new (.float kp) (.float ki) (.float kd) (.float 1000)

def control {σ : Type} (read : σ → Pid Value) (write : σ → Pid Value → σ) (goal measured : Value) :
    Op (Play σ) Value := do
  let now ← Play.onRig Rig.now
  Play.update fun s => write s { read s with setPoint := goal }
  Op.onPart (fun p => read p.game) (fun p c => { p with game := write p.game c })
    (Pid.update (.float now) measured)
  return (read (← Play.state)).output

def near (v w : Value) (tolerance : Int) : Result Bool := do
  (← (← v.sub w).abs).less (.int tolerance)

def limit (low high : Int) (v : Value) : Result Value := do
  atMost high (← atLeast low v)

def deaden (least : Int) (output : Value) : Result Value := do
  return if ← (← output.abs).less (.int least) then .int 0 else output

def turns {σ : Type} (turn : Op (Play σ) Unit) (between : Float) : Nat → Op (Play σ) Unit
  | 0 => Op.cutShort
  | n + 1 => do
    turn
    if n ≠ 0 then
      modify fun p => { p with rig := { p.rig with clock := p.rig.clock + between } }
    turns turn between n

end Games

end Rover
