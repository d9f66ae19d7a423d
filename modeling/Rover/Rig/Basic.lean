import Rover.Op
import Rover.Scene

/-!
# The rig

The hardware around the program: the clock, the sensors with the readings they will give, the bus
with the transfers that will fail, the camera, and the record of everything that was done.
-/

namespace Rover

/-- What an operation does to the outside world, in the order in which it happens. -/
inductive Event where
  | frame (address : Nat) (bytes : List Nat)
  | register (address : Nat) (register value : Value)
  | failed
  | slept (duration : Value)
  | frozen
  | pin (number : Nat) (level : Value)
  | lamp (index : Nat) (color : Value)
  | lampsShown
  | cameraNew (index : Int)
  | cameraReleased (index : Int)
  | cameraOpened
  | cameraClosed
  | shown (title : String) (height width : Nat)
  | windowsClosed
  | stored (name : String) (height width : Nat) (channels : Option Nat) (nonZero : Nat)
  | interrupt
  | socket (url : String) (headers : Value)
  | sent (text : String)
  | socketClosed
  | socketRun (options : Value)
  | emitted (name : String) (data : Value)
  | served (options : Value)
  | status (code : Nat)
  | header (name value : String)
  | headersEnd
  | wrote (text : String)
  | wrotePicture

inductive Level where
  | debug | info | warning | error
deriving DecidableEq, Repr

def Level.word : Level → String
  | debug => "DEBUG"
  | info => "INFO"
  | warning => "WARNING"
  | error => "ERROR"

structure LogRecord where
  level : Level
  text : String
deriving DecidableEq, Repr

/-- The readings that a sensor will give: each is given once, the last one for good. -/
structure Feed where
  now : Value
  later : List Value := []

def Feed.next (f : Feed) : Value × Feed :=
  match f.later with
  | [] => (f.now, f)
  | v :: rest => (f.now, ⟨v, rest⟩)

inductive CameraMode where
  | all
  | none
  | only (indices : List Int)
  | broken
deriving DecidableEq, Repr

/-- A code seen by the camera: the text in it and its outline, with the two coordinates of each
corner. -/
structure Barcode where
  text : String
  outline : List Value

structure Board where
  motors : List Value := List.replicate 4 (.int 0)
  angles : List Value := List.replicate 6 (.int 0)
  pulses : List Value := List.replicate 6 (.int 0)

structure Rig where
  clock : Float := 1000.0
  sonar : Feed := ⟨.int 300, []⟩
  line : Feed := ⟨.int 6, []⟩
  battery : Feed := ⟨.int 7400, []⟩
  pendingFaults : Int := 0
  cameraMode : CameraMode := .all
  shots : List Shot := []
  barcodes : List Barcode := []
  hands : List (List (Float × Float)) := []
  faces : List (Float × Float × Float × Float) := []
  board : Board := {}
  sleepsLeft : Option Nat := none
  deadline : Option Float := none
  sleeps : Nat := 0
  events : Array Event := #[]
  log : Array LogRecord := #[]

class HasRig (σ : Type) where
  rig : σ → Rig
  withRig : σ → Rig → σ

@[inline] def HasRig.onRig {σ α : Type} [HasRig σ] (op : Op Rig α) : Op σ α :=
  Op.onPart HasRig.rig HasRig.withRig op

instance : HasRig Rig := ⟨id, fun _ r => r⟩

instance {σ τ : Type} [HasRig σ] : HasRig (σ × τ) :=
  ⟨fun s => HasRig.rig s.1, fun s r => (HasRig.withRig s.1 r, s.2)⟩

namespace Rig

@[inline] def emit (e : Event) : Op Rig Unit := modify fun r => { r with events := r.events.push e }

@[inline] def note (level : Level) (text : String) : Op Rig Unit :=
  modify fun r => { r with log := r.log.push ⟨level, text⟩ }

def debug (text : String) : Op Rig Unit := note .debug text
def info (text : String) : Op Rig Unit := note .info text
def warn (text : String) : Op Rig Unit := note .warning text
def error (text : String) : Op Rig Unit := note .error text

def now : Op Rig Float := return (← get).clock

def sleepLength (t : Value) : Result Float := do
  match t.num? with
  | Option.none => throw (.notInteger t.className)
  | some x =>
    let seconds ← x.toFloat
    if seconds.isNaN then throw .nanSleep
    if seconds < 0 then throw .negativeSleep
    return seconds

def sleep (t : Value) : Op Rig Unit := do
  let seconds ← sleepLength t
  let wake := (← get).clock + seconds
  match (← get).deadline with
  | some limit =>
    if limit < wake then
      modify fun r => { r with clock := limit }
      emit .frozen
      Op.cutShort
  | Option.none => pure ()
  emit (.slept t)
  modify fun r => { r with clock := wake, sleeps := r.sleeps + 1 }
  match (← get).sleepsLeft with
  | some n =>
    modify fun r => { r with sleepsLeft := some (n - 1) }
    if n ≤ 1 then Op.cutShort
  | Option.none => pure ()

end Rig

end Rover
