import Rover.Games.Tally

/-!
# Hand signs

The camera sees a hand by 21 points.
-/

namespace Rover

structure HandSigns where
  servos : Value := .none
  tilt : Value := .int 1500
  pan : Value := .int 1500
  running : Value := .bool false
  stopping : Value := .bool false
  tally : Tally := {}

namespace HandSigns

abbrev M := Op (Play HandSigns)

open Play (update state)
open Games

def load : M Unit := do
  let files := (← get).files
  update ({ · with servos := files.servos })

def reset : M Unit := do
  update fun s => { s with
    stopping := .bool false, tally := s.tally.release }
  let tilt ← (← (← state).servos.subscript (.str "servo1")).sub (.int 350)
  update ({ · with tilt })
  let pan ← (← state).servos.subscript (.str "servo2")
  update ({ · with pan })

def aim : M Unit := do
  let s ← state
  look s.tilt s.pan

def prepare : M Unit := do
  load
  reset
  aim

def start : M Unit := do
  reset
  update ({ · with running := .bool true })

def stop : M Unit := update ({ · with stopping := .bool true, running := .bool false })

def interrupt : M Unit := do
  update ({ · with running := .bool false })
  halt
  aim

def noAngle : Value := .float 65535

def angleBetween (a b c d : Value) : Result Value := do
  let dot ← (← a.mul c).add (← b.mul d)
  let length (x y : Value) : Result Value := do
    (← (← x.pow (.int 2)).add (← y.pow (.int 2))).pow (.float 0.5)
  let cosine ← (← dot.div (← (← length a b).mul (← length c d))).toReal
  if cosine < -1 || 1 < cosine then throw .domain
  return .float (cosine.acos * (180.0 / Value.pi))

def angle (v w : Value) : Result Value := do
  let a ← v.subscript (.int 0)
  let b ← v.subscript (.int 1)
  let c ← w.subscript (.int 0)
  let d ← w.subscript (.int 1)
  match angleBetween a b c d with
  | .ok v => return if ← v.greater (.float 180) then noAngle else v
  | .error _ => return noAngle

def span (hand : Value) (i j : Int) : Result Value := do
  let coordinate (n k : Int) : Result Int := do
    (← (← hand.subscript (.int n)).subscript (.int k)).toInteger
  let x ← coordinate i 0
  let x' ← coordinate j 0
  let y ← coordinate i 1
  let y' ← coordinate j 1
  return .tuple [.int (x - x'), .int (y - y')]

def fingers : List (Int × Int × Int) :=
  [(2, 3, 4), (6, 7, 8), (10, 11, 12), (14, 15, 16), (18, 19, 20)]

def fingerAngles (hand : Value) : Result (List Value) :=
  fingers.mapM fun (root, joint, tip) => do
    angle (← span hand 0 root) (← span hand joint tip)

inductive Posture where
  | above (degrees : Float)
  | below (degrees : Float)

def Posture.fits (p : Posture) (angle : Value) : Result Bool :=
  match p with
  | .above d => angle.greater (.float d)
  | .below d => angle.less (.float d)

def bent : Posture := .above 65

def stretched : Posture := .below 49

def thumbBent : Posture := .above 53

def signs : List (List Posture) := [
  [.above 5, stretched, bent, bent, bent],
  [thumbBent, stretched, stretched, bent, bent],
  [thumbBent, stretched, stretched, stretched, bent],
  [thumbBent, stretched, stretched, stretched, stretched],
  [stretched, stretched, stretched, stretched, stretched],
  [stretched, bent, bent, bent, stretched]]

def matchesFrom (angles : Value) : Int → List Posture → Result Bool
  | _, [] => .ok true
  | i, p :: rest => do
    if ← p.fits (← angles.subscript (.int i)) then matchesFrom angles (i + 1) rest
    else return false

def firstSign (angles : Value) : Int → List (List Posture) → Result Int
  | _, [] => .ok 0
  | n, sign :: rest => do
    if ← matchesFrom angles 0 sign then return n else firstSign angles (n + 1) rest

def read (angles : Value) : Result Int := do
  if ← angles.contains noAngle then return 0
  firstSign angles 1 signs

def sign (picture : Raster) (hand : List (Float × Float)) : Result Int := do
  let w := picture.width.toFloat
  let h := picture.height.toFloat
  let points : Value := .list (hand.map fun (x, y) => .tuple [.float (x * w), .float (y * h)])
  read (.list (← fingerAngles points))

def notice (picture : Raster) (hand : List (Float × Float)) : M Unit := do
  unless hand.isEmpty do
    let n ← sign picture hand
    unless n = 0 do
      Op.onPart (fun p => p.game.tally) (fun p t => { p with game := { p.game with tally := t } })
        (Tally.add (.ok n))

def watch (frame : Option Raster) : M Shown := do
  let s ← state
  if s.running.truth && !s.tally.locked.truth then
    update fun s => { s with tally := { s.tally with number := .int 0 } }
    let picture ← visible (← present frame)
    for hand in (← get).rig.hands do
      notice picture hand
  return .given

/-- A way to drive: commands of speed, direction and turn, and how long the last one lasts. -/
structure Action where
  commands : List (Int × Int × Value)
  duration : Value

def actions : List Action := [
  ⟨[(45, 90, .int 0)], .int 1⟩,
  ⟨[(45, 270, .int 0)], .int 1⟩,
  ⟨[(45, 270, .int 0), (45, 0, .int 0)], .int 1⟩,
  ⟨[(45, 180, .int 0)], .int 1⟩,
  ⟨[(0, 90, .float 0.5)], .float 2.8⟩,
  ⟨[(0, 90, .float (-0.5))], .float 2.8⟩]

def action? (number : Value) : Option Action :=
  (actions.zipIdx.find? fun (_, i) => number.same (.int (i + 1))).map Prod.fst

def act (number : Value) : Op Rig Unit := do
  if let some a := action? number then
    for (speed, direction, turn) in a.commands do
      drive (.int speed) (.int direction) turn
    Rig.sleep a.duration
    halt

def turn : M Unit := do
  let s ← state
  if s.running.truth && s.tally.locked.truth && s.tally.number.truth then
    act s.tally.number
    update fun s => { s with tally := { s.tally with locked := .bool false } }
  else
    if s.stopping.truth then
      aim
      halt
      update ({ · with stopping := .bool false })
      pause 0.5
    pause 0.01

def game : Game HandSigns where
  load; prepare; reset; start; stop; leave := stop; aim; interrupt; watch; turn
  panel := Tally.dials "gesture_num" tally ({ · with tally := · }) ++ [
    ⟨"running", running, ({ · with running := · })⟩,
    ⟨"stop_st", stopping, ({ · with stopping := · })⟩,
    ⟨"servo1", tilt, ({ · with tilt := · })⟩,
    ⟨"servo2", pan, ({ · with pan := · })⟩]
  settings := [
    ⟨"servo_data", servos, ({ · with servos := · })⟩]

end HandSigns

end Rover
