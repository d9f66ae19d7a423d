import Rover.Rig.Basic

/-!
# The picture server

One request is for the latest picture alone; any other gets pictures one after the other until the
peer is gone.
-/

namespace Rover

open Rig

structure Stream where
  rig : Rig
  picture : Option Scene := none
  writesLeft : Nat
  later : Option (Nat × Option Scene) := none

namespace Stream

abbrev M := Op Stream

instance : HasRig Stream := ⟨Stream.rig, ({ · with rig := · })⟩

@[inline] def onRig {α : Type} (op : Op Rig α) : M α := HasRig.onRig op

instance : MonadLift (Op Rig) (Op Stream) := ⟨onRig⟩

def write (e : Event) : M Unit := do
  match (← get).writesLeft with
  | 0 => Op.fail .peerClosed
  | n + 1 =>
    modify fun s => { s with writesLeft := n }
    emit e

def encodable (s : Scene) : M Unit :=
  if s.width = 0 || s.height = 0 then Op.fail .badImage else pure ()

def pictureHeaders : Op Rig Unit := do
  emit (.header "Content-type" "image/jpeg")
  emit (.header "Content-length" "<length>")

def snapshot : M Unit := do
  match (← get).picture with
  | none => pure ()
  | some s =>
    Op.ignoring do
      encodable s
      emit (.status 200)
      pictureHeaders
      emit .headersEnd
      write .wrotePicture

def boundary : String := "--boundarydonotcross"

def part : M Unit := do
  match (← get).picture with
  | none => pure ()
  | some s =>
    encodable s
    pictureHeaders
    write (.wrote (boundary ++ "\r\n"))
    emit .headersEnd
    write .wrotePicture

def pause : M Unit := do
  sleep (.float 0.05)
  let s ← get
  match s.later with
  | some (n, picture) => if s.rig.sleeps = n then set { s with picture }
  | none => pure ()

def parts : Nat → M Unit
  | 0 => return
  | fuel + 1 => do
    part
    pause
    parts fuel

def follow (fuel : Nat) : M Unit := do
  modify fun s => { s with picture := none }
  emit (.status 200)
  emit (.header "Content-type" ("multipart/x-mixed-replace; boundary=" ++ boundary))
  emit .headersEnd
  Op.ignoring (parts fuel)

def answer (path : String) (sleeps : Nat) : M Unit := do
  modify fun s => { s with rig.sleepsLeft := some sleeps }
  if path = "/?action=snapshot" then snapshot else follow (sleeps + 1)

end Stream

end Rover
