import Rover.Rig.Basic

/-!
# The bus

Transfers to and from the devices on the bus.
-/

namespace Rover.Rig

def boardAddress : Nat := 0x7A

def sonarAddress : Nat := 0x77

def meetFault : Op Rig Unit := do
  if 0 < (← get).pendingFaults then
    modify fun r => { r with pendingFaults := r.pendingFaults - 1 }
    emit .failed
    Op.fail .bus

def byteOf (v : Value) : Result Nat := do
  let n ← v.toIndex
  if 0 ≤ n ∧ n < 256 then return n.toNat else throw .byteRange

def bytesOf : List Value → Result (List Nat)
  | [] => .ok []
  | v :: rest => do
    let b ← byteOf v
    return b :: (← bytesOf rest)

def writeFrame (address : Nat) (values : List Value) : Op Rig Unit := do
  let bytes ← bytesOf values
  meetFault
  emit (.frame address bytes)

def writeRegister (address : Nat) (register value : Value) : Op Rig Unit := do
  meetFault
  let _ ← value.toIndex
  emit (.register address register value)

def word (v : Value) : Int := (v.integer?.getD 0) % 65536

def readBattery : Op Rig Int := do
  meetFault
  let (v, feed) := (← get).battery.next
  modify fun r => { r with battery := feed }
  return word v

def readSonar : Op Rig Int := do
  meetFault
  let (v, feed) := (← get).sonar.next
  modify fun r => { r with sonar := feed }
  return word v

def readLine : Op Rig Value := do
  meetFault
  let (v, feed) := (← get).line.next
  modify fun r => { r with line := feed }
  return v

def twice {α : Type} (transfer : Op Rig α) : Op Rig α :=
  Op.guarded transfer fun _ => transfer

end Rover.Rig
