import Rover.Board

/-!
# Watching the battery

The voltage is measured about once a second.
-/

namespace Rover

structure BatteryWatch where
  last : Float := 0
  fresh : Nat := 0
  samples : List Float := []
  voltage : Float := 0

namespace BatteryWatch

def window : Nat := 3

def credible (volts : Float) : Bool := 5.0 < volts && volts < 8.5

variable (w : BatteryWatch)

def keep (volts : Float) : BatteryWatch :=
  { w with
    samples := w.samples.take w.fresh ++ volts :: w.samples.drop w.fresh
    fresh := w.fresh + 1 }

def publish : BatteryWatch :=
  if w.fresh < window then w
  else
    let total := match w.samples.take window with
      | a :: rest => rest.foldl (· + ·) a
      | [] => 0
    { w with fresh := 0, voltage := total / window.toFloat }

def take (volts : Float) : BatteryWatch :=
  (if credible volts then w.keep volts else w).publish

def isDue (now : Float) : Bool := w.last + 1 ≤ now

structure Site where
  rig : Rig
  watch : BatteryWatch := {}

instance : HasRig Site := ⟨Site.rig, ({ · with rig := · })⟩

@[inline] def onRig {α : Type} (op : Op Rig α) : Op Site α := HasRig.onRig op

def measure : Op Site Unit := do
  let now ← onRig Rig.now
  modify fun s => { s with watch.last := now }
  let volts ← (← onRig Board.getBattery).div (.float 1000)
  let volts ← volts.toReal
  modify fun s => { s with watch := s.watch.take volts }

def loop : Nat → Op Site Unit
  | 0 => return
  | fuel + 1 => do
    let s ← get
    if s.watch.isDue s.rig.clock then measure
    else onRig (Rig.sleep (.float 0.01))
    loop fuel

def run (sleeps : Nat) : Op Site Unit := do
  modify fun s => { s with rig.sleepsLeft := some sleeps }
  Op.ignoring (loop (2 * sleeps + 2))

end BatteryWatch

end Rover
