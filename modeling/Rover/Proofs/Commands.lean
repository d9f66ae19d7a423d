import Mathlib.Tactic.FinCases
import Rover.Commands
import Rover.Proofs.Op

/-!
# What commands are made of

Whatever a command does to the vehicle, it does by a few elementary operations: it drives a motor,
turns a servo, reads a sensor, waits, writes to the log, or notes where the gimbal looks. So what
holds of each of these holds of every command.
-/

namespace Rover

namespace Rig

open Board

/-- The operations of the hardware that commands are made of. -/
inductive Elementary : (α : Type) → Op Rig α → Prop where
  | note (level : Level) (text : String) : Elementary PUnit (note level text)
  | motor (index speed : Value) : Elementary Value (setMotor index speed)
  | servo (index angle : Value) : Elementary Value (setServoAngle index angle)
  | distance : Elementary Value Sonar.getDistance
  | line : Elementary Value readLine
  | battery : Elementary Value getBattery
  | sleep (t : Value) : Elementary PUnit (sleep t)

/-- Those of them that get over a fault on the bus. -/
inductive Persistent : (α : Type) → Op Rig α → Prop where
  | note (level : Level) (text : String) : Persistent PUnit (note level text)
  | motor (index speed : Value) : Persistent Value (setMotor index speed)
  | servo (index angle : Value) : Persistent Value (setServoAngle index angle)
  | battery : Persistent Value getBattery
  | sleep (t : Value) : Persistent PUnit (sleep t)

theorem Persistent.elementary (α : Type) (op : Op Rig α) (h : Persistent α op) :
    Elementary α op := by
  cases h with
  | note level text => exact .note level text
  | motor index speed => exact .motor index speed
  | servo index angle => exact .servo index angle
  | battery => exact .battery
  | sleep t => exact .sleep t

section
variable (text : String) (index value : Value)

instance : Composed Persistent (info text) := .base (.note .info text)

instance : Composed Persistent (debug text) := .base (.note .debug text)

instance : Composed Persistent (warn text) := .base (.note .warning text)

instance : Composed Persistent (error text) := .base (.note .error text)

instance : Composed Persistent (setMotor index value) := .base (.motor index value)

instance : Composed Persistent (setServoAngle index value) := .base (.servo index value)

instance : Composed Persistent getBattery := .base .battery

instance : Composed Persistent (sleep value) := .base (.sleep value)

instance : Composed Elementary Sonar.getDistance := .base .distance

instance : Composed Elementary readLine := .base .line

instance {α : Type} {op : Op Rig α} [h : Composed Persistent op] : Composed Elementary op :=
  h.mono Persistent.elementary

end

end Rig

open Rig (Elementary Persistent)

/-! ## The parts of the vehicle -/

namespace Chassis

instance (w : WheelSpeeds) : Composed Persistent (drive w) := by
  unfold drive
  infer_instance

variable (c : Chassis)

instance (velocity direction turnRate : Value) (trial : Bool) :
    Composed Persistent (c.setVelocity velocity direction turnRate trial) := by
  unfold setVelocity
  infer_instance

instance (x y : Value) : Composed Persistent (c.translate x y) := by
  unfold translate
  infer_instance

instance : Composed Persistent c.stop := by
  unfold stop
  infer_instance

end Chassis

namespace Motion

instance (index : Int) (speed : Value) (t : Turn) : Composed Persistent (wheel index speed t) := by
  unfold wheel
  infer_instance

instance : Composed Persistent stop := by
  unfold stop
  infer_instance

instance : Composed Persistent resetServos := by
  unfold resetServos
  infer_instance

variable (m : Motion) (kind : Move) (x y : Value)

instance : Composed Persistent (m.move kind x) := by
  unfold move
  infer_instance

instance : Composed Persistent (m.moveAtAngle x y) := by
  unfold moveAtAngle
  infer_instance

instance : Composed Persistent (moveAlong x y) := by
  unfold moveAlong
  infer_instance

instance : Composed Persistent (m.setServo x y) := by
  unfold setServo
  infer_instance

instance : Composed Persistent (wait x) := by
  unfold wait
  infer_instance

end Motion

namespace Gimbal

instance : Composed Persistent reset := by
  unfold reset toCenter
  infer_instance

variable (g : Gimbal) (angle : Value)

instance : Composed Persistent (g.moveHorizontal angle) := by
  unfold moveHorizontal
  infer_instance

instance : Composed Persistent (g.moveVertical angle) := by
  unfold moveVertical
  infer_instance

instance : Composed Persistent g.up := inferInstanceAs (Composed _ (g.moveVertical _))

instance : Composed Persistent g.down := inferInstanceAs (Composed _ (g.moveVertical _))

instance : Composed Persistent g.left := inferInstanceAs (Composed _ (g.moveHorizontal _))

instance : Composed Persistent g.right := inferInstanceAs (Composed _ (g.moveHorizontal _))

instance : Composed Persistent (g.setHorizontal angle) := by
  unfold setHorizontal
  infer_instance

instance : Composed Persistent (g.setVertical angle) := by
  unfold setVertical
  infer_instance

end Gimbal

namespace Sensors

instance : Composed Persistent voltage := by
  unfold voltage
  infer_instance

instance : Composed Elementary distance := by
  unfold distance
  infer_instance

instance : Composed Elementary line := by
  unfold line LineSensor.read
  infer_instance

instance (channel : Value) : Composed Elementary (lineAt channel) := by
  unfold lineAt
  infer_instance

end Sensors

/-! ## The vehicle as a whole -/

namespace Vehicle

/-- The operations of the vehicle that are made of given operations of its hardware. -/
inductive Built (base : (α : Type) → Op Rig α → Prop) : (α : Type) → Op Vehicle α → Prop where
  | onRig {α : Type} {op : Op Rig α} (h : Composed base op) : Built base α (onRig op)
  | look : Built base (Motion × Gimbal × Vision) (do
      let v ← get
      return (v.motion, v.gimbal, v.vision))
  | aim (g : Gimbal) : Built base PUnit (modify fun v => { v with gimbal := g })

abbrev Elementary : (α : Type) → Op Vehicle α → Prop := Built Rig.Elementary

section
variable {base : (α : Type) → Op Rig α → Prop} {α : Type}

theorem Built.elementary (α : Type) (op : Op Vehicle α) (h : Built Persistent α op) :
    Elementary α op := by
  cases h with
  | onRig hop => exact .onRig (hop.mono Persistent.elementary)
  | look => exact .look
  | aim g => exact .aim g

instance {op : Op Rig α} [h : Composed base op] : Composed (Built base) (onRig op) :=
  .base (.onRig h)

instance {op : Op Rig α} [h : Composed base op] : Composed (Built base) (liftM op : Op Vehicle α) :=
  .base (.onRig h)

theorem composed_look {f : Vehicle → Op Vehicle α} (h : ∀ v, Composed (Built base) (f v))
    (hrig : ∀ v r, f { v with rig := r } = f v) : Composed (Built base) (get >>= f) := by
  have hknown : (get >>= f) = (do
      let v ← get
      return (v.motion, v.gimbal, v.vision)) >>= fun known =>
        f { motion := known.1, gimbal := known.2.1, vision := known.2.2 } := by
    funext v
    exact congrFun (hrig v {}).symm v
  rw [hknown]
  exact .bind (.base .look) fun _ => h _

instance {turn : Gimbal → Op Rig Gimbal} [∀ g, Composed base (turn g)] :
    Composed (Built base) (moveGimbal turn) :=
  composed_look (fun _ => .bind inferInstance fun _ => .base (.aim _)) fun _ _ => rfl

end

instance (s : Scene) (name : Value) :
    Composed (Built Persistent) (Vision.detect (some s) name) := by
  refine .except fun target => ?_
  cases target <;> infer_instance

instance (name : Value) : Composed (Built Persistent) (Vision.sees name) := by
  refine .except fun target => composed_look (fun v => ?_) fun _ _ => rfl
  cases v.vision.frame <;> infer_instance

end Vehicle

/-! ## Commands -/

namespace Command

open Vehicle (Built composed_look)

variable {c : Command}

def onceOnly : List String :=
  ["heshengbo", "heshengbo_juli", "xunxian_zhong", "xunxian_zuo", "xunxian_you", "xunxian"]

theorem composed_act (hc : c ∈ all) (args : List Value) : Composed (Built Persistent) (c.act args) ∨
      c.name ∈ onceOnly ∧ Composed Vehicle.Elementary (c.act args) := by
  fin_cases hc
  all_goals
    dsimp only [move, gimbal, gimbalBy, question, test, plain, unary, binary, effect, Gimbal.lookUp,
      Gimbal.lookDown, Gimbal.lookLeft, Gimbal.lookRight, Sensors.distanceCm, Sensors.onLine,
      Sensors.lineLeft, Sensors.lineRight]
    first
    | exact .inl inferInstance
    | exact .inl (.map (composed_look (fun _ => inferInstance) fun _ _ => rfl))
    | exact .inr ⟨by decide, inferInstance⟩

theorem composed_call (hc : c ∈ all) (positional : List Value)
    (named : Record) : Composed Vehicle.Elementary (c.call positional named) := by
  refine .except fun args => ?_
  rcases composed_act hc args with hact | ⟨-, hact⟩
  · exact hact.mono Built.elementary
  · exact hact

theorem persistent_call (hc : c ∈ all) (hname : c.name ∉ onceOnly)
    (positional : List Value) (named : Record) :
    Composed (Built Persistent) (c.call positional named) := by
  refine .except fun args => ?_
  rcases composed_act hc args with hact | ⟨honce, -⟩
  · exact hact
  · exact absurd honce hname

end Command

/-! ## What commands keep -/

namespace Vehicle

theorem keeps_of_composed {I : Rig → Prop} {base : (α : Type) → Op Rig α → Prop} {α : Type}
    {op : Op Vehicle α} (hop : Composed (Built base) op)
    (h : ∀ (α : Type) (op : Op Rig α), base α op → Keeps I op) : Keeps (fun v => I v.rig) op := by
  refine hop.preserves fun α op hbase => ?_
  cases hbase with
  | onRig hop => exact .onPart (fun _ hv => hv) (fun _ _ _ hr => hr) (hop.preserves h)
  | look => exact .map .get
  | aim g => exact .modify fun _ hv => hv

end Vehicle

end Rover
