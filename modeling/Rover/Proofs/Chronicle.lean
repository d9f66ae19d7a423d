import Rover.Proofs.Commands
import Rover.Proofs.Rig

/-!
# The chronicle of the hardware

What has happened to the hardware stands in its log and its events, and the faults that are going to
happen on the bus are counted. Apart from the transfers that meet these faults, nothing that the
hardware does depends on its chronicle.
-/

namespace Rover

open HasRig (onRig withRig)

/-- What has happened to the hardware, and how many faults are going to. -/
structure Chronicle where
  faults : Int
  log : Array LogRecord
  events : Array Event

namespace Chronicle

def noted (c : Chronicle) (entry : LogRecord) : Chronicle := { c with log := c.log.push entry }

def happened (c : Chronicle) (e : Event) : Chronicle := { c with events := c.events.push e }

def failed (c : Chronicle) : Chronicle :=
  { c with faults := c.faults - 1, events := c.events.push .failed }

class Steady (C : Chronicle → Chronicle → Prop) : Prop where
  noted : ∀ a b entry, C a b → C (a.noted entry) (b.noted entry)
  happened : ∀ a b e, C a b → C (a.happened e) (b.happened e)

/-- A relation between chronicles with the same faults, which survives them too. -/
class Fair (C : Chronicle → Chronicle → Prop) : Prop extends Steady C where
  faults : ∀ a b, C a b → b.faults = a.faults
  failed : ∀ a b, C a b → 0 < a.faults → C a.failed b.failed

end Chronicle

open Chronicle (Steady Fair)

namespace Rig

@[reducible] def chronicle (r : Rig) : Chronicle := ⟨r.pendingFaults, r.log, r.events⟩

@[reducible] def withChronicle (r : Rig) (c : Chronicle) : Rig :=
  { r with pendingFaults := c.faults, log := c.log, events := c.events }

def Apart (C : Chronicle → Chronicle → Prop) (r t : Rig) : Prop :=
  ∃ c, t = r.withChronicle c ∧ C r.chronicle c

namespace Apart

variable {C : Chronicle → Chronicle → Prop} {α : Type}

instance {f : Rig → Rig} [hf : ∀ r c, Same (f (r.withChronicle c)) ((f r).withChronicle c)]
    [hsame : ∀ r, Same (f r).chronicle r.chronicle] :
    Even (Apart C) (modify f : Op Rig PUnit) := by
  refine .base (.modify ?_)
  rintro r t ⟨c, rfl, h⟩
  refine ⟨c, (hf r c).eq, ?_⟩
  rw [(hsame r).eq]
  exact h

theorem alike_read {f : Rig → Op Rig α} (h : ∀ r, Alike (Apart C) (f r))
    (hf : ∀ r c, f (r.withChronicle c) = f r) : Alike (Apart C) (get >>= f) := by
  rintro r t ⟨c, rfl, hc⟩
  show SameOutcome (Apart C) (f r r) (f (r.withChronicle c) (r.withChronicle c))
  rw [hf r c]
  exact h r r (r.withChronicle c) ⟨c, rfl, hc⟩

instance {f : Rig → Op Rig α} [∀ r, Even (Apart C) (f r)]
    [h : ∀ r c, Same (f (r.withChronicle c)) (f r)] : Even (Apart C) (get >>= f) :=
  .base (alike_read (fun _ => .of_parts) fun r c => (h r c).eq)

instance : Even (Apart C) (Op.cutShort : Op Rig PUnit) := .base fun _ _ h => ⟨rfl, h⟩

section
variable [hC : Steady C]

instance (e : Event) : Even (Apart C) (emit e) := by
  refine .base (.modify ?_)
  rintro r t ⟨c, rfl, h⟩
  exact ⟨c.happened e, rfl, hC.happened _ _ e h⟩

instance (level : Level) (text : String) : Even (Apart C) (note level text) := by
  refine .base (.modify ?_)
  rintro r t ⟨c, rfl, h⟩
  exact ⟨c.noted ⟨level, text⟩, rfl, hC.noted _ _ _ h⟩

instance (t : Value) (now : Float) : Even (Apart C) (awake t now) := by
  refine .bind inferInstance fun _ => .bind inferInstance fun _ => .base ?_
  refine alike_read (fun r => ?_) fun _ _ => rfl
  cases r.sleepsLeft <;> exact .of_parts

instance (t : Value) : Even (Apart C) (sleep t) := by
  refine .except fun seconds => .base (alike_read (fun r => ?_) fun _ _ => rfl)
  have hawake : Even (Apart C) (awake t (r.clock + seconds)) := inferInstance
  unfold awake at hawake
  refine alike_read (fun q => ?_) fun _ _ => rfl
  cases q.deadline <;> exact .of_parts

end

variable [hC : Fair C]

instance : Even (Apart C) meetFault := by
  refine .base ?_
  rintro r t ⟨c, rfl, h⟩
  have hfaults : c.faults = r.pendingFaults := hC.faults _ _ h
  have hpend : (r.withChronicle c).pendingFaults = r.pendingFaults := hfaults
  rw [meetFault_apply, meetFault_apply, hpend]
  split
  · rename_i hpos
    exact ⟨rfl, c.failed, rfl, hC.failed _ _ h hpos⟩
  · exact ⟨rfl, c, rfl, h⟩

instance (address : Nat) (values : List Value) : Even (Apart C) (writeFrame address values) := by
  unfold writeFrame
  infer_instance

instance : Even (Apart C) readBattery := by
  unfold readBattery
  infer_instance

instance : Even (Apart C) readLine := by
  unfold readLine
  infer_instance

end Apart

end Rig

set_option synthInstance.maxSize 1000000000

section
variable {C : Chronicle → Chronicle → Prop}

instance (place angle pulse : Value) :
    Even (Rig.Apart C) (Board.recordServo place angle pulse) := by
  unfold Board.recordServo
  infer_instance

theorem Rig.Elementary.alike_of_fair [Fair C] (α : Type) (op : Op Rig α) (h : Elementary α op) :
    Alike (Apart C) op := by
  cases h with
  | note | line | sleep => exact .of_parts
  | _ =>
    dsimp only [Board.setMotor, Board.setServoAngle, Sonar.getDistance, readSonar, Board.getBattery]
    exact .of_parts

end

def Around (R : Rig → Rig → Prop) {σ : Type} [HasRig σ] (s t : σ) : Prop :=
  ∃ rig, t = withRig s rig ∧ R (HasRig.rig s) rig

section
variable {R : Rig → Rig → Prop} {σ α : Type} [HasRig σ]

theorem HasRig.matches_onRig {op op' : Op Rig α}
    (hlens : ∀ (s : σ) rig rig', HasRig.rig (withRig s rig) = rig ∧
      withRig (withRig s rig) rig' = withRig s rig') (h : Matches R op op') :
    Matches (Around R) (onRig op : Op σ α) (onRig op') := by
  refine .onPart ?_ ?_ h
  · rintro s t ⟨rig, rfl, h⟩
    rw [(hlens s rig rig).1]
    exact h
  · rintro s t rig rig' ⟨rig₀, rfl, -⟩ h
    refine ⟨rig', ?_, ?_⟩
    · rw [(hlens s rig₀ rig').2, (hlens s rig rig').2]
    · rw [(hlens s rig rig).1]
      exact h

theorem Around.alike_read {f : σ → Op σ α} (h : ∀ s, Alike (Around R) (f s))
    (hf : ∀ s rig, f (withRig s rig) = f s) : Alike (Around R) (get >>= f) := by
  rintro s t ⟨rig, rfl, hrig⟩
  show SameOutcome (Around R) (f s s) (f (withRig s rig) (withRig s rig))
  rw [hf]
  exact h s s _ ⟨rig, rfl, hrig⟩

end

theorem Vehicle.Built.alike {R : Rig → Rig → Prop} {base : (α : Type) → Op Rig α → Prop}
    (hbase : ∀ (α : Type) (op : Op Rig α), base α op → Alike R op) (α : Type) (op : Op Vehicle α)
    (h : Built base α op) : Alike (Around R) op := by
  cases h with
  | onRig hop => exact HasRig.matches_onRig (fun _ _ _ => ⟨rfl, rfl⟩) (hop.alike hbase)
  | look => exact Around.alike_read (fun _ => .pure _) fun _ _ => rfl
  | aim g =>
    apply Op.Matches.modify
    rintro v w ⟨rig, rfl, h⟩
    exact ⟨rig, rfl, h⟩

end Rover
