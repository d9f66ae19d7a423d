import Rover.Proofs.Commands
import Rover.Proofs.Executor.Idle

/-!
# What a run does to the hardware

A program reaches the hardware by the elementary operations only, and so do those who ask for a stop
while it runs. What each of these keeps, a whole run keeps, and so does the call that started it.
-/

namespace Rover

set_option synthInstance.maxSize 1000000000

/-- A property that survives all that a program can do to the hardware. -/
class Rig.Hardy (I : Rig → Prop) : Prop where
  keeps : ∀ (α : Type) (op : Op Rig α), Rig.Elementary α op → Keeps I op

open Rig (Hardy)

namespace Runner

variable {ending : Ending}

theorem execute_of_executing {m : Meanwhile} {code timeout : Value} {r : Runner}
    (hr : r.executor.executing) :
    execute m code timeout r = .ok (report false (.str "已有代码正在执行")) r := by
  change (if r.executor.executing then _ else _ : Op Runner _) r = _
  rw [if_pos hr]
  rfl

section
variable {I : Rig → Prop}

def Holds (I : Rig → Prop) (r : Runner) : Prop := I r.vehicle.rig

instance (f : Executor → Executor) : Safe True (Holds I) (update f) := .base (.modify fun _ hr => hr)

theorem keeps_onRig {α : Type} {op : Op Rig α} (h : Keeps I op) : Keeps (Holds I) (onRig op) :=
  .onPart (fun _ hr => hr) (fun _ _ _ hrig => hrig) h

variable [hI : Hardy I]

instance {α : Type} {op : Op Rig α} [h : Composed Rig.Elementary op] :
    Safe True (Holds I) (liftM op : Op Runner α) := by
  rw [liftM_rig]
  exact .base (keeps_onRig (h.preserves hI.keeps))

instance : Safe True (Holds I) stop := by
  unfold stop interrupt
  infer_instance

instance : Safe True (Holds I) emergencyStop := by
  unfold emergencyStop
  infer_instance

theorem Plea.keeps_answer (p : Plea) : Keeps (fun r => Occupied r ∧ Holds I r) p.answer := by
  cases p with
  | start code processId timeout =>
    -- a second program is turned away before it reaches anything
    intro r hr
    have hexec : r.executor.executing := hr.1
    simp [answer, Runner.start, hexec, hr]
  | _ => exact .and (answer_occupied _) (.map .of_parts)

theorem keeps_host (pleas : Nat → Option Plea) (sleeps : Nat) {c : Command}
    (hc : c ∈ Command.all) (args : List Value) (named : Record) :
    Keeps (fun r => Occupied r ∧ Holds I r) (host (asking pleas) sleeps c args named) := by
  have hcall : Keeps (Holds I) (liftM (c.call args named) : Op Runner Value) :=
    .onPart (fun _ hr => hr) (fun _ _ _ hv => hv)
      (Vehicle.keeps_of_composed (Command.composed_call hc args named) hI.keeps)
  exact keeps_host_of (.and (keeps_executor_onVehicle (P := fun e => e.executing) _) hcall)
    Plea.keeps_answer (fun _ _ h => h) pleas sleeps

variable {pleas : Nat → Option Plea}

theorem runUntil_keeps {tree : Program.Tree} {deadline : Option Float} {r r' : Runner}
    (hrun : runUntil (asking pleas) tree deadline r = .ok ending r') (hoccupied : Occupied r)
    (hr : Holds I (withDeadline deadline r)) : ∃ s, Holds I s ∧ r' = withDeadline none s := by
  obtain ⟨s, hs, rfl⟩ :=
    runUntil_of_keeps (fun c hc => keeps_host pleas _ hc) hrun ⟨hoccupied, hr⟩
  exact ⟨s, hs.2, rfl⟩

variable {J : Rig → Prop}
  (hstart : ∀ (r : Rig) (d : Option Float), J r → I { r with deadline := d })
  (hend : ∀ r : Rig, I r → J { r with deadline := none })

include hstart hend in
theorem Runs.holds_of {code timeout : Value} {r r' : Runner}
    (h : Runs (asking pleas) code timeout r ending r') (hr : Holds J r) : Holds J r' := by
  obtain ⟨-, -, hrun⟩ := h
  obtain ⟨s, hs, rfl⟩ := runUntil_keeps hrun rfl (hstart _ _ hr)
  exact hend _ hs

variable [hJ : Hardy J]
include hstart hend

theorem keeps_execute_of (pleas : Nat → Option Plea) (code timeout : Value) :
    Keeps (Holds J) (execute (asking pleas) code timeout) := by
  rw [keeps_iff_wp]
  intro r hr
  cases hexec : r.executor.executing with
  | true => exact (wp_of_ok (execute_of_executing hexec)).mpr hr
  | false =>
    have hout := outcome_execute (asking pleas) code timeout hexec
    unfold wp
    generalize execute (asking pleas) code timeout r = outcome at hout ⊢
    cases hout with
    | refused => exact hJ.keeps _ _ (.note .error _) _ hr
    | unlimited => exact hr
    | unreported hrun => exact hrun.holds_of hstart hend hr
    | @reported ending s hrun hending =>
      have hs := hrun.holds_of hstart hend hr
      cases ending with
      | finished => exact hs
      | failed cause => exact hJ.keeps _ _ (.note .error _) _ hs
      | overdue => exact hJ.keeps _ _ (.note .warning _) _ hs

theorem keeps_start_of (pleas : Nat → Option Plea) (code processId timeout : Value) :
    Keeps (Holds J) (start (asking pleas) code processId timeout) := by
  have : Safe True (Holds J) (execute (asking pleas) code timeout) :=
    .base (keeps_execute_of hstart hend pleas code timeout)
  have : Safe True (Holds J) (liftM Rig.now : Op Runner Float) := .base (keeps_onRig (.map .get))
  unfold start forgetName
  exact .of_parts

end

section
variable {I : Rig → Prop} [Hardy I]
  (hdue : ∀ (r : Rig) (d : Option Float), I r → I { r with deadline := d })
include hdue
variable (pleas : Nat → Option Plea)

theorem Runs.holds {pleas : Nat → Option Plea} {code timeout : Value} {r r' : Runner}
    (h : Runs (asking pleas) code timeout r ending r') (hr : Holds I r) : Holds I r' :=
  h.holds_of hdue (fun r => hdue r none) hr

theorem keeps_execute (code timeout : Value) :
    Keeps (Holds I) (execute (asking pleas) code timeout) :=
  keeps_execute_of hdue (fun r => hdue r none) pleas code timeout

theorem keeps_start (code processId timeout : Value) :
    Keeps (Holds I) (start (asking pleas) code processId timeout) :=
  keeps_start_of hdue (fun r => hdue r none) pleas code processId timeout

end

end Runner

end Rover
