import Rover.Proofs.Chronicle
import Rover.Proofs.Executor.Run

/-!
# The log and the record

Nothing that the vehicle does depends on its log or on the record of what it did before. On
hardware that differs in the log and in some kinds of events only, every command has the same
outcome, and afterwards the hardware still differs in these only.
-/

namespace Rover

open Rig

set_option synthInstance.maxSize 1000000000

open HasRig (withRig)

variable {hidden : Event → Bool}

namespace Rig

def shown (hidden : Event → Bool) (events : Array Event) : List Event :=
  events.toList.filter fun e => !hidden e

@[reducible] def told (r : Rig) (log : Array LogRecord) (events : Array Event) : Rig := { r with log, events }

def Twin (hidden : Event → Bool) (r t : Rig) : Prop :=
  ∃ log events, t = r.told log events ∧ shown hidden events = shown hidden r.events

theorem Twin.refl (hidden : Event → Bool) (r : Rig) : Twin hidden r r := ⟨r.log, r.events, rfl, rfl⟩

theorem shown_push (events : Array Event) (e : Event) :
    shown hidden (events.push e) = shown hidden events ++ if hidden e then [] else [e] := by
  unfold shown
  cases h : hidden e <;> simp [h]

def Veiled (hidden : Event → Bool) (a b : Chronicle) : Prop :=
  b.faults = a.faults ∧ shown hidden b.events = shown hidden a.events

theorem twin_eq_apart : Twin hidden = Apart (Veiled hidden) := by
  funext r t
  apply propext
  constructor
  · rintro ⟨log, events, rfl, h⟩
    exact ⟨⟨r.pendingFaults, log, events⟩, rfl, rfl, h⟩
  · rintro ⟨⟨faults, log, events⟩, rfl, hfaults, h⟩
    cases hfaults
    exact ⟨log, events, rfl, h⟩

instance : Chronicle.Fair (Veiled hidden) := by
  have hpush : ∀ {a b : Chronicle} (e : Event), Veiled hidden a b →
      shown hidden (b.events.push e) = shown hidden (a.events.push e) := by
    intro a b e h
    rw [shown_push, shown_push, h.2]
  refine { noted := ?_, happened := ?_, faults := ?_, failed := ?_ }
  · intro a b entry h
    exact h
  · intro a b e h
    exact ⟨h.1, hpush e h⟩
  · intro a b h
    exact h.1
  · intro a b h _
    exact ⟨congrArg (· - 1) h.1, hpush .failed h⟩

theorem alike_of_apart {α : Type} {op : Op Rig α} (h : Alike (Apart (Veiled hidden)) op) :
    Alike (Twin hidden) op := by
  rw [twin_eq_apart]
  exact h

theorem nothing_matches_emit {e : Event} (he : hidden e) :
    Matches (Twin hidden) (pure ()) (emit e) := by
  rintro r t ⟨log, events, rfl, h⟩
  refine ⟨rfl, log, events.push e, rfl, ?_⟩
  rw [shown_push, h, if_pos he]
  exact List.append_nil _

theorem note_matches_note (level level' : Level) (text text' : String) :
    Matches (Twin hidden) (note level text) (note level' text') := by
  rintro r t ⟨log, events, rfl, h⟩
  exact ⟨rfl, log.push ⟨level', text'⟩, events, rfl, h⟩

end Rig

open Rig (Twin)

def Beside (hidden : Event → Bool) {σ : Type} [HasRig σ] (s t : σ) : Prop :=
  ∃ rig, t = withRig s rig ∧ Twin hidden (HasRig.rig s) rig

theorem matches_look {σ α : Type} [HasRig σ] {f f' : σ → Op σ α}
    (h : ∀ s, Matches (Beside hidden) (f s) (f' s))
    (hf : ∀ s log events, f' (withRig s ((HasRig.rig s).told log events)) = f' s) :
    Matches (Beside hidden) (get >>= f) (get >>= f') := by
  rintro s t ⟨rig, rfl, log, events, rfl, ht⟩
  change SameOutcome (Beside hidden) (f s s)
    (f' (withRig s ((HasRig.rig s).told log events)) (withRig s ((HasRig.rig s).told log events)))
  rw [hf]
  exact h s s _ ⟨_, rfl, log, events, rfl, ht⟩

instance {σ α : Type} [HasRig σ] {f : σ → Op σ α} [∀ s, Even (Beside hidden) (f s)]
    [hf : ∀ s log events, Same (f (withRig s ((HasRig.rig s).told log events))) (f s)] :
    Even (Beside hidden) (get >>= f) :=
  .base (matches_look (fun _ => .of_parts) fun s log events => (hf s log events).eq)

theorem alike_onPart {σ τ α : Type} [HasRig σ] [HasRig τ] {part : σ → τ} {put : σ → τ → σ}
    {op : Op τ α}
    (hpart : ∀ s rig, HasRig.rig (part s) = HasRig.rig s ∧
      part (withRig s rig) = withRig (part s) rig)
    (hput : ∀ s rig a rig', HasRig.rig (put s a) = HasRig.rig a ∧
      put (withRig s rig) (withRig a rig') = withRig (put s a) rig')
    (h : Alike (Beside hidden) op) : Alike (Beside hidden) (Op.onPart part put op) := by
  refine Op.Matches.onPart ?_ ?_ h
  · rintro s t ⟨rig, rfl, h⟩
    refine ⟨rig, (hpart s rig).2, ?_⟩
    rw [(hpart s rig).1]
    exact h
  · rintro s t a b ⟨rig, rfl, -⟩ ⟨rig', rfl, h⟩
    refine ⟨rig', (hput s rig a rig').2, ?_⟩
    rw [(hput s rig a rig').1]
    exact h

namespace Runner

theorem matches_onRig {α : Type} {op op' : Op Rig α} (h : Matches (Twin hidden) op op') :
    Matches (Beside hidden) (onRig op) (onRig op') :=
  HasRig.matches_onRig (fun _ _ _ => ⟨rfl, rfl⟩) h

theorem beside_symm {r t : Runner} (h : Beside hidden r t) : Beside hidden t r := by
  obtain ⟨rig, rfl, log, events, rfl, hshown⟩ := h
  exact ⟨r.vehicle.rig, rfl, r.vehicle.rig.log, r.vehicle.rig.events, rfl, hshown.symm⟩

theorem beside_trans {r t u : Runner} (h : Beside hidden r t) (h' : Beside hidden t u) :
    Beside hidden r u := by
  obtain ⟨rig, rfl, log, events, rfl, hshown⟩ := h
  obtain ⟨rig', rfl, log', events', rfl, hshown'⟩ := h'
  exact ⟨_, rfl, log', events', rfl, hshown'.trans hshown⟩

instance (f : Executor → Executor) : Even (Beside hidden) (update f) := by
  refine .base (.modify ?_)
  rintro r t ⟨rig, rfl, h⟩
  exact ⟨rig, rfl, h⟩

instance (text : String) : Even (Beside hidden) (liftM (info text) : Op Runner Unit) :=
  .base (matches_onRig (note_matches_note _ _ _ _))

instance (text : String) : Even (Beside hidden) (liftM (error text) : Op Runner Unit) :=
  .base (matches_onRig (note_matches_note _ _ _ _))

instance : Even (Beside hidden) (liftM now : Op Runner Float) := by
  have hnow : Alike (Twin hidden) now := by
    unfold now
    exact alike_of_apart .of_parts
  exact .base (matches_onRig hnow)

theorem alike_host (sleeps : Nat) {c : Command} (hc : c ∈ Command.all) (args : List Value)
    (named : Record) : Alike (Beside hidden) (host undisturbed sleeps c args named) := by
  have helementary (α : Type) (op : Op Rig α) (h : Rig.Elementary α op) : Alike (Twin hidden) op :=
    alike_of_apart (h.alike_of_fair α op)
  have hcall : Even (Beside hidden) (liftM (c.call args named) : Op Runner Value) :=
    .base (alike_onPart (fun _ _ => ⟨rfl, rfl⟩) (fun _ _ _ _ => ⟨rfl, rfl⟩)
      ((Command.composed_call hc args named).alike (Vehicle.Built.alike helementary)))
  unfold host undisturbed
  exact .of_parts

def ended : EStateM.Result Exit Runner Unit → EStateM.Result Exit Runner Ending
  | .ok _ r => .ok .finished (withDeadline none r)
  | .error (.fault f) r => .ok (.failed f) (withDeadline none r)
  | .error .ended r => .ok .overdue (withDeadline none r)

theorem runUntil_eq_ended (m : Meanwhile) (tree : Program.Tree) (deadline : Option Float)
    (r : Runner) :
    runUntil m tree deadline r = ended (tree.run (host m r.vehicle.rig.sleeps) r.executor.commands
      (withDeadline deadline r)) := by
  rfl

theorem beside_withDeadline {r t : Runner} (h : Beside hidden r t) (deadline : Option Float) :
    Beside hidden (withDeadline deadline r) (withDeadline deadline t) := by
  obtain ⟨rig, rfl, log, events, rfl, h⟩ := h
  exact ⟨_, rfl, log, events, rfl, h⟩

theorem alike_runUntil (tree : Program.Tree) (deadline : Option Float) :
    Alike (Beside hidden) (runUntil undisturbed tree deadline) := by
  intro r t h
  obtain ⟨hexecutor, hsleeps⟩ : t.executor = r.executor ∧
      t.vehicle.rig.sleeps = r.vehicle.rig.sleeps := by
    obtain ⟨rig, rfl, log, events, rfl, -⟩ := h
    exact ⟨rfl, rfl⟩
  have hrun := Program.Tree.run_alike (fun c hc => alike_host r.vehicle.rig.sleeps hc)
    r.executor.commands tree _ _ (beside_withDeadline h deadline)
  rw [runUntil_eq_ended, runUntil_eq_ended, hexecutor, hsleeps]
  rcases hrun.cases with ⟨_, u, u', hr, ht, hnext⟩ | ⟨e, u, u', hr, ht, hnext⟩
  · rw [hr, ht]
    exact ⟨rfl, beside_withDeadline hnext none⟩
  · rw [hr, ht]
    cases e <;> exact ⟨rfl, beside_withDeadline hnext none⟩

theorem alike_conclude (limit : Value) (ending : Ending) :
    Alike (Beside hidden) (conclude limit ending) := by
  rintro r t ⟨rig, rfl, log, events, rfl, h⟩
  by_cases hend : ending.Reportable
  · rw [conclude_apply hend, conclude_apply hend]
    exact ⟨rfl, _, rfl, _, events, rfl, h⟩
  · rw [conclude_of_not_reportable hend, conclude_of_not_reportable hend]
    exact ⟨rfl, _, rfl, log, events, rfl, h⟩

instance (code timeout : Value) : Even (Beside hidden) (execute undisturbed code timeout) := by
  have (tree : Program.Tree) (limit : Value) : Even (Beside hidden) (await undisturbed tree limit) := by
    refine .bind inferInstance fun clock => ?_
    cases deadlineAt clock limit with
    | ok deadline => exact .base (alike_runUntil tree deadline)
    | error f => infer_instance
  have (ending : Ending) (limit : Value) : Even (Beside hidden) (conclude limit ending) :=
    .base (alike_conclude limit ending)
  have : Even (Beside hidden) (compile code) := by
    unfold compile
    cases treeOf code <;> infer_instance
  refine .base (matches_look (fun r => .ite (.pure _) (.bind .of_parts fun tree => ?_))
    fun _ _ _ => rfl)
  cases tree <;> exact .of_parts

theorem alike_start (code processId timeout : Value) :
    Alike (Beside hidden) (start undisturbed code processId timeout) := by
  unfold start forgetName
  exact .of_parts

end Runner

end Rover
