import Rover.Value.Arith

/-!
# Operations

An operation changes a state and either gives a result or stops early.
-/

namespace Rover

inductive Exit where
  | fault (cause : Fault)
  | ended

abbrev Op (σ : Type) := EStateM Exit σ

namespace Op

variable {σ τ α : Type}

@[inline] def fail (cause : Fault) : Op σ α := throw (.fault cause)

@[inline] def cutShort : Op σ α := throw .ended

@[inline] def ofExcept : Result α → Op σ α
  | .ok a => pure a
  | .error f => fail f

instance : MonadLift (Except Fault) (Op σ) := ⟨ofExcept⟩

@[inline] def guarded (body : Op σ α) (handler : Fault → Op σ α) : Op σ α := fun s =>
  match body s with
  | .ok a s => .ok a s
  | .error (.fault f) s => handler f s
  | .error .ended s => .error .ended s

@[inline] def ignoring (body : Op σ Unit) : Op σ Unit := guarded body fun _ => pure ()

@[inline] def onPart (get : τ → σ) (set : τ → σ → τ) (body : Op σ α) : Op τ α := fun t =>
  match body (get t) with
  | .ok a s => .ok a (set t s)
  | .error e s => .error e (set t s)

@[inline] def attempt (body : Op σ α) : Op σ (Result α) :=
  guarded (do return .ok (← body)) fun f => return .error f

end Op

end Rover
