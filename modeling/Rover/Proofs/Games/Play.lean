import Rover.Games.Arcade
import Rover.Proofs.Rig

/-!
# Reasoning about games

What the operations of a game do to the play it is part of, and how the steps of a game act on a
larger state.
-/

namespace Rover

namespace Play

variable {σ τ α : Type} {Q : α → Play σ → Prop} {E : Exit → Play σ → Prop} {p : Play σ}

@[simp] theorem wp_state {Q : σ → Play σ → Prop} : wp state Q E p ↔ Q p.game p := Iff.rfl

@[simp] theorem wp_update {Q : PUnit → Play σ → Prop} (f : σ → σ) :
    wp (update f) Q E p ↔ Q ⟨⟩ { p with game := f p.game } := Iff.rfl

@[simp] theorem liftM_rig (op : Op Rig α) : (liftM op : Op (Play σ) α) = onRig op := rfl

@[simp] theorem wp_onRig (op : Op Rig α) :
    wp (onRig op) Q E p ↔ wp op (fun a r => Q a { p with rig := r })
      (fun e r => E e { p with rig := r }) p.rig :=
  wp_onPart ..

@[simp] theorem wp_within {Q : α → Play τ → Prop} {E : Exit → Play τ → Prop} {p : Play τ}
    (read : τ → σ) (write : τ → σ → τ) (op : Op (Play σ) α) :
    wp (within read write op) Q E p ↔
      wp op (fun a q => Q a ⟨q.rig, q.files, q.sonar, write p.game q.game⟩)
        (fun e q => E e ⟨q.rig, q.files, q.sonar, write p.game q.game⟩)
        ⟨p.rig, p.files, p.sonar, read p.game⟩ :=
  wp_onPart ..

theorem preserves_now {cut : Prop} {I : Play σ → Prop} : Preserves cut I (onRig Rig.now) :=
  fun _ hp => hp

theorem keeps_update {I : σ → Prop} {f : σ → σ} (h : ∀ s, I s → I (f s)) :
    Keeps (fun p => I p.game) (update f) := fun _ hp => h _ hp

theorem keeps_within {I : τ → Prop} {read : τ → σ} {write : τ → σ → τ}
    (h : ∀ t s, I t → I (write t s)) (op : Op (Play σ) α) :
    Keeps (fun p => I p.game) (within read write op) :=
  .onPart (fun _ _ => trivial) (fun _ _ hp _ => h _ _ hp) (keeps_true op)

section
variable {cut : Prop} {I : Play σ → Prop}

instance : Safe cut I state := by
  unfold state
  infer_instance

instance {f : σ → σ} [h : ∀ p, Leads (I p) (I { p with game := f p.game })] :
    Safe cut I (update f) := .base (.modify fun p => (h p).imp)

instance : Safe cut I (onRig Rig.now) := .base preserves_now

instance {base : (α : Type) → Op (Play σ) α → Prop} {op : Op Rig α}
    [h : Composed base (onRig op : Op (Play σ) α)] : Composed base (liftM op : Op (Play σ) α) := h

instance {op : Op Rig α} [h : ∀ p r, Leads (I p) (I { p with rig := r })] :
    Safe True I (onRig op : Op (Play σ) α) :=
  .base (.onPart (fun _ _ => trivial) (fun p r hp _ => (h p r).imp hp) (keeps_true op))

instance {read : σ → Pid Value} {write : σ → Pid Value → σ} {goal measured : Value}
    [h : ∀ p c, Leads (I p) (I { p with game := write p.game c })] :
    Safe True I (Games.control read write goal measured) := by
  have hpid (op : Op (Pid Value) Unit) : Safe True I (Op.onPart (fun p => read p.game)
      (fun p c => { p with game := write p.game c }) op) :=
    .base (.onPart (fun _ _ => trivial) (fun p c hp _ => (h p c).imp hp) (keeps_true op))
  unfold Games.control
  infer_instance

end

end Play

export Play (wp_state wp_within)

theorem Op.Preserves.state {σ α : Type} {cut : Prop} {I : Play σ → Prop} {f : σ → Op (Play σ) α}
    (hf : ∀ s, Preserves cut I (f s)) : Preserves cut I (Play.state >>= f) :=
  bind (fun _ hp => hp) hf

/-- The steps through which a game is taken from outside. -/
inductive Step where
  | prepare | start | stop | leave

def Step.of {σ : Type} : Step → Game σ → Option (Op (Play σ) Unit)
  | prepare, g => some g.prepare
  | start, g => g.start
  | stop, g => g.stop
  | leave, g => g.leave

theorem Step.of_within_eq_some {σ τ : Type} {s : Step} {g : Game σ} {read : τ → σ}
    {write : τ → σ → τ} {op : Op (Play τ) Unit} (h : s.of (g.within read write) = some op) :
    ∃ own, s.of g = some own ∧ op = Play.within read write own := by
  have hmap : s.of (g.within read write) = (s.of g).map (Play.within read write) := by
    cases s <;> rfl
  rw [hmap, Option.map_eq_some_iff] at h
  obtain ⟨own, hown, rfl⟩ := h
  exact ⟨own, hown, rfl⟩

/-! ## Which games run

Every game has a flag that says whether it runs. A step of one game leaves the flags of all others
alone, and a game that has been left does not run. -/

namespace Arcade

def running (a : Arcade) : GameName → Value
  | .remote | .idle => .bool false
  | .spotter => a.spotter.running
  | .alarm => a.alarm.running
  | .chase => a.chase.running
  | .patrol => a.patrol.running
  | .track => a.track.running
  | .reader => a.reader.running
  | .signs => a.signs.running
  | .roaming => a.roaming.running
  | .faces => a.faces.running
  | .tuner => a.tuner.running

theorem step_keeps_running {s : Step} {g : GameName} {op : Op (Play Arcade) Unit}
    (flags : GameName → Value) (h : s.of (game g) = some op) :
    Keeps (fun p => ∀ other ≠ g, p.game.running other = flags other) op := by
  cases g with
  | remote | idle =>
    cases s <;> cases h <;> exact .pure _
  | _ =>
    obtain ⟨own, -, rfl⟩ := Step.of_within_eq_some h
    refine Play.keeps_within (I := fun a : Arcade => ∀ other ≠ _, a.running other = flags other)
      (fun a t ha other hother => ?_) own
    rw [← ha other hother]
    -- a flag is a field of its own game, so writing another game does not reach it
    cases other <;> first | rfl | exact absurd rfl hother

end Arcade

variable {σ : Type}

theorem Roaming.wp_setSonarLamp {Q : Unit → Play σ → Prop} {E : Exit → Play σ → Prop}
    {p : Play σ} (index color : Value) : wp (setSonarLamp index color) Q E p ↔ match p.sonar with
      | none => E (.fault (.noAttribute "NoneType" "setPixelColor")) p
      | some s => wp (s.setPixel index color) (fun s r => Q () { p with rig := r, sonar := some s })
          (fun e r => E e { p with rig := r }) p.rig := by
  unfold setSonarLamp
  rw [wp_bind, wp_get]
  cases h : p.sonar <;> simp [h]

namespace Arcade

theorem leave_halts {g : GameName} {op : Op (Play Arcade) Unit} (h : (game g).leave = some op)
    (p : Play Arcade) : wp op (fun _ q => q.game.running g = .bool false) (fun _ _ => True) p := by
  cases g with
  | alarm => cases h
  | remote | idle => exact wp_of_forall (fun _ _ => rfl) fun _ _ => trivial
  | roaming =>
    cases h
    cases hsonar : p.sonar <;>
      simp [Roaming.leave, Roaming.stop, Roaming.wp_setSonarLamp, running, hsonar]
  | chase | faces =>
    cases h
    simp [ColorChase.stop, ColorChase.reset, ColorChase.aim, FaceChase.stop, FaceChase.reset,
      FaceChase.aim, running]
  | _ =>
    cases h
    simp [ColorSpotter.stop, LinePatrol.stop, TrackRunner.stop, CodeReader.stop, HandSigns.stop,
      ThresholdTuner.leave, running]

end Arcade

end Rover
