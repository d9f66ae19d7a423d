import Mathlib.Tactic.Linarith
import Rover.Pid
import Rover.Proofs.Op

/-!
# Controllers with exact numbers

Over the rational numbers an update never fails, and `updated` is what it makes of a controller. The
integral stays within its bound and the time of the last update never goes back, whatever is done to
a controller; one that is cleared goes on like a new one only if it was updated at that very time.
-/

namespace Rover

instance : Arith ℚ where
  whole n := n
  real n := n
  add x y := .ok (x + y)
  sub x y := .ok (x - y)
  mul x y := .ok (x * y)
  div x y := if y = 0 then .error .floatDivisionByZero else .ok (x / y)
  neg x := .ok (-x)
  less x y := .ok (decide (x < y))
  atMost x y := .ok (decide (x ≤ y))
  same x y := decide (x = y)

namespace Pid

variable (c : Pid ℚ) (now feedback : ℚ)

def error : ℚ := c.setPoint - feedback

def elapsed : ℚ := now - c.lastTime

def integral (i : ℚ) : ℚ :=
  if i < -c.windupGuard then -c.windupGuard else if c.windupGuard < i then c.windupGuard else i

def slope : ℚ :=
  if 0 < c.elapsed now then (c.error feedback - c.lastError) / c.elapsed now else 0

def updated : Pid ℚ :=
  if c.elapsed now < c.sampleTime then { c with currentTime := now }
  else
    let i := c.integral (c.iTerm + c.error feedback * c.elapsed now)
    { c with
      currentTime := now, lastTime := now, lastError := c.error feedback
      pTerm := c.kp * c.error feedback, iTerm := i, dTerm := c.slope now feedback
      output := c.kp * c.error feedback + c.ki * i + c.kd * c.slope now feedback }

theorem limitIntegral_apply : limitIntegral c = .ok () { c with iTerm := c.integral c.iTerm } := by
  unfold integral
  by_cases hlo : c.iTerm < -c.windupGuard
  · rw [if_pos hlo]
    change (if decide (c.iTerm < -c.windupGuard) then _ else _ : Op (Pid ℚ) Unit) c = _
    rw [decide_eq_true hlo]
    rfl
  · rw [if_neg hlo]
    change (if decide (c.iTerm < -c.windupGuard) then _ else
      if decide (c.windupGuard < c.iTerm) then _ else _ : Op (Pid ℚ) Unit) c = _
    rw [decide_eq_false hlo]
    by_cases hhi : c.windupGuard < c.iTerm
    · rw [if_pos hhi, decide_eq_true hhi]
      rfl
    · rw [if_neg hhi, decide_eq_false hhi]
      rfl

theorem update_apply : update now feedback c = .ok () (c.updated now feedback) := by
  have h0 : (Arith.real 0 : ℚ) = 0 := Int.cast_zero
  have hnone : (Arith.whole 0 : ℚ) = 0 := Int.cast_zero
  have hdiv (x : ℚ) (hpos : 0 < c.elapsed now) :
      Arith.div x (c.elapsed now) = .ok (x / c.elapsed now) := if_neg hpos.ne'
  change (if decide (c.sampleTime ≤ c.elapsed now) then _ else _ : Op (Pid ℚ) Unit)
    { c with currentTime := now } = _
  unfold updated
  by_cases hearly : c.elapsed now < c.sampleTime
  · rw [decide_eq_false hearly.not_ge, if_pos hearly]
    rfl
  · rw [decide_eq_true (not_lt.mp hearly), if_neg hearly]
    change EStateM.bind limitIntegral _ _ = _
    rw [EStateM.bind, limitIntegral_apply, h0, hnone]
    change (if decide (0 < c.elapsed now) then _ else _ : Op (Pid ℚ) Unit) _ = _
    unfold slope
    by_cases hpos : 0 < c.elapsed now
    · rw [decide_eq_true hpos, if_pos hpos]
      change EStateM.bind (Op.ofExcept (Arith.div _ (c.elapsed now))) _ _ = _
      rw [hdiv _ hpos]
      rfl
    · rw [decide_eq_false hpos, if_neg hpos]
      rfl

/-! ## Whatever is done to a controller -/

inductive Act where
  | update (now feedback : ℚ)
  | clear
  | setKp (gain : ℚ)
  | setKi (gain : ℚ)
  | setKd (gain : ℚ)
  | setWindup (guard : ℚ≥0)
  | setSampleTime (time : ℚ≥0)
  | aim (setPoint : ℚ)

def Act.perform : Act → Op (Pid ℚ) Unit
  | update now feedback => Pid.update now feedback
  | clear => modify Pid.clear
  | setKp kp => modify ({ · with kp })
  | setKi ki => modify ({ · with ki })
  | setKd kd => modify ({ · with kd })
  | setWindup guard => modify ({ · with windupGuard := guard })
  | setSampleTime time => modify ({ · with sampleTime := time })
  | aim setPoint => modify ({ · with setPoint })

/-- Neither bound is negative, and the last update was not before `since`. -/
structure Sound (since : ℚ) (c : Pid ℚ) : Prop where
  windupGuard : 0 ≤ c.windupGuard
  sampleTime : 0 ≤ c.sampleTime
  lastTime : since ≤ c.lastTime

section
variable {since : ℚ} {c}

theorem sound_clear (hsamp : 0 ≤ c.sampleTime) (hlast : since ≤ c.lastTime) : Sound since c.clear :=
  ⟨(by norm_num : (0 : ℚ) ≤ (20 : ℤ)), hsamp, hlast⟩

theorem Sound.updated (h : Sound since c) : Sound since (c.updated now feedback) := by
  unfold Pid.updated
  split
  · exact { h with }
  · rename_i hlate
    have hforth : 0 ≤ now - c.lastTime := h.sampleTime.trans (not_lt.mp hlate)
    exact { h with lastTime := h.lastTime.trans (sub_nonneg.mp hforth) }

theorem Act.keeps_sound (a : Act) : Keeps (Sound since) a.perform := by
  intro c hc
  cases a with
  | update now feedback => exact (wp_of_ok (update_apply c now feedback)).mpr (hc.updated now feedback)
  | clear => exact sound_clear hc.sampleTime hc.lastTime
  | setKp gain | setKi gain | setKd gain | aim setPoint => exact { hc with }
  | setWindup guard => exact { hc with windupGuard := guard.2 }
  | setSampleTime time => exact { hc with sampleTime := time.2 }

theorem abs_integral_le (h : 0 ≤ c.windupGuard) (i : ℚ) : |c.integral i| ≤ c.windupGuard := by
  unfold integral
  rw [abs_le]
  split_ifs <;> constructor <;> linarith

end

theorem updates_bounded_and_timed (kp ki kd start : ℚ) (acts : List Act) :
    let c := Op.runAll Act.perform acts (new kp ki kd start)
    ∃ d, update now feedback c = .ok () d ∧
      (c.elapsed now < c.sampleTime → d = { c with currentTime := now }) ∧
      (c.sampleTime ≤ c.elapsed now → |d.iTerm| ≤ c.windupGuard ∧
        d.output = c.kp * c.error feedback + c.ki * d.iTerm + c.kd * d.dTerm ∧
        d.lastError = c.error feedback ∧ d.lastTime = now) ∧
      ∀ later, c.lastTime ≤ (Op.runAll Act.perform later c).lastTime := by
  intro c
  have hnew : Sound start (new kp ki kd start) := sound_clear Int.cast_zero.ge le_rfl
  have hc : Sound start c := runAll_keeps Act.keeps_sound acts hnew
  refine ⟨c.updated now feedback, update_apply c now feedback, fun hearly => if_pos hearly, fun hlate => ?_,
    fun later => ?_⟩
  · unfold updated
    rw [if_neg hlate.not_gt]
    exact ⟨abs_integral_le hc.windupGuard _, rfl, rfl, rfl⟩
  · exact (runAll_keeps Act.keeps_sound later { hc with lastTime := le_rfl }).lastTime

/-! ## Clearing a controller -/

/-- What a controller is given at a time: where to go and where it is. -/
structure Sample where
  now : ℚ
  setPoint : ℚ
  feedback : ℚ

def follow (s : Sample) : Op (Pid ℚ) Unit := do
  modify ({ · with setPoint := s.setPoint })
  update s.now s.feedback

def shown : ℚ × ℚ × ℚ × ℚ := (c.pTerm, c.iTerm, c.dTerm, c.output)

/-- A new controller of the time `t` with the same gains and sample time. -/
def renewed (t : ℚ) : Pid ℚ := { new c.kp c.ki c.kd t with sampleTime := c.sampleTime }

theorem after_follow (s : Sample) :
    (follow s).after c = { c with setPoint := s.setPoint }.updated s.now s.feedback :=
  after_of_ok (update_apply _ s.now s.feedback)

theorem after_follow_renewed (s : Sample) (t : ℚ) :
    (follow s).after (c.renewed t) = (follow s).after { c with lastTime := t }.clear := by
  rfl

theorem dTerm_after_follow_clear (hsamp : c.sampleTime ≤ now - c.lastTime)
    (hforth : 0 < now - c.lastTime) :
    ((follow ⟨now, 1, 0⟩).after c.clear).dTerm = 1 / (now - c.lastTime) := by
  have hlate (c : Pid ℚ) (h : c.sampleTime ≤ c.elapsed now) :
      (c.updated now 0).dTerm = c.slope now 0 := congrArg dTerm (if_neg h.not_gt)
  rw [after_follow]
  refine (hlate { c.clear with setPoint := 1 } hsamp).trans ((if_pos hforth).trans ?_)
  change (1 - 0 - ((0 : ℤ) : ℚ)) / (now - c.lastTime) = _
  rw [Int.cast_zero, sub_zero, sub_zero]

theorem clear_like_new_iff (t : ℚ) :
    (∀ samples, (Op.runAll follow samples c.clear).shown =
      (Op.runAll follow samples (c.renewed t)).shown) ↔ c.lastTime = t := by
  constructor
  · intro h
    let later := max c.lastTime t + |c.sampleTime| + 1
    have hlast : c.lastTime ≤ max c.lastTime t := le_max_left ..
    have ht : t ≤ max c.lastTime t := le_max_right ..
    have hsample := le_abs_self c.sampleTime
    have hnonneg := abs_nonneg c.sampleTime
    have hslopes : ((follow ⟨later, 1, 0⟩).after c.clear).dTerm =
        ((follow ⟨later, 1, 0⟩).after (c.renewed t)).dTerm :=
      congrArg (·.2.2.1) (h [⟨later, 1, 0⟩])
    rw [after_follow_renewed, dTerm_after_follow_clear _ _ (by linarith) (by linarith),
      dTerm_after_follow_clear _ _ (by dsimp only; linarith) (by dsimp only; linarith)] at hslopes
    exact sub_right_injective (inv_injective (by simpa only [one_div] using hslopes))
  · rintro rfl samples
    cases samples with
    | nil => rfl
    | cons s rest =>
      rw [Op.runAll, Op.runAll, after_follow_renewed]

/-- The time since the last update is not forgotten: 12 s instead of the 2 s since the clearing. -/
theorem cleared_keeps_last_time :
    (Op.runAll follow [⟨1012, 1, 0⟩] (new 1 0 0 1000).clear).shown ≠
      (Op.runAll follow [⟨1012, 1, 0⟩] ((new 1 0 0 1000).renewed 1010)).shown := by
  intro h
  have hslopes : ((follow ⟨1012, 1, 0⟩).after (new 1 0 0 1000).clear).dTerm =
      ((follow ⟨1012, 1, 0⟩).after ((new 1 0 0 1000).renewed 1010)).dTerm := congrArg (·.2.2.1) h
  have hsample : (new 1 0 0 1000 : Pid ℚ).sampleTime = 0 := Int.cast_zero
  have hlast : (new 1 0 0 1000 : Pid ℚ).lastTime = 1000 := rfl
  rw [after_follow_renewed, dTerm_after_follow_clear _ _ (by norm_num [hsample, hlast])
    (by norm_num [hlast]), dTerm_after_follow_clear _ _ (by norm_num [hsample]) (by norm_num),
    hlast] at hslopes
  norm_num at hslopes

end Pid

end Rover
