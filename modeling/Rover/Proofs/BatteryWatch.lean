import Mathlib.Data.List.DropRight
import Rover.BatteryWatch
import Rover.Proofs.Sensors

/-!
# The voltage that is published

Samples are put in front of older ones that are never thrown away, but the three that are averaged
are always the last three that were credible. The time between two samples is compared after it was
rounded, so it can fall short of a second.
-/

namespace Rover.BatteryWatch

open List

/-- A moment at which the clock is looked at, and what the battery would say then. -/
structure Instant where
  clock : Float
  battery : Value

namespace Instant

variable (i : Instant)

def reach (s : Site) : Site :=
  { s with rig := { s.rig with clock := i.clock, battery := ⟨i.battery, []⟩ } }

def pass : Op Site Unit := do
  modify i.reach
  loop 1

def volts : Float := nearestInt (Board.chargeOf i.battery) / 1000

end Instant

def next (w : BatteryWatch) (i : Instant) : BatteryWatch :=
  if w.isDue i.clock then { w with last := i.clock }.take i.volts else w

theorem pass_spec (i : Instant) {s : Site} (hs : s.rig.pendingFaults ≤ 0) :
    (i.pass.after s).rig.pendingFaults ≤ 0 ∧ (i.pass.after s).watch = s.watch.next i := by
  refine (wp_after_iff (P := fun t : Site =>
    t.rig.pendingFaults ≤ 0 ∧ t.watch = s.watch.next i)).mp ((wp_bind ..).mpr ?_)
  change wp (if s.watch.isDue i.clock then measure >>= fun _ => loop 0
    else onRig (Rig.sleep (.float 0.01)) >>= fun _ => loop 0) _ _ (i.reach s)
  unfold next
  rw [wp_ite]
  split
  · have hlt : Board.chargeOf ((i.reach s).rig.battery.reading 0) < 65536 := Board.chargeOf_lt _
    have hbattery := Board.returns_getBattery (i := 0) (j := 0) (k := 0) (i.reach s).rig
      ⟨hs, rfl, rfl, rfl, rfl, rfl⟩
    refine (wp_bind ..).mpr ((wp_bind ..).mpr ((wp_bind ..).mpr ((wp_bind ..).mpr ?_)))
    refine (wp_onPart ..).mpr (wp_of_total hbattery ?_)
    rintro _ r ⟨rfl, hr⟩
    refine (wp_ok_bind (div_reading (by omega) rfl) _).mpr ?_
    exact ⟨hr.faults, rfl⟩
  · have hsleep : Keeps (fun t : Site => t.rig.pendingFaults ≤ 0 ∧ t.watch = s.watch)
        (onRig (Rig.sleep (.float 0.01))) :=
      .onPart (fun _ ht => ht.1) (fun _ _ ht hr => ⟨hr, ht.2⟩)
        (Rig.keeps_sleep_of (I := fun r => r.pendingFaults ≤ 0) (fun _ _ _ hr _ _ _ => hr) fun _ _ hr _ => hr)
    exact (Op.Preserves.bind hsleep fun _ => .pure _ : Keeps _ _).wp ⟨hs, rfl⟩

theorem watch_runAll {s : Site} (hs : s.rig.pendingFaults ≤ 0) (course : List Instant) :
    (Op.runAll Instant.pass course s).watch = course.foldl next s.watch := by
  induction course generalizing s with
  | nil => rfl
  | cons i rest ih =>
    obtain ⟨hcalm, hwatch⟩ := pass_spec i hs
    rw [foldl_cons, ← hwatch]
    exact ih hcalm

/-! ## What was sampled -/

def sampled (w : BatteryWatch) : List Instant → List Instant
  | [] => []
  | i :: rest => (if w.isDue i.clock then [i] else []) ++ sampled (w.next i) rest

theorem sampled_append (w : BatteryWatch) (past : List Instant) (i : Instant) :
    sampled w (past ++ [i]) =
      sampled w past ++ if (past.foldl next w).isDue i.clock then [i] else [] := by
  induction past generalizing w with
  | nil => exact append_nil _
  | cons j past ih => rw [cons_append, sampled, ih, sampled, append_assoc]; rfl

/-- What is known of the watch when these voltages were accepted. -/
structure Holds (xs : List Float) (w : BatteryWatch) : Prop where
  fresh : w.fresh = xs.length % 3
  samples : w.samples.take w.fresh = xs.rtake w.fresh

section
variable {xs : List Float} {w : BatteryWatch} {v : Float}

theorem Holds.take_rejected (h : Holds xs w) (hv : credible v = false) : w.take v = w := by
  have hfresh := h.fresh
  unfold take publish window
  rw [hv, if_neg Bool.false_ne_true, if_pos (by omega)]

theorem Holds.take_accepted (h : Holds xs w) (hv : credible v) :
    Holds (xs ++ [v]) (w.take v) ∧
      if 3 ∣ xs.length + 1 then
        ∃ a b c, (xs ++ [v]).rtake 3 = [a, b, c] ∧ (w.take v).voltage = (a + b + c) / 3
      else (w.take v).voltage = w.voltage := by
  have hfresh := h.fresh
  have hlen : (w.samples.take w.fresh).length = w.fresh := by
    rw [h.samples, rtake, length_drop]
    omega
  have hkept : (w.keep v).samples.take (w.fresh + 1) = (xs ++ [v]).rtake (w.fresh + 1) := by
    rw [rtake_concat_succ, ← h.samples, keep, append_cons]
    exact take_left' (by simp [hlen])
  unfold take publish
  rw [hv, if_pos rfl]
  by_cases hlast : 3 ∣ xs.length + 1
  · have htwo : w.fresh = 2 := by omega
    have hthree : ¬ (w.keep v).fresh < window := by simp [keep, htwo, window]
    rw [if_neg hthree, if_pos hlast]
    refine ⟨⟨?_, (rtake_zero ..).symm⟩, ?_⟩
    · simp
      omega
    · rw [htwo] at hkept hlen
      obtain ⟨a, b, hab⟩ := length_eq_two.mp hlen
      have hrtake : (xs ++ [v]).rtake 3 = [a, b, v] := by
        rw [rtake_concat_succ, ← htwo, ← h.samples, htwo, hab]
        rfl
      have hmean : (w.keep v).samples.take window = [a, b, v] := hkept.trans hrtake
      refine ⟨a, b, v, hrtake, ?_⟩
      rw [hmean]
      rfl
  · have hfew : (w.keep v).fresh < window := by simp [keep, window]; omega
    rw [if_pos hfew, if_neg hlast]
    refine ⟨⟨?_, hkept⟩, rfl⟩
    simp [keep]
    omega

end

def accepted (taken : List Instant) : List Float := (taken.map Instant.volts).filter credible

theorem accepted_append (taken : List Instant) (i : Instant) :
    accepted (taken ++ [i]) = accepted taken ++ if credible i.volts then [i.volts] else [] := by
  simp [accepted, filter_append, filter_singleton]

theorem last_take (w : BatteryWatch) (v : Float) : (w.take v).last = w.last := by
  unfold take publish keep
  split <;> split <;> rfl

theorem holds_run (past : List Instant) :
    Holds (accepted (sampled {} past)) (past.foldl next {}) ∧
      ∀ i ∈ (sampled {} past).getLast?, (past.foldl next {}).last = i.clock := by
  induction past using reverseRecOn with
  | nil => exact ⟨⟨rfl, rfl⟩, nofun⟩
  | append_singleton past i ih =>
    obtain ⟨hheld, hlast⟩ := ih
    rw [sampled_append, foldl_append, foldl_cons, foldl_nil]
    generalize past.foldl next {} = w at hheld hlast ⊢
    unfold next
    split
    · have hheld : Holds (accepted (sampled {} past)) { w with last := i.clock } := { hheld with }
      refine ⟨?_, fun j hj => ?_⟩
      · rw [accepted_append]
        cases hv : credible i.volts with
        | true => exact (hheld.take_accepted hv).1
        | false =>
          rw [hheld.take_rejected hv, if_neg Bool.false_ne_true, append_nil]
          exact hheld
      · rw [last_take, getLast?_concat] at *
        cases hj
        rfl
    · rw [append_nil]
      exact ⟨hheld, hlast⟩

/-- Whatever the clock and the battery show, nothing is sampled while it is not time, and a sample
that is not credible changes nothing. Every third one that is credible publishes the mean of the
last three, and no other. Two samples are at least a second apart, unless the sum of the time of the
first and a second was rounded down, and the second one is taken at just that time. -/
theorem publishes_mean_of_three {s : Site} (hs : s.rig.pendingFaults ≤ 0) (hnew : s.watch = {})
    (past : List Instant) (next : Instant) :
    let w := (Op.runAll Instant.pass past s).watch
    let w' := (Op.runAll Instant.pass (past ++ [next]) s).watch
    let xs := accepted (sampled {} past)
    if w.isDue next.clock then
      (credible next.volts = false → w' = { w with last := next.clock }) ∧
      (credible next.volts = true →
        if 3 ∣ xs.length + 1 then
          ∃ a b c, (xs ++ [next.volts]).rtake 3 = [a, b, c] ∧ w'.voltage = (a + b + c) / 3
        else w'.voltage = w.voltage) ∧
      ∀ i ∈ (sampled {} past).getLast?, i.clock.isFinite = true → next.clock.isFinite = true →
        (amount i.clock + 1 ≤ amount next.clock ↔
          (amount next.clock = amount (i.clock + 1) → amount i.clock + 1 ≤ amount (i.clock + 1)))
    else w' = w := by
  intro w w' xs
  obtain ⟨hheld, hlast⟩ := holds_run past
  have hw : w = past.foldl BatteryWatch.next {} := by
    rw [← hnew]
    exact watch_runAll hs past
  have hw' : w' = w.next next := by
    unfold w'
    rw [watch_runAll hs, foldl_append, hnew, ← hw]
    rfl
  rw [← hw] at hheld hlast
  unfold BatteryWatch.next at hw'
  split
  · rename_i hdue
    rw [if_pos hdue] at hw'
    have hheld' : Holds xs { w with last := next.clock } := { hheld with }
    refine ⟨fun hv => hw'.trans (hheld'.take_rejected hv), fun hv => ?_, fun i hi hfinite hnow => ?_⟩
    · rw [hw']
      exact (hheld'.take_accepted hv).2
    · have hone : amount 1 = 1 := by decide +kernel
      have hsum := isRounded_add_of_small hfinite (y := 1) rfl (by rw [hone]; norm_num)
      have hle : i.clock + 1 ≤ next.clock := by
        rw [← hlast i hi]
        exact of_decide_eq_true hdue
      have hle := amount_le_of_le hsum.isFinite hnow hle
      rw [hone] at hsum
      refine ⟨fun h heq => heq ▸ h, fun h => ?_⟩
      by_contra hsoon
      have heq := le_antisymm (hsum.rounds.ge _ (.amount hnow) (not_le.mp hsoon).le) hle
      exact hsoon (heq ▸ h heq)
  · rename_i hdue
    rw [hw', if_neg hdue]

/-- Two samples are taken, less than a second apart. -/
theorem samples_too_close :
    let i : Instant := ⟨2147483647.03, .int 7400⟩
    let j : Instant := ⟨2147483648.0299997, .int 7400⟩
    sampled {} [i, j] = [i, j] ∧ amount j.clock < amount i.clock + 1 := by
  intro i j
  have hi : isDue {} i.clock = true := by decide +kernel
  have hj : isDue (next {} i) j.clock = true := by decide +kernel
  have hfirst : amount i.clock = 9007199250672517 / 4194304 := by decide +kernel
  have hsecond : amount j.clock = 2251799813716705 / 1048576 := by decide +kernel
  refine ⟨?_, by rw [hfirst, hsecond]; norm_num⟩
  rw [sampled, if_pos hi, sampled, if_pos hj]
  rfl

/-- Of four samples one is not credible, and the third of the others publishes their mean. -/
theorem publishes_mean_of_seven :
    let i (clock : Float) (charge : Int) : Instant := ⟨clock, .int charge⟩
    let past := [i 1000 6000, i 1001.5 9000, i 1002.5 7000]
    (Op.runAll Instant.pass (past ++ [i 1003.75 8000]) ⟨{}, {}⟩).watch.voltage = 7 := by
  intro i past
  have hw : (Op.runAll Instant.pass past ⟨{}, {}⟩).watch = past.foldl next {} :=
    watch_runAll (by decide) past
  have h := publishes_mean_of_three (s := ⟨{}, {}⟩) (by decide) rfl past (i 1003.75 8000)
  rw [hw] at h
  have hdue : isDue (past.foldl next {}) 1003.75 = true := by decide +kernel
  have hxs : accepted (sampled {} past) = [6, 7] := by decide +kernel
  obtain ⟨-, hmean, -⟩ := (if_pos hdue).mp h
  rw [hxs] at hmean
  obtain ⟨a, b, c, habc, hvoltage⟩ := hmean (by decide +kernel)
  cases habc
  exact hvoltage.trans (by decide +kernel)

end Rover.BatteryWatch
