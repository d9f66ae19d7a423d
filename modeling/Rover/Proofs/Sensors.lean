import Rover.Proofs.Executor.Clock

/-!
# The report of the sensors

While no transfer fails and the line sensor gives whole numbers, the report on all sensors is made,
and it can be put into words. Asking the sensors takes no time and sends nothing to the cloud.

Every entry of the report is about a reading of its own. The entries fit together exactly when the
readings behind them do.
-/

namespace Rover

open Rig

variable (r : Rig) (v : Value)

/-! ## What the sensors say -/

namespace Feed

def skip (f : Feed) : ℕ → Feed
  | 0 => f
  | n + 1 => (f.skip n).next.2

def reading (f : Feed) (n : ℕ) : Value := (f.skip n).next.1

def Whole (f : Feed) : Prop := ∀ v ∈ f.now :: f.later, ∃ n, v.integer? = some n

theorem Whole.next {f : Feed} (h : f.Whole) : (∃ n, f.next.1.integer? = some n) ∧ f.next.2.Whole := by
  obtain ⟨now, later⟩ := f
  refine ⟨?_, ?_⟩
  · cases later <;> exact h now List.mem_cons_self
  · cases later with
    | nil => exact h
    | cons v rest => exact fun w hw => h w (List.mem_cons_of_mem _ hw)

theorem Whole.skip {f : Feed} (h : f.Whole) (n : ℕ) : (f.skip n).Whole := by
  induction n with
  | zero => exact h
  | succ n ih => exact ih.next.2

end Feed

/-- Since it was `first`, the rig has been asked `i` times for the distance, `j` times for the line
and `k` times for the voltage, and it has neither waited nor sent anything. -/
structure Rig.Asked (first : Rig) (i j k : ℕ) (r : Rig) : Prop where
  faults : r.pendingFaults ≤ 0
  sonar : r.sonar = first.sonar.skip i
  line : r.line = first.line.skip j
  battery : r.battery = first.battery.skip k
  clock : r.clock = first.clock
  sent : r.sent = first.sent

variable {r₀ : Rig} {i j k : ℕ}

namespace Rig

theorem Asked.emit {r : Rig} {e : Event} (he : e.sentText? = none) (h : Asked r₀ i j k r) :
    Asked r₀ i j k { r with events := r.events.push e } := by
  refine { h with sent := ?_ }
  rw [sent_push, he, ← h.sent]
  exact List.append_nil _

theorem returns_debug (text : String) : Returns (Asked r₀ i j k) () (Asked r₀ i j k) (debug text) :=
  .modify fun _ h => { h with }

theorem word_bounds : 0 ≤ word v ∧ word v < 65536 := by
  unfold word
  omega

end Rig

open Rig (Asked returns_debug)

/-! ## The sonar -/

namespace Sonar

def echo (r : Rig) : ℕ :=
  if r.pendingFaults ≤ 0 then (min (word r.sonar.next.1) farthest).toNat else noAnswer.toNat

def listened (r : Rig) : Rig :=
  if r.pendingFaults ≤ 0 then
    { r with sonar := r.sonar.next.2, events := r.events.push (.frame sonarAddress [0]) }
  else r.failed

theorem echo_le : echo r ≤ 99999 := by
  have hfarthest : farthest = 5000 := rfl
  unfold echo
  split
  · omega
  · decide

theorem wp_getDistance {Q : Value → Rig → Prop} {E : Exit → Rig → Prop} {r : Rig} :
    wp getDistance Q E r ↔ Q (.int (echo r)) (listened r) := by
  have hbytes : bytesOf [.int 0] = .ok [0] := rfl
  unfold getDistance echo listened
  rw [wp_guarded, wp_bind]
  by_cases hcalm : r.pendingFaults ≤ 0
  · have hword := word_bounds r.sonar.next.1
    have hfarthest : farthest = 5000 := rfl
    rw [wp_writeFrame hcalm, hbytes, if_pos hcalm, if_pos hcalm, Int.toNat_of_nonneg (by omega)]
    unfold readSonar
    simp only [wp_bind]
    rw [wp_meetFault (by exact hcalm)]
    rfl
  · rw [if_neg hcalm, if_neg hcalm]
    unfold writeFrame
    rw [wp_ok_bind hbytes, wp_bind, wp_meetFault_iff, if_pos (by omega)]
    rfl

def distanceOf (v : Value) : ℕ := (min (word v) farthest).toNat

theorem distanceOf_le : distanceOf v ≤ 5000 := by
  have hfarthest : farthest = 5000 := rfl
  unfold distanceOf
  omega

theorem returns_getDistance :
    Returns (Asked r₀ i j k) (.int (distanceOf (r₀.sonar.reading i))) (Asked r₀ (i + 1) j k)
      getDistance := by
  intro r hr
  rw [wp_getDistance, echo, listened, if_pos hr.faults, if_pos hr.faults, hr.sonar]
  exact ⟨rfl, { hr.emit (e := .frame sonarAddress [0]) rfl with sonar := rfl }⟩

end Sonar

def centimetres (n : ℕ) : Value := .float (nearestInt n / 10)

theorem div_reading {n : ℕ} (hn : n ≤ 99999) {x : Float} (hx : (x == 0) = false) :
    Value.div (.int n) (.float x) = .ok (.float (nearestInt n / x)) := by
  obtain ⟨hfin, -⟩ := amount_nearestNat (n := n) (by omega)
  exact Value.int_div_float (isInf_of_isFinite hfin) hx

/-! ## The battery -/

namespace Board

def chargeOf (v : Value) : ℕ := (word v).toNat

theorem chargeOf_lt : chargeOf v < 65536 := by
  have hword := word_bounds v
  unfold chargeOf
  omega

theorem returns_getBattery :
    Returns (Asked r₀ i j k) (.int (chargeOf (r₀.battery.reading k))) (Asked r₀ i j (k + 1))
      getBattery := by
  intro r hr
  have hbytes : bytesOf [.int 0] = .ok [0] := rfl
  refine wp_twice ?_
  unfold readBattery chargeOf
  rw [wp_bind, wp_writeFrame hr.faults, hbytes, Int.toNat_of_nonneg (word_bounds _).1]
  simp only [wp_bind]
  rw [wp_meetFault (by exact hr.faults), Feed.reading, ← hr.battery]
  exact ⟨rfl, { hr.emit (e := .frame boardAddress [0]) rfl with
    battery := congrArg (·.next.2) hr.battery }⟩

end Board

def volts (n : ℕ) : Value := .float (nearestInt n / 1000)

/-! ## The line -/

namespace LineSensor

def eyesOf (v : Value) : List Bool :=
  [1, 2, 4, 8].map fun bit => decide (0 < Value.intAnd (v.integer?.getD 0) bit)

theorem sees_whole {v : Value} {n : Int} (h : v.integer? = some n) (bit : Int) :
    sees v bit = .ok (decide (0 < Value.intAnd n bit)) := by
  have hand : v.bitAnd (.int bit) = .ok (.int (Value.intAnd n bit)) := by
    cases v <;> cases h <;> rfl
  unfold sees
  rw [hand]
  exact Value.int_greater_int _ _

theorem returns_read (hline : r₀.line.Whole) :
    Returns (Asked r₀ i j k) (eyesOf (r₀.line.reading j)) (Asked r₀ i (j + 1) k) read := by
  obtain ⟨n, hn⟩ := (hline.skip j).next.1
  have hread : Returns (Asked r₀ i j k) (r₀.line.reading j) (Asked r₀ i (j + 1) k)
      readLine := by
    intro r hr
    unfold readLine
    simp only [wp_bind]
    rw [wp_meetFault hr.faults, Feed.reading, ← hr.line]
    exact ⟨rfl, { hr with line := congrArg (·.next.2) hr.line }⟩
  refine hread.bind ?_
  unfold eyesOf
  rw [Feed.reading, hn]
  refine .except_bind (sees_whole hn 1) (.except_bind (sees_whole hn 2) ?_)
  exact .except_bind (sees_whole hn 4) (.except_bind (sees_whole hn 8) (.pure _))

end LineSensor

open Sonar (distanceOf)
open Board (chargeOf)
open LineSensor (eyesOf)

/-! ## The report -/

namespace Sensors

structure Report where
  distance : Value
  distanceCm : Value
  eyes : List Bool
  onLine : Bool
  left : Bool
  right : Bool
  crossing : Bool
  lost : Bool
  voltage : Value
  low : Bool

def Report.written (s : Report) : Value :=
  record [
    ("ultrasonic", record [("distance_mm", s.distance), ("distance_cm", s.distanceCm)]),
    ("line_follower", record [
      ("sensors", .list (s.eyes.map .bool)), ("on_line", .bool s.onLine), ("left", .bool s.left),
      ("right", .bool s.right), ("intersection", .bool s.crossing), ("lost", .bool s.lost)]),
    ("battery", record [("voltage", s.voltage), ("low", .bool s.low)])]

/-- The entries are about one and the same moment. -/
structure Report.Consistent (s : Report) : Prop where
  distanceCm : s.distance.div (.float 10) = .ok s.distanceCm
  onLine : s.onLine = (eye s.eyes 1 && eye s.eyes 2)
  left : s.left = eye s.eyes 0
  right : s.right = eye s.eyes 3
  crossing : s.crossing = s.eyes.all id
  lost : s.lost = !s.eyes.any id
  low : s.voltage.less (.float 3.5) = .ok s.low

def report (r : Rig) : Report :=
  let eyes (n : ℕ) := eyesOf (r.line.reading n)
  { distance := .int (distanceOf (r.sonar.reading 0))
    distanceCm := centimetres (distanceOf (r.sonar.reading 1))
    eyes := eyes 0
    onLine := eye (eyes 1) 1 && eye (eyes 1) 2
    left := eye (eyes 2) 0
    right := eye (eyes 3) 3
    crossing := (eyes 4).all id
    lost := !(eyes 5).any id
    voltage := volts (chargeOf (r.battery.reading 0))
    low := decide (chargeOf (r.battery.reading 1) < 3500) }

theorem returns_distance :
    Returns (Asked r₀ i j k) (.int (distanceOf (r₀.sonar.reading i))) (Asked r₀ (i + 1) j k)
      distance :=
  Sonar.returns_getDistance.bind (.bind (returns_debug _) (.pure _))

theorem returns_distanceCm :
    Returns (Asked r₀ i j k) (centimetres (distanceOf (r₀.sonar.reading i))) (Asked r₀ (i + 1) j k)
      distanceCm := by
  have hle := Sonar.distanceOf_le (r₀.sonar.reading i)
  exact returns_distance.bind (.ofExcept (div_reading (by omega) rfl))

theorem returns_line (hline : r₀.line.Whole) :
    Returns (Asked r₀ i j k) (eyesOf (r₀.line.reading j)) (Asked r₀ i (j + 1) k) line :=
  (LineSensor.returns_read hline).bind (.bind (returns_debug _) (.pure _))

theorem returns_voltage :
    Returns (Asked r₀ i j k) (volts (chargeOf (r₀.battery.reading k))) (Asked r₀ i j (k + 1))
      voltage :=
  have hlt := Board.chargeOf_lt (r₀.battery.reading k)
  Board.returns_getBattery.bind (.except_bind (div_reading (by omega) rfl)
    (.bind (returns_debug _) (.pure _)))

theorem volts_less {n : ℕ} (hn : n < 65536) :
    (volts n).less (.float 3.5) = .ok (decide (n < 3500)) := by
  have hlim : (3.5 : Float) = nearestInt (3500 : ℕ) / nearestInt (1000 : ℕ) := rfl
  have hmono := strictMonoOn_quotient (n := 1000) (by decide) (by decide)
  change Except.ok (decide (nearestInt n / nearestInt (1000 : ℕ) < 3.5)) = _
  rw [hlim, decide_eq_decide.mpr]
  rw [lt_iff_amount (isRounded_quotient (by omega) (by decide) (by decide)).isFinite
    (isRounded_quotient (by decide) (by decide) (by decide)).isFinite]
  exact hmono.lt_iff_lt hn (by decide)

theorem returns_lowBattery :
    Returns (Asked r₀ i j k) (.bool (decide (chargeOf (r₀.battery.reading k) < 3500)))
      (Asked r₀ i j (k + 1)) lowBattery :=
  returns_voltage.bind (.except_bind (volts_less (Board.chargeOf_lt _)) (.pure _))

theorem returns_all (hline : r₀.line.Whole) :
    Returns (Asked r₀ 0 0 0) (report r₀).written (Asked r₀ 2 6 2) all := by
  have asked {α : Type} (f : List Bool → α) (n : ℕ) : Returns (Asked r₀ 2 n 0)
      (f (eyesOf (r₀.line.reading n))) (Asked r₀ 2 (n + 1) 0) (do return f (← line)) :=
    (returns_line hline).bind (.pure _)
  refine returns_distance.bind (returns_distanceCm.bind ((returns_line hline).bind ?_))
  refine .bind (asked _ 1) (.bind (asked _ 2) (.bind (asked _ 3) (.bind (asked _ 4) ?_)))
  exact .bind (asked _ 5) (returns_voltage.bind (returns_lowBattery.bind (.pure _)))

theorem report_writable : Writable (report r).written := by
  have hdist : Writable (report r).distance := by
    have hle := Sonar.distanceOf_le (r.sonar.reading 0)
    exact Json.writable_int_of_lt (hle.trans_lt (by decide +kernel))
  have heyes : Writable (.list ((report r).eyes.map .bool)) := by
    rw [Json.writable_list_iff]
    intro v hv
    obtain ⟨b, -, rfl⟩ := List.mem_map.mp hv
    exact writable_bool b
  have hcm : Writable (report r).distanceCm := Json.writable_float _
  have hvoltage : Writable (report r).voltage := Json.writable_float _
  simp [Report.written, writable_record_iff, hdist, heyes, hcm, hvoltage, writable_bool]

theorem centimetres_inj {m n : ℕ} (hm : m ≤ 5000) (hn : n ≤ 5000) :
    centimetres m = centimetres n ↔ m = n := by
  refine ⟨fun h => ?_, congrArg _⟩
  have hmono := strictMonoOn_quotient (n := 10) (by decide) (by decide)
  exact hmono.injOn (show m < 65536 by omega) (show n < 65536 by omega)
    (congrArg amount (Value.float.inj h))

/-- The later readings of each sensor answer what is asked of them as the first one does. -/
structure Agree (r : Rig) : Prop where
  distance : distanceOf (r.sonar.reading 1) = distanceOf (r.sonar.reading 0)
  onLine : (eye (eyesOf (r.line.reading 1)) 1 && eye (eyesOf (r.line.reading 1)) 2) =
    (eye (eyesOf (r.line.reading 0)) 1 && eye (eyesOf (r.line.reading 0)) 2)
  left : eye (eyesOf (r.line.reading 2)) 0 = eye (eyesOf (r.line.reading 0)) 0
  right : eye (eyesOf (r.line.reading 3)) 3 = eye (eyesOf (r.line.reading 0)) 3
  crossing : (eyesOf (r.line.reading 4)).all id = (eyesOf (r.line.reading 0)).all id
  lost : (eyesOf (r.line.reading 5)).any id = (eyesOf (r.line.reading 0)).any id
  low : chargeOf (r.battery.reading 1) < 3500 ↔ chargeOf (r.battery.reading 0) < 3500

theorem consistent_iff : (report r).Consistent ↔ Agree r := by
  have hdist : (report r).distance.div (.float 10) = .ok (report r).distanceCm ↔
      distanceOf (r.sonar.reading 1) = distanceOf (r.sonar.reading 0) := by
    have hle n := Sonar.distanceOf_le (r.sonar.reading n)
    change Value.div (.int (distanceOf (r.sonar.reading 0))) (.float 10) = .ok (centimetres _) ↔ _
    rw [div_reading ((hle 0).trans (by decide)) rfl, ← centimetres, Except.ok.injEq,
      centimetres_inj (hle 0) (hle 1), eq_comm]
  have hlo : (report r).voltage.less (.float 3.5) = .ok (report r).low ↔
      (chargeOf (r.battery.reading 1) < 3500 ↔ chargeOf (r.battery.reading 0) < 3500) := by
    change (volts (chargeOf (r.battery.reading 0))).less (.float 3.5) = .ok (decide _) ↔ _
    rw [volts_less (Board.chargeOf_lt _), Except.ok.injEq, decide_eq_decide]
    exact Iff.comm
  constructor
  · intro h
    exact ⟨hdist.mp h.distanceCm, h.onLine, h.left, h.right, h.crossing,
      Bool.not_inj h.lost, hlo.mp h.low⟩
  · intro h
    exact ⟨hdist.mpr h.distance, h.onLine, h.left, h.right, h.crossing,
      congrArg (!·) h.lost, hlo.mpr h.low⟩

theorem all_eq (hcalm : r.pendingFaults ≤ 0) (hline : r.line.Whole) :
    ∃ t, all r = .ok (report r).written t ∧ Asked r 2 6 2 t := by
  obtain ⟨_, t, heq, rfl, ht⟩ :=
    wp_false_iff.mp (returns_all hline r ⟨hcalm, rfl, rfl, rfl, rfl, rfl⟩)
  exact ⟨t, heq, ht⟩

/-- The report is always made, every entry from a reading of its own. It shows one moment exactly
when the readings agree. -/
theorem report_of_readings (r : Rig) (hcalm : r.pendingFaults ≤ 0) (hline : r.line.Whole) :
    (∃ t, all r = .ok (report r).written t ∧ Asked r 2 6 2 t) ∧ ((report r).Consistent ↔ Agree r) :=
  ⟨all_eq r hcalm hline, consistent_iff r⟩

/-- Nothing the sensors say is the same twice, yet the report shows the first moment. -/
theorem report_of_readings_changing : (report {
      sonar := ⟨.int 5000, [.int 6000]⟩
      line := ⟨.int 6, [.int 15, .int 2, .int 0, .int 1, .int 4]⟩
      battery := ⟨.int 3500, [.int 7400]⟩ }).Consistent := by
  refine (report_of_readings _ (by decide) ?_).2.mpr ?_
  · simp [Feed.Whole, Value.integer?]
  · constructor <;> decide

/-- Something has come nearer between the two measurements of its distance. -/
theorem report_mixes_moments : ∃ r s t, r.pendingFaults ≤ 0 ∧ r.line.Whole ∧
    all r = .ok (Report.written s) t ∧ ¬ s.Consistent := by
  have hline : Feed.Whole ⟨.int 6, []⟩ := by simp [Feed.Whole, Value.integer?]
  obtain ⟨t, ht, -⟩ := all_eq { sonar := ⟨.int 200, [.int 100]⟩ } (by decide) hline
  refine ⟨_, _, t, by decide, hline, ht, fun h => ?_⟩
  exact absurd ((consistent_iff _).mp h).distance (by decide)

end Sensors

end Rover
