import Mathlib.Data.List.DropRight
import Rover.Capture
import Rover.Proofs.Rig
import Rover.Vision

/-!
# Readers of the camera

The vehicle's own reader ends by itself after ten readings in a row that failed, and leaves the flag
up that says that it is meant to run. Only a release lowers it, so that without one no reader is
started again. The reader that the games rely on leaves a picture up when the camera is closed.
-/

namespace Rover

open List Rig

open Rig in
theorem wp_readCamera {Q : Option Scene → Rig → Prop} {E : Exit → Rig → Prop} {r : Rig} :
    wp readCamera Q E r ↔ match r.shots.headD .missed with
      | .scene s => Q (some s) { r with shots := r.shots.tail }
      | .missed => Q none { r with shots := r.shots.tail }
      | .broken => E (.fault .camera) { r with shots := r.shots.tail } := by
  unfold readCamera
  rw [wp_bind, wp_get]
  rcases hshots : r.shots with _ | ⟨_ | _ | _, rest⟩
  · rw [wp_pure]
    change _ ↔ Q none { r with shots := [] }
    rw [← hshots]
  all_goals rfl

namespace Vision

theorem flag_onRig {α : Type} {b : Bool} (op : Op Rig α) :
    Keeps (fun v => v.vision.running = b) (Vehicle.onRig op) :=
  .onPart (fun _ _ => trivial) (fun _ _ hv _ => hv) (keeps_true op)

theorem flag_readLoop (fuel failures : Nat) :
    Keeps (fun v => v.vision.running) (readLoop fuel failures) := by
  induction fuel generalizing failures with
  | zero => exact .pure _
  | succ fuel ih =>
    unfold readLoop
    refine .bind .get fun v => .ite (.pure _) ?_
    refine .bind (.attempt (.bind .get fun v => ?_)) fun r => ?_
    · cases v.vision.device with
      | none => exact .fail _
      | some _ => exact flag_onRig _
    · cases r with
      | ok s =>
        cases s with
        | none => exact .ite (flag_onRig _) (.bind (flag_onRig _) fun _ => ih _)
        | some s => exact .bind (.modify fun _ hv => hv) fun _ => .bind (flag_onRig _) fun _ => ih _
      | error f =>
        refine .bind (flag_onRig _) fun _ => .ite (flag_onRig _) ?_
        exact .bind (flag_onRig _) fun _ => ih _

theorem flag_set (b : Bool) {f : Vehicle → Vehicle} {op : Op Vehicle Unit}
    (hf : ∀ v, (f v).vision.running = b) (hop : Keeps (fun v => v.vision.running = b) op)
    (v : Vehicle) : ((do modify f; op).after v).vision.running = b := hop.after (hf v)

/-- What can be done about the reader. -/
inductive Act where
  | start | read | release
deriving DecidableEq

def Act.perform : Act → Op Vehicle Unit
  | start => startReader
  | read => runReader
  | release => Vision.release

theorem startReader_apply (v : Vehicle) : startReader v = if v.vision.running then .ok () v else (do
      modify fun v => { v with vision := { v.vision with running := true, reader := true } }
      info "后台摄像头读取线程已启动" : Op Vehicle Unit) v := by
  have happly : startReader v = (if !v.vision.running then (do
      modify fun v => { v with vision := { v.vision with running := true, reader := true } }
      info "后台摄像头读取线程已启动" : Op Vehicle Unit) else pure ()) v := rfl
  rw [happly]
  cases v.vision.running <;> rfl

theorem running_perform (a : Act) (v : Vehicle) :
    (a.perform.after v).vision.running = decide (a ≠ .release) := by
  cases a with
  | start =>
    show (startReader.after v).vision.running
    unfold Op.after
    rw [startReader_apply]
    cases h : v.vision.running with
    | true => exact h
    | false => rfl
  | read =>
    -- the flag is raised before the first reading, and no exit of the loop lowers it
    refine flag_set true (fun _ => rfl) (.bind .get fun _ => ?_) v
    exact .bind (flag_readLoop _ _) fun _ => flag_onRig _
  | release =>
    refine flag_set false (fun _ => rfl) (.bind .get fun _ => ?_) v
    refine .when (flag_onRig _) (.bind .get fun v => ?_)
    cases v.vision.device with
    | none => exact .modify fun _ hv => hv
    | some i =>
      refine .bind (flag_onRig _) fun _ => .bind (.modify fun _ hv => hv) fun _ => ?_
      exact .bind (flag_onRig _) fun _ => .modify fun _ hv => hv

/-- The flag shows what was done last. -/
theorem running_runAll (a : Act) (course : List Act) (v : Vehicle) :
    (Op.runAll Act.perform (a :: course) v).vision.running =
      decide (course.getLast?.getD a ≠ .release) := by
  induction course generalizing a v with
  | nil => exact running_perform a v
  | cons b rest ih =>
    rw [getLast?_cons]
    exact ih b (a.perform.after v)

/-- A start that starts a reader says so. -/
def Starts (v : Vehicle) : Prop :=
  (startReader.after v).rig.log = v.rig.log.push ⟨.info, "后台摄像头读取线程已启动"⟩

theorem starts_iff (v : Vehicle) : Starts v ↔ v.vision.running = false := by
  unfold Starts Op.after
  rw [startReader_apply]
  cases v.vision.running with
  | false => exact iff_of_true rfl rfl
  | true => simp

/-- Whatever is done after a reader has ended, a start starts a new one exactly if the last of it
was a release. -/
theorem reader_restarts_iff (v : Vehicle) (course : List Act) :
    Starts (Op.runAll Act.perform course (runReader.after v)) ↔
      course.getLast? = some .release := by
  rw [starts_iff]
  show (Op.runAll Act.perform (.read :: course) v).vision.running = false ↔ _
  rw [running_runAll]
  cases course.getLast? <;> simp

theorem reader_not_restarted : ¬ Starts (Op.runAll Act.perform [.read] {}) := by
  rw [starts_iff, running_runAll]
  decide

/-! ## How long the reader runs -/

def scene? : Shot → Option Scene
  | .scene s => some s
  | _ => none

def pause : Shot → Value
  | .scene _ => .float 0.03
  | .missed => .float 0.1
  | .broken => .float 0.5

section
variable (shots : List Shot)

/-- The outcome of a reading: when no shot is left, it fails. -/
def reading (n : Nat) : Shot := shots.getD n .missed

def readings (n : Nat) : List Shot := (range n).map (reading shots)

/-- How many of the last readings in a row have failed. -/
def streak (n : Nat) : Nat := ((readings shots n).rtakeWhile (scene? · |>.isNone)).length

theorem readings_succ (n : Nat) :
    readings shots (n + 1) = readings shots n ++ [reading shots n] := by
  simp [readings, range_succ]

theorem streak_succ (n : Nat) : streak shots (n + 1) =
    if (scene? (reading shots n)).isNone then streak shots n + 1 else 0 := by
  unfold streak
  rw [readings_succ, rtakeWhile_concat]
  split <;> simp

/-- Once no shot is left, every reading fails. -/
theorem le_length_add_streak (n : Nat) : n ≤ shots.length + streak shots n := by
  induction n with
  | zero => omega
  | succ n ih =>
    rw [streak_succ]
    by_cases hn : n < shots.length
    · split <;> omega
    · have hmissed : reading shots n = .missed := by simp [reading, not_lt.mp hn]
      rw [hmissed]
      change n + 1 ≤ shots.length + (streak shots n + 1)
      omega

end

structure Read (v : Vehicle) (n : Nat) (w : Vehicle) : Prop where
  running : w.vision.running
  device : w.vision.device.isSome
  limits : w.rig.Unlimited
  shots : w.rig.shots = v.rig.shots.drop n
  count : w.vision.count = v.vision.count + ((readings v.rig.shots n).filterMap scene?).length
  frame : w.vision.frame = ((readings v.rig.shots n).filterMap scene?).getLast?.or v.vision.frame

def Slept (v : Vehicle) (taken : List Shot) (w : Vehicle) : Prop :=
  w.rig.events.toList = v.rig.events.toList ++ taken.map (.slept ∘ pause)

def Ended (v : Vehicle) (n : Nat) (w : Vehicle) : Prop :=
  10 ≤ streak v.rig.shots n ∧ (∀ m < n, streak v.rig.shots m < 10) ∧ Read v n w ∧
    Slept v (readings v.rig.shots n).dropLast w

section
variable {v w : Vehicle} {n : Nat}

theorem Read.logged (h : Read v n w) (log : Array LogRecord) : Read v n { w with rig.log := log } :=
  { h with limits := { h.limits with } }

theorem Read.succ (h : Read v n w) :
    let s := scene? (reading v.rig.shots n)
    Read v (n + 1) { w with
      rig.shots := w.rig.shots.tail
      vision := { w.vision with
        frame := s.or w.vision.frame, count := w.vision.count + s.toList.length } } := by
  intro s
  have hscenes : (readings v.rig.shots (n + 1)).filterMap scene? =
      (readings v.rig.shots n).filterMap scene? ++ s.toList := by
    rw [readings_succ, filterMap_append]
    unfold s
    cases hs : scene? (reading v.rig.shots n) <;> simp [hs]
  refine ⟨h.running, h.device, { h.limits with }, ?_, ?_, ?_⟩
  · change w.rig.shots.tail = _
    rw [h.shots, tail_drop]
  · rw [hscenes, length_append, ← Nat.add_assoc, ← h.count]
  · rw [hscenes, h.frame]
    cases s <;> simp

theorem readLoop_ends {fuel : Nat} (hfuel : v.rig.shots.length + 10 ≤ fuel + n)
    (hfew : ∀ m ≤ n, streak v.rig.shots m < 10) (hw : Read v n w)
    (hslept : Slept v (readings v.rig.shots n) w) :
    wp (readLoop fuel (streak v.rig.shots n)) (fun _ x => ∃ n, Ended v n x) never w := by
  induction fuel generalizing n w with
  | zero =>
    have hstreak := le_length_add_streak v.rig.shots n
    have hless := hfew n le_rfl
    omega
  | succ fuel ih =>
    have hnext := readings_succ v.rig.shots n
    have hstreak := streak_succ v.rig.shots n
    have hread := hw.succ
    have hsleep (s : Shot) : ∃ t, sleepLength (pause s) = .ok t := by
      cases s <;> exact ⟨_, sleepLength_float rfl (by decide +kernel)⟩
    have hgoes {s : Shot} (hs : reading v.rig.shots n = s) {u : Vehicle} (hu : Read v (n + 1) u)
        (hslept : Slept v (readings v.rig.shots n) u) (hless : streak v.rig.shots (n + 1) < 10) :
        wp (do sleep (pause s); readLoop fuel (streak v.rig.shots (n + 1)) : Op Vehicle Unit)
          (fun _ x => ∃ n, Ended v n x) never u := by
      obtain ⟨t, ht⟩ := hsleep s
      refine (wp_bind ..).mpr ((wp_onPart ..).mpr ((wp_sleep_of_unlimited hu.limits ht).mpr ?_))
      refine ih (by omega) (fun m hm => ?_) { hu with limits := { hu.limits with } } ?_
      · rcases Nat.le_succ_iff.mp hm with hm | rfl
        · exact hfew m hm
        · exact hless
      · change (u.rig.events.push _).toList = _
        rw [Array.toList_push, hslept, hnext, hs, map_append, append_assoc]
        rfl
    have hfails {s : Shot} (hs : reading v.rig.shots n = s) (hnone : scene? s = none)
        (text : String) {u : Vehicle} (hu : Read v (n + 1) u)
        (hslept : Slept v (readings v.rig.shots n) u) :
        wp (if mostFailures ≤ streak v.rig.shots n + 1 then error text
          else do sleep (pause s); readLoop fuel (streak v.rig.shots n + 1) : Op Vehicle Unit)
          (fun _ x => ∃ n, Ended v n x) never u := by
      rw [hs, hnone] at hstreak
      rw [wp_ite, show streak v.rig.shots n + 1 = streak v.rig.shots (n + 1) from hstreak.symm]
      split
      · rename_i hmany
        refine ⟨n + 1, hmany, fun m hm => hfew m (Nat.le_of_lt_succ hm), hu.logged _, ?_⟩
        rw [hnext, dropLast_concat]
        exact hslept
      · rename_i hless
        exact hgoes hs hu hslept (not_le.mp hless)
    have hhead : w.rig.shots.headD .missed = reading v.rig.shots n := by
      rw [hw.shots, reading]
      simp [headD_eq_head?_getD]
    obtain ⟨i, hi⟩ := Option.isSome_iff_exists.mp hw.device
    unfold readLoop
    rw [wp_bind, wp_get, hw.running]
    change wp (Op.attempt _ >>= _) _ _ _
    rw [wp_bind, Op.wp_attempt, wp_bind, wp_get, hi]
    refine (wp_onPart ..).mpr (wp_readCamera.mpr ?_)
    change match w.rig.shots.headD .missed with | .scene s => _ | .missed => _ | .broken => _
    rw [hhead]
    cases hshot : reading v.rig.shots n with
    | scene s =>
      rw [hshot] at hread hstreak
      have h0 : streak v.rig.shots (n + 1) = 0 := hstreak
      have hgoes := hgoes hshot hread hslept (by omega)
      rw [h0] at hgoes
      exact hgoes
    | missed =>
      rw [hshot] at hread
      exact hfails hshot rfl _ hread hslept
    | broken =>
      rw [hshot] at hread
      exact hfails hshot rfl _ (hread.logged _) hslept

/-- A reader that is let run ends after the first ten readings in a row that fail, and not before.
Each picture was counted, the last of them is the frame, and after each reading but the last it
slept, the longer the worse the reading was. -/
theorem reader_ends_after_ten_failures (hdevice : v.vision.device.isSome = true)
    (hlimits : v.rig.Unlimited) :
    ∃ n w, runReader v = .ok () w ∧ 10 ≤ streak v.rig.shots n ∧
      (∀ m < n, streak v.rig.shots m < 10) ∧
      let taken := readings v.rig.shots n
      let scenes := taken.filterMap scene?
      w.rig.shots = v.rig.shots.drop n ∧
      w.vision.count = v.vision.count + scenes.length ∧
      w.vision.frame = scenes.getLast?.or v.vision.frame ∧
      w.rig.events.toList = v.rig.events.toList ++ taken.dropLast.map (.slept ∘ pause) := by
  have hstart : Read v 0 { v with vision.running := true } :=
    ⟨rfl, hdevice, { hlimits with }, rfl, rfl, rfl⟩
  have hreader : wp runReader (fun _ w => ∃ n, Ended v n w) never v := by
    refine (wp_bind ..).mpr ((wp_bind ..).mpr ((wp_bind ..).mpr ?_))
    refine wp_of_total (readLoop_ends (n := 0) ?_ ?_ hstart ?_) fun _ w hw => ?_
    · exact Nat.le_succ _
    · intro m hm
      obtain rfl := Nat.le_zero.mp hm
      exact Nat.zero_lt_succ 9
    · simp [Slept, readings]
    · obtain ⟨n, hmany, hfew, hread, hslept⟩ := hw
      exact ⟨n, hmany, hfew, hread.logged _, hslept⟩
  obtain ⟨_, w, hw, n, hmany, hfew, hread, hslept⟩ := wp_false_iff.mp hreader
  exact ⟨n, w, hw, hmany, hfew, hread.shots, hread.count, hread.frame, hslept⟩

/-- A picture and a broken reading, and then no more. -/
theorem reader_ends_after_ten_failures_one_picture :
    let shots : List Shot := [.scene {}, .broken]
    ∃ w, runReader { rig := { shots }, vision := { device := some 0 } } = .ok () w ∧
      w.vision.count = 1 := by
  intro shots
  obtain ⟨n, w, hw, hmany, hfew, -, hcount, -⟩ := reader_ends_after_ten_failures
    (v := { rig := { shots }, vision := { device := some 0 } }) rfl ⟨rfl, rfl⟩
  change 10 ≤ streak shots n at hmany
  obtain rfl : n = 11 := by
    have hbefore : ∀ m < 11, streak shots m < 10 := by decide
    exact le_antisymm (not_lt.mp fun h => absurd (hfew 11 h) (by decide))
      (not_lt.mp fun h => (hbefore n h).not_ge hmany)
  exact ⟨w, hw, hcount⟩

end

end Vision

/-! ## The camera of the games -/

namespace Capture

section
variable {I : Capture → Prop}

theorem keeps_onRig {α : Type} (op : Op Rig α) : Keeps (fun s => I s.camera) (Studio.onRig op) :=
  .onPart (fun _ _ => trivial) (fun _ _ hs _ => hs) (keeps_true op)

theorem keeps_replaceDevice : Keeps (fun s => I s.camera) replaceDevice := by
  refine .bind .get fun _ => .when (.fail _) (.bind (keeps_onRig _) fun _ => ?_)
  exact .bind (keeps_onRig _) fun _ => .bind (keeps_onRig _) fun _ => .pure _

end

/-- What a reading makes of the frame. One that raises leaves it as it is, and so does a picture
that cannot be developed. -/
def exposed (c : Capture) : Shot → Option Raster
  | .scene scene => (c.develop (.ofScene scene)).toOption.or c.frame
  | .missed => none
  | .broken => c.frame

theorem camera_readOnce (s : Studio) :
    let I (t : Studio) := t.camera = { s.camera with
      frame := s.camera.exposed (s.rig.shots.headD .missed) }
    wp readOnce (fun _ t => I t) (fun _ t => I t) s := by
  refine (wp_bind ..).mpr ((wp_onPart ..).mpr (wp_readCamera.mpr ?_))
  show match s.rig.shots.headD .missed with | .scene _ => _ | .missed => _ | .broken => _
  cases s.rig.shots.headD .missed with
  | scene scene =>
    refine (wp_bind ..).mpr (wp_except_bind (fun picture hok => ?_) fun f herror => ?_)
    · show { s.camera with frame := some picture } = _
      rw [exposed, show s.camera.develop _ = _ from hok]
      rfl
    · show s.camera = _
      rw [exposed, show s.camera.develop _ = _ from herror]
      rfl
  | missed => exact (wp_bind ..).mpr (keeps_replaceDevice (I := (· = _)) |>.wp rfl)
  | broken => rfl

def reads (s : Studio) : Bool := s.camera.asks && s.rig.cameraIsOpen device

theorem camera_turn (s : Studio) : (turn.after s).camera =
    if reads s then { s.camera with frame := s.camera.exposed (s.rig.shots.headD .missed) }
    else s.camera := by
  have hwait (c : Capture) : Keeps (fun t : Studio => t.camera = c)
    (Studio.onRig (sleep (.float 0.01))) := keeps_onRig (I := (· = c)) _
  rw [← wp_after_iff (P := fun t : Studio => t.camera = _)]
  unfold turn reads
  rw [wp_bind, wp_get]
  cases s.camera.asks with
  | false => exact (hwait s.camera).wp rfl
  | true =>
    cases s.rig.cameraIsOpen device with
    | false =>
      have hreplace := keeps_replaceDevice (I := (· = s.camera))
      exact (Op.Preserves.guarded hreplace fun _ => hwait _).wp rfl
    | true =>
      refine (wp_guarded ..).mpr (wp_mono (camera_readOnce s) (fun _ _ ht => ht) fun e t ht => ?_)
      cases e with
      | fault f => exact (hwait _).wp ht
      | ended => exact ht

theorem camera_openWith (corrected : Bool) (s : Studio) :
    ((openWith corrected).after s).camera = if s.rig.cameraMode = .broken then s.camera
      else { s.camera with hasDevice := true, corrected, opened := true } := by
  rw [← wp_after_iff (P := fun t : Studio => t.camera = _)]
  refine (Op.wp_ignoring _).mpr ((wp_bind ..).mpr ((wp_onPart ..).mpr ?_))
  show wp (if s.rig.cameraMode = .broken then _ else _) _ _ _
  rw [wp_ite]
  split <;> rfl

theorem frame_close (s : Studio) : (close.after s).camera.frame = s.camera.frame := by
  have hrig {α : Type} (op : Op Rig α) := keeps_onRig (I := (·.frame = s.camera.frame)) op
  refine Op.Preserves.after (I := fun t : Studio => t.camera.frame = s.camera.frame) ?_ rfl
  refine .guarded (.bind (.modify fun _ ht => ht) fun _ => .bind (hrig _) fun _ => ?_)
    fun _ => .pure _
  refine .bind .get fun _ => .ite (.bind (hrig _) fun _ => .bind (hrig _) fun _ => ?_) ?_
  all_goals exact .modify fun _ ht => ht

inductive Act where
  | open (corrected : Bool)
  | close
  | turn

def Act.perform : Act → Op Studio Unit
  | .open corrected => openWith corrected
  | .close => Capture.close
  | .turn => Capture.turn

/-- The camera, with whether the last reading since it was opened has given a picture. -/
structure Session where
  studio : Studio
  last : Option Bool

def Act.next (a : Act) (q : Session) : Session where
  studio := a.perform.after q.studio
  last := match a with
    | .open _ => if q.studio.rig.cameraMode = .broken then q.last else none
    | .close => none
    | .turn =>
      if reads q.studio then some (q.studio.rig.shots.headD .missed matches .scene _) else q.last

/-- A frame is up only while the camera is open and its last reading gave a picture. -/
def Fresh (q : Session) : Prop :=
  q.studio.camera.frame.isSome → q.studio.camera.opened ∧ q.last = some true

/-- An act that leaves no frame behind from a reading that is over. -/
def Act.Careful (a : Act) (s : Studio) : Prop :=
  s.camera.frame.isSome → match a with
    | .open _ => s.rig.cameraMode = .broken
    | .close => False
    | .turn => reads s → s.rig.shots.headD .missed ≠ .broken

theorem fresh_next_iff (a : Act) {q : Session} (hq : Fresh q) :
    Fresh (a.next q) ↔ a.Careful q.studio := by
  unfold Fresh Act.Careful Act.next
  cases a with
  | «open» corrected =>
    simp only [Act.perform, camera_openWith]
    split
    · exact iff_of_true hq fun _ => ‹_›
    · simp [*]
  | close => simp [Act.perform, frame_close]
  | turn =>
    simp only [Act.perform, camera_turn]
    split
    · rename_i hreads
      have hopened : q.studio.camera.opened := by
        unfold reads asks at hreads
        simp_all
      cases q.studio.rig.shots.headD .missed <;> simp [exposed, *]
    · exact iff_of_true hq fun _ hreads => absurd hreads ‹_›

section
variable (r : Rig) (width height : Value)

/-- What comes of a new camera. -/
def session (course : List Act) : Session :=
  course.foldl (fun q a => a.next q) ⟨⟨r, { width, height }⟩, none⟩

/-- The frame is that of the last reading in the present session all the time exactly if, whenever
there is one, the camera is not closed, not opened anew and no reading of it raises. -/
theorem always_fresh_iff (course : List Act) :
    (∀ n : Nat, Fresh (session r width height (course.take n))) ↔
      ∀ (n : Nat) (a : Act), course[n]? = some a →
        a.Careful (session r width height (course.take n)).studio := by
  have hnext {n : Nat} {a : Act} (ha : course[n]? = some a) :
      session r width height (course.take (n + 1)) =
        a.next (session r width height (course.take n)) := by
    simp [session, take_add_one, ha]
  constructor
  · intro hfresh n a ha
    rw [← fresh_next_iff a (hfresh n), ← hnext ha]
    exact hfresh (n + 1)
  · intro hcareful n
    induction n with
    | zero => exact nofun
    | succ n ih =>
      cases ha : course[n]? with
      | none =>
        rw [take_add_one, ha]
        simpa using ih
      | some a =>
        rw [hnext ha, fresh_next_iff a ih]
        exact hcareful n a ha

end

/-- Closing leaves the frame up. -/
theorem stale_after_close : ¬ Fresh
    (session { shots := [.scene {}] } (.int 640) (.int 480) [.open false, .turn, .close]) :=
  fun h => absurd (h (by decide +kernel)).2 (by decide +kernel)

end Capture

end Rover
