import Rover.Proofs.Board.Motor
import Rover.Proofs.WholePart

/-!
# Records of the servos

A servo is set by an angle or by a pulse width, and both are recorded, one of them computed from the
other. The two computations do not belong together: the pulse width that is computed from an angle
stands for twice this angle, and a question for the angle is answered with the pulse width.
-/

namespace Rover.Board

open List Rig Value

variable {E : Exit → Rig → Prop} {v : Value}

/-! ## Angles and pulse widths -/

def isInt (e : Result Value) (n : Int) : Bool :=
  match e with
  | .ok (.int m) => m == n
  | _ => false

variable {n : Int}

theorem eq_ok_int_of_isInt {e : Result Value} (h : isInt e n) : e = .ok (.int n) := by
  unfold isInt at h
  split at h
  · rw [eq_of_beq h]
  · cases h

theorem amount_factor : amount 0.09 = 6485183463413514 / 72057594037927936 := by decide +kernel

theorem truncate_mul_factor {n : Nat} (hn : n < 2001) (hpart : n * 9 % 100 ≠ 0) :
    wholePart? (nearestInt n * 0.09) = some ((n * 9 / 100 : Nat) : Int) := by
  obtain ⟨hfin, hamt⟩ := amount_nearestNat (n := n) (by omega)
  have hprod := isRounded_mul hfin (y := 0.09) (by decide +kernel)
  rw [hamt, amount_factor] at hprod
  obtain ⟨k, hk⟩ : ∃ k, n * 9 / 100 = k := ⟨_, rfl⟩
  have hlo : (100 * k + 1 : ℚ) ≤ n * 9 := by exact_mod_cast (show 100 * k + 1 ≤ n * 9 by omega)
  have hhi : (n * 9 : ℚ) ≤ 100 * k + 99 := by
    exact_mod_cast (show n * 9 ≤ 100 * k + 99 by omega)
  have hn' : (n : ℚ) ≤ 2000 := by exact_mod_cast (show n ≤ 2000 by omega)
  have hrnd := hprod (by
    norm_num
    linarith)
  -- there is a double between the product and the next whole number
  have hbelow : IsDouble (k + 1 - 1 / 1024) := by
    refine ⟨1024 * k + 1023, -10, ?_, by decide, by norm_num; ring⟩
    rw [abs_of_nonneg (by omega)]
    omega
  have hge := hrnd.rounds.ge _ (isDouble_natCast (n := k) (by omega)) (by linarith)
  have hle := hrnd.rounds.le _ hbelow (by linarith)
  rw [wholePart?_eq_cut hrnd.isFinite, hk]
  refine congrArg some ?_
  unfold cut
  rw [if_neg (not_lt.mpr (le_trans (Nat.cast_nonneg k) hge)), Int.floor_eq_iff]
  push_cast
  exact ⟨hge, by linarith⟩

theorem angleOfPulse_whole :
    ∀ j < 21, isInt (angleOfPulse (.int (500 + 100 * j : Nat))) (9 * j : Nat) := by
  decide +kernel

theorem angleOfPulse_eq (pulse : Int) (hlo : 500 ≤ pulse) (hhi : pulse ≤ 2500) :
    angleOfPulse (.int pulse) = .ok (.int ((pulse - 500) * 9 / 100)) := by
  obtain ⟨n, hn⟩ : ∃ n : Nat, pulse = (500 + n : Nat) := ⟨(pulse - 500).toNat, by omega⟩
  have hsub : pulse - 500 = n := by omega
  -- a product that is whole may be rounded to below it: these few are computed
  by_cases hwhole : n * 9 % 100 = 0
  · obtain ⟨j, hj⟩ : ∃ j, n = 100 * j := ⟨n / 100, by omega⟩
    have hangle : (pulse - 500) * 9 / 100 = (9 * j : Nat) := by omega
    rw [hangle, hn, hj]
    exact eq_ok_int_of_isInt (angleOfPulse_whole j (by omega))
  · refine angleOfPulse_int ?_ ?_
    · rw [hsub]
      exact isInf_of_isFinite (amount_nearestNat (n := n) (by omega)).1
    · rw [hsub]
      exact truncate_mul_factor (by omega) hwhole

theorem pulseOfAngle_isInt :
    ∀ n < 181, isInt (pulseOfAngle (.int (n : Nat))) (500 + 200 * n / 9 : Nat) := by
  decide +kernel

theorem pulseOfAngle_eq (angle : Int) (hlo : 0 ≤ angle) (hhi : angle ≤ 180) :
    pulseOfAngle (.int angle) = .ok (.int (500 + 200 * angle / 9)) := by
  obtain ⟨n, rfl⟩ : ∃ n : Nat, angle = n := ⟨angle.toNat, by omega⟩
  exact eq_ok_int_of_isInt (pulseOfAngle_isInt n (by omega))

/-! ## Orders to one servo -/

theorem bytesOf_int_pair {bytes : List Nat} (h : bytesOf [.int n, v] = .ok bytes) :
    ∃ number byte : Nat, bytes = [number, byte] ∧ n = number ∧ v.integer? = some (byte : Int) := by
  obtain ⟨number, others, rfl, hn, hothers⟩ := bytesOf_cons_eq_ok h
  obtain ⟨byte, nothing, rfl, hbyte, hnothing⟩ := bytesOf_cons_eq_ok hothers
  cases hnothing
  have hnum : some n = some (number : Int) := integer?_of_byteOf hn
  exact ⟨number, byte, rfl, Option.some.inj hnum, integer?_of_byteOf hbyte⟩

theorem frame_of_checkServo {index place register angle : Value} {bytes : List Nat}
    (hcheck : checkServo index = .ok ()) (hplace : index.sub (.int 1) = .ok place)
    (hreg : add (.int 21) place = .ok register)
    (hbytes : bytesOf [register, angle] = .ok bytes) :
    ∃ (i : Fin 6) (k : Nat), index.integer? = some ((i : Int) + 1) ∧ place = .int i ∧
      angle.integer? = some (k : Int) ∧ bytes = [21 + (i : Nat), k] := by
  rcases checkServo_ok_cases hcheck with ⟨i, hidx, hi⟩ | ⟨x, rfl⟩
  · rw [hi] at hplace
    cases hplace
    cases hreg
    obtain ⟨number, k, rfl, hnum, hk⟩ := bytesOf_int_pair hbytes
    have hnum : 21 + (i : Int) = number := hnum
    exact ⟨i, k, hidx, rfl, hk, by rw [show number = 21 + (i : Nat) by omega]⟩
  · -- a number that is not whole gets as far as the frame, but not into it
    cases hplace
    cases hreg
    cases hbytes

theorem twice_of_no_frame {α : Type} {values : List Value} {f : Fault} {rest : Op Rig Unit}
    (h : bytesOf values = .error f) (answer : α) :
    (do twice (do writeFrame boardAddress values; rest); return answer : Op Rig α) =
      Op.fail f := by
  unfold writeFrame
  rw [h]
  rfl

/-- An order to a servo: the frame, what is recorded with it, and the answer. -/
structure ServoWrite where
  servo : Fin 6
  values : List Value
  bytes : List Nat
  frame : bytesOf values = .ok bytes
  angle : Value
  pulse : Value
  answer : Value

namespace ServoWrite

def deliver (o : ServoWrite) (r : Rig) : Rig :=
  { r with
    events := r.events.push (.frame boardAddress o.bytes)
    board := { r.board with
      angles := r.board.angles.set o.servo o.angle
      pulses := r.board.pulses.set o.servo o.pulse } }

def give (o : ServoWrite) : Op Rig Value := do
  twice do
    writeFrame boardAddress o.values
    recordServo (.int o.servo) o.angle o.pulse
  return o.answer

theorem wp_give {o : ServoWrite} {r : Rig} (hangles : r.board.angles.length = 6)
    (hpulses : r.board.pulses.length = 6) {Q : Value → Rig → Prop} :
    wp o.give Q E r ↔
      if r.pendingFaults ≤ 0 then Q o.answer (o.deliver r)
      else if r.pendingFaults = 1 then Q o.answer (o.deliver r.failed)
      else E (.fault .bus) r.failed.failed := by
  refine Iff.trans ?_ wp_order
  unfold wp give
  rw [order_congr (I := fun r => r.board.angles.length = 6 ∧ r.board.pulses.length = 6)
    o.deliver o.answer (fun _ h => h)
    (fun _ h => ⟨length_set.trans h.1, length_set.trans h.2⟩) ?_ ⟨hangles, hpulses⟩]
  intro r hr
  have hrecord := recordServo_apply
    (r := { r with events := r.events.push (.frame boardAddress o.bytes) })
    (o.servo.isLt.trans_eq hr.1.symm) (o.servo.isLt.trans_eq hr.2.symm) o.angle o.pulse
  refine (wp_outcome_iff (R := (· = transfer o.deliver r))).mp ?_
  rw [transfer_apply]
  unfold writeFrame
  simp only [wp_bind, liftM_except, wp_ofExcept, o.frame, wp_meetFault_iff]
  by_cases hfault : 0 < r.pendingFaults
  · simp only [if_pos hfault]
  · simp only [if_neg hfault, wp_emit]
    exact (wp_of_ok hrecord).mpr rfl

end ServoWrite

theorem pulseOfAngle_of_integer? {angle : Value} (hangle : angle.integer? = some n)
    (hlo : 0 ≤ n) (hhi : n ≤ 180) : ∃ pulse, pulseOfAngle angle = .ok pulse := by
  cases angle with
  | int m =>
    cases hangle
    exact ⟨_, pulseOfAngle_eq n hlo hhi⟩
  | bool b => cases b <;> exact ⟨_, eq_ok_int_of_isInt (n := 500 + 200 * n / 9) (by
      cases hangle
      decide +kernel)⟩
  | float | none | str | list | tuple | dict | range | object => cases hangle

def ServoWrite.ByAngle (index angle : Value) (o : ServoWrite) : Prop :=
  index.integer? = some ((o.servo : Int) + 1) ∧ o.answer = o.angle ∧
    (∃ most, atMost 180 angle = .ok most ∧ atLeast 0 most = .ok o.angle) ∧
    ∃ k : Nat, o.angle.integer? = some (k : Int) ∧ o.bytes = [21 + (o.servo : Nat), k]

theorem setServoAngle_cases (index angle : Value) :
    Op.RefusedOr (fun op => ∃ o : ServoWrite, o.ByAngle index angle ∧ op = o.give)
      (setServoAngle index angle) := by
  refine .bind fun _ hcheck => .bind fun place hplace => .bind fun most hmost => ?_
  refine .bind fun a hleast => .bind fun register hreg => ?_
  cases hbytes : bytesOf [register, a] with
  | error f => exact .inl ⟨f, twice_of_no_frame hbytes a⟩
  | ok bytes =>
    obtain ⟨i, k, hidx, rfl, hk, rfl⟩ := frame_of_checkServo hcheck hplace hreg hbytes
    obtain ⟨hlo, hhi⟩ := bounds_of_atLeast (by decide) hmost hleast hk
    obtain ⟨pulse, hpulse⟩ := pulseOfAngle_of_integer? hk hlo hhi
    rw [hpulse]
    exact .inr ⟨⟨i, _, _, hbytes, a, pulse, a⟩, ⟨hidx, rfl, ⟨most, hmost, hleast⟩, k, hk, rfl⟩, rfl⟩

theorem integer?_of_wordBytes {bytes : List Value} (h : wordBytes v = .ok bytes) :
    ∃ n, v.integer? = some n := by
  unfold wordBytes at h
  cases hv : v.integer? with
  | none =>
    rw [hv] at h
    cases h
  | some n => exact ⟨n, rfl⟩

theorem angleOfPulse_of_integer? {pulse : Value} (hpulse : pulse.integer? = some n)
    (hlo : 500 ≤ n) (hhi : n ≤ 2500) : ∃ angle, angleOfPulse pulse = .ok angle := by
  cases pulse with
  | int m =>
    cases hpulse
    exact ⟨_, angleOfPulse_eq n hlo hhi⟩
  | bool b =>
    cases hpulse
    split at hlo <;> omega
  | float | none | str | list | tuple | dict | range | object => cases hpulse

theorem setServoPulse_cases (index pulse time : Value) :
    Op.RefusedOr (fun op => ∃ o : ServoWrite, op = o.give) (setServoPulse index pulse time) := by
  refine .bind fun _ hcheck => .bind fun place hplace => .bind fun least hleast => ?_
  refine .bind fun width hwidth => .bind fun _ _ => .bind fun time _ => .bind fun timeWord _ => ?_
  refine .bind fun word hword => ?_
  cases hbytes : bytesOf ([timedCommand, .int 1] ++ timeWord ++ [index] ++ word) with
  | error f => exact .inl ⟨f, twice_of_no_frame hbytes width⟩
  | ok bytes =>
    obtain ⟨n, hn⟩ := integer?_of_wordBytes hword
    obtain ⟨hlo, hhi⟩ := bounds_of_atMost (by decide) hleast hwidth hn
    obtain ⟨angle, hangle⟩ := angleOfPulse_of_integer? hn hlo hhi
    rw [hangle]
    rcases checkServo_ok_cases hcheck with ⟨i, -, hi⟩ | ⟨x, rfl⟩
    · rw [hi] at hplace
      cases hplace
      exact .inr ⟨⟨i, _, _, hbytes, angle, width, width⟩, rfl⟩
    · obtain ⟨b, hb⟩ := integer?_of_mem hbytes (.float x) (by simp)
      cases hb

/-! ## Settings -/

inductive Setting where
  | angle (degrees : Int)
  | pulse (width : Int)

namespace Setting

def recordedPulse : Setting → Int
  | angle degrees => 500 + 200 * max 0 (min 180 degrees) / 9
  | pulse width => min 2500 (max 500 width)

def recordedAngle : Setting → Int
  | angle degrees => max 0 (min 180 degrees)
  | pulse width => (min 2500 (max 500 width) - 500) * 9 / 100

def ofWidth (w : Int × Int) : Int × Setting := (w.1, pulse w.2)

end Setting

def IsServo (servo : Int) : Prop := 1 ≤ servo ∧ servo ≤ 6

instance (servo : Int) : Decidable (IsServo servo) := inferInstanceAs (Decidable (_ ∧ _))

def widths : List Int → List (Int × Int)
  | servo :: width :: rest => (servo, width) :: widths rest
  | _ => []

theorem pairs_int (args : List Int) :
    pairs (args.map .int) = (widths args).map fun w => (.int w.1, .int w.2) := by
  fun_induction widths args with
  | case1 servo width rest ih => simp [pairs, ih]
  | case2 args h =>
    cases args with
    | nil => rfl
    | cons a rest =>
      cases rest with
      | nil => rfl
      | cons b rest => exact (h a b rest rfl).elim

inductive ServoOrder where
  | angle (servo degrees : Int) (valid : IsServo servo)
  | pulse (servo width time : Int) (valid : IsServo servo)
  | several (args : List Int) (valid : ∀ s ∈ widths (args.drop 2), IsServo s.1)

namespace ServoOrder

def perform : ServoOrder → Op Rig Unit
  | angle servo degrees _ => do let _ ← setServoAngle (.int servo) (.int degrees)
  | pulse servo width time _ => do let _ ← setServoPulse (.int servo) (.int width) (.int time)
  | several args _ => setServosPulse (.list (args.map .int))

def settings : ServoOrder → List (Int × Setting)
  | angle servo degrees _ => [(servo, .angle degrees)]
  | pulse servo width _ _ => [(servo, .pulse width)]
  | several args _ => (widths (args.drop 2)).map Setting.ofWidth

end ServoOrder

def lastSetting (settings : List (Int × Setting)) (servo : Int) : Option Setting :=
  (settings.reverse.find? (·.1 = servo)).map (·.2)

theorem lastSetting_append (settings : List (Int × Setting)) (servo servo' : Int) (s : Setting) :
    lastSetting (settings ++ [(servo, s)]) servo' =
      if servo = servo' then some s else lastSetting settings servo' := by
  unfold lastSetting
  rw [reverse_append, reverse_singleton, singleton_append, find?_cons]
  by_cases h : servo = servo'
  · rw [if_pos h, decide_eq_true h]
    rfl
  · rw [if_neg h, decide_eq_false h]

/-! ## Records -/

/-- The records show the last setting of each servo that was given one, and no transfer fails. -/
structure Shows (settings : List (Int × Setting)) (r : Rig) : Prop where
  faults : r.pendingFaults ≤ 0
  angles : r.board.angles.length = 6
  pulses : r.board.pulses.length = 6
  agrees : ∀ servo s, lastSetting settings servo = some s → IsServo servo ∧
    r.board.angles[(servo - 1).toNat]? = some (.int s.recordedAngle) ∧
    r.board.pulses[(servo - 1).toNat]? = some (.int s.recordedPulse)

section
variable {settings : List (Int × Setting)} {r t : Rig} {servo : Int}

theorem Shows.record (h : Shows settings r) (hservo : IsServo servo) (s : Setting)
    (hfaults : t.pendingFaults = r.pendingFaults)
    (hangles : t.board.angles = r.board.angles.set (servo - 1).toNat (.int s.recordedAngle))
    (hpulses : t.board.pulses = r.board.pulses.set (servo - 1).toNat (.int s.recordedPulse)) :
    Shows (settings ++ [(servo, s)]) t := by
  obtain ⟨hlo, hhi⟩ := hservo
  have hlen := h.angles
  have hlen' := h.pulses
  refine ⟨hfaults ▸ h.faults, ?_, ?_, fun servo' s' hlast => ?_⟩
  · rw [hangles, length_set, hlen]
  · rw [hpulses, length_set, hlen']
  rw [hangles, hpulses]
  rw [lastSetting_append] at hlast
  by_cases hsame : servo = servo'
  · rw [if_pos hsame] at hlast
    cases hlast
    subst hsame
    exact ⟨⟨hlo, hhi⟩, getElem?_set_self (by omega), getElem?_set_self (by omega)⟩
  · rw [if_neg hsame] at hlast
    obtain ⟨⟨hlo', hhi'⟩, hagrees⟩ := h.agrees servo' s' hlast
    refine ⟨⟨hlo', hhi'⟩, ?_⟩
    rw [getElem?_set_ne (by omega), getElem?_set_ne (by omega)]
    exact hagrees

theorem IsServo.place (h : IsServo servo) :
    sub (.int servo) (.int 1) = .ok (.int (servo - 1).toNat) := by
  obtain ⟨hlo, -⟩ := h
  rw [show ((servo - 1).toNat : Int) = servo - 1 by omega]
  rfl

theorem IsServo.check (h : IsServo servo) : checkServo (.int servo) = .ok () := by
  obtain ⟨hlo, hhi⟩ := h
  unfold checkServo
  rw [int_less_int, int_greater_int, decide_eq_false (by omega),
    decide_eq_false (by omega)]
  rfl

theorem IsServo.place_lt (h : IsServo servo) : (servo - 1).toNat < 6 := by
  obtain ⟨hlo, hhi⟩ := h
  omega

theorem recordServo_shows (h : Shows settings r) (hservo : IsServo servo) (s : Setting) :
    wp (recordServo (.int (servo - 1).toNat) (.int s.recordedAngle) (.int s.recordedPulse))
      (fun _ t => Shows (settings ++ [(servo, s)]) t) never r := by
  have hangles : (servo - 1).toNat < r.board.angles.length := h.angles ▸ hservo.place_lt
  have hpulses : (servo - 1).toNat < r.board.pulses.length := h.pulses ▸ hservo.place_lt
  rw [wp_of_ok (recordServo_apply hangles hpulses _ _)]
  exact h.record hservo s rfl rfl rfl

theorem Shows.emit (h : Shows settings r) (e : Event) :
    Shows settings { r with events := r.events.push e } := { h with }

theorem setServoAngle_shows (h : Shows settings r) (hservo : IsServo servo) (degrees : Int) :
    wp (setServoAngle (.int servo) (.int degrees))
      (fun _ t => Shows (settings ++ [(servo, .angle degrees)]) t) never r := by
  have hmost := atMost_int 180 degrees
  have hleast := atLeast_int 0 (min 180 degrees)
  have hreg : add (.int 21) (.int (servo - 1).toNat) =
      .ok (.int (21 + (servo - 1).toNat)) := rfl
  have hpulse := pulseOfAngle_eq (max 0 (min 180 degrees)) (by omega) (by omega)
  have hbytes := bytesOf_int [21 + ((servo - 1).toNat : Int), max 0 (min 180 degrees)] (by
    obtain ⟨hlo, hhi⟩ := hservo
    simp
    omega)
  rw [map_cons, map_cons, map_nil] at hbytes
  unfold setServoAngle
  simp only [wp_bind, liftM_except, wp_ofExcept, hservo.check, hservo.place, hmost, hleast,
    hreg, wp_pure]
  refine wp_twice ?_
  simp only [wp_bind, wp_ofExcept, wp_writeFrame h.faults, hbytes, hpulse]
  exact recordServo_shows (h.emit _) hservo (.angle degrees)

theorem setServoPulse_shows (h : Shows settings r) (hservo : IsServo servo) (width time : Int) :
    wp (setServoPulse (.int servo) (.int width) (.int time))
      (fun _ t => Shows (settings ++ [(servo, .pulse width)]) t) never r := by
  have hleast := atLeast_int 500 width
  have hmost := atMost_int 2500 (max 500 width)
  have htimeLeast := atLeast_int 0 time
  have htimeMost := atMost_int 30000 (max 0 time)
  have hword := wordBytes_int (n := min 2500 (max 500 width)) (by omega) (by omega)
  have htimeWord := wordBytes_int (n := min 30000 (max 0 time)) (by omega) (by omega)
  have hangle := angleOfPulse_eq (min 2500 (max 500 width)) (by omega) (by omega)
  have hbytes := bytesOf_int [40, 1, min 30000 (max 0 time) % 256,
    min 30000 (max 0 time) / 256, servo, min 2500 (max 500 width) % 256,
    min 2500 (max 500 width) / 256] (by
      obtain ⟨hlo, hhi⟩ := hservo
      simp
      omega)
  simp only [map_cons, map_nil] at hbytes
  unfold setServoPulse
  simp only [wp_bind, liftM_except, wp_ofExcept, hservo.check, hservo.place, hmost, hleast,
    htimeLeast, htimeMost, hword, htimeWord, wp_pure]
  refine wp_twice ?_
  simp only [timedCommand, cons_append, nil_append, wp_bind, wp_ofExcept,
    wp_writeFrame h.faults, hbytes, hangle]
  exact recordServo_shows (h.emit _) hservo (.pulse width)

theorem shows_fresh (hfaults : r.pendingFaults ≤ 0) (hangles : r.board.angles.length = 6)
    (hpulses : r.board.pulses.length = 6) : Shows [] r :=
  ⟨hfaults, hangles, hpulses, nofun⟩

theorem setServoPulse_completes {P : List Value → Prop} (hr : Working P r)
    (hservo : IsServo servo) (width time : Int) :
    wp (setServoPulse (.int servo) (.int width) (.int time)) (fun _ t => Working P t) never r := by
  have hshows := shows_fresh hr.faults hr.angles hr.pulses
  exact wp_mono (wp_and (Op.Preserves.of_parts (c := False) r hr)
    (setServoPulse_shows hshows hservo width time)) (fun _ _ h => h.1) fun _ _ h => h.2

/-! ## Several servos at once -/

def body (s : Int × Int) : List Int :=
  [s.1, min 2500 (max 500 s.2) % 256, min 2500 (max 500 s.2) / 256]

def enter (b : Board) (s : Int × Int) : Board :=
  { b with
    angles := b.angles.set (s.1 - 1).toNat (.int (Setting.pulse s.2).recordedAngle)
    pulses := b.pulses.set (s.1 - 1).toNat (.int (Setting.pulse s.2).recordedPulse) }

variable {ss : List (Int × Int)}

theorem encodeServos_int (hval : ∀ s ∈ ss, IsServo s.1)
    (hangles : r.board.angles.length = 6) (hpulses : r.board.pulses.length = 6) :
    encodeServos (ss.map fun s => (.int s.1, .int s.2)) r =
      .ok ((ss.flatMap body).map .int) { r with board := ss.foldl enter r.board } := by
  induction ss generalizing r with
  | nil => rfl
  | cons s rest ih =>
    obtain ⟨servo, width⟩ := s
    rw [forall_mem_cons] at hval
    obtain ⟨hservo, hrest⟩ := hval
    have hword := wordBytes_int (n := min 2500 (max 500 width)) (by omega) (by omega)
    have hset (items : List Value) (h : items.length = 6) (v : Value) :=
      setAt_natCast items (h ▸ hservo.place_lt) v
    have hat : recordPosition (.int (servo - 1).toNat) = .ok ((servo - 1).toNat : Int) := rfl
    refine (wp_outcome_iff (R := (· = .ok _ _))).mp ?_
    rw [map_cons, encodeServos]
    simp only [wp_bind, liftM_except, wp_ofExcept, atLeast_int, atMost_int, hword,
      hservo.place, wp_get, hat, hset _ hpulses, wp_modify,
      angleOfPulse_eq (min 2500 (max 500 width)) (by omega) (by omega), hset _ hangles]
    have hnext := ih hrest (r := { r with board := enter r.board (servo, width) })
      ((length_set ..).trans hangles) ((length_set ..).trans hpulses)
    exact (wp_of_ok hnext).mpr rfl

theorem Shows.enter (hval : ∀ s ∈ ss, IsServo s.1) (h : Shows settings r) :
    Shows (settings ++ ss.map Setting.ofWidth) { r with board := ss.foldl enter r.board } := by
  -- each servo of the list adds its setting to those before
  induction ss generalizing settings r with
  | nil =>
    rw [map_nil, append_nil]
    exact h
  | cons s rest ih =>
    rw [forall_mem_cons] at hval
    rw [map_cons, append_cons]
    exact ih (r := { r with board := Board.enter r.board s }) hval.2
      (h.record hval.1 (.pulse s.2) rfl rfl rfl)

/-- A list of whole numbers has one frame, which is sent when all of its servos are recorded. -/
theorem wp_setServosPulse_int (hangles : r.board.angles.length = 6)
    (hpulses : r.board.pulses.length = 6) {time high : Int} (hhi : min 30000 (max 0 time) = high)
    (count : Int) {rest : List Int} (hval : ∀ s ∈ widths rest, IsServo s.1)
    {Q : Unit → Rig → Prop} :
    wp (setServosPulse (.list ((time :: count :: rest).map .int))) Q E r ↔
      wp (twice (writeFrame boardAddress
        (([40, count, high % 256, high / 256] ++ (widths rest).flatMap body).map .int))) Q E
        { r with board := (widths rest).foldl enter r.board } := by
  have hword := wordBytes_int (n := high) (by omega) (by omega)
  have hfst : subscript (.list (.int time :: .int count :: rest.map .int)) (.int 0) =
    .ok (.int time) := rfl
  have hsnd : subscript (.list (.int time :: .int count :: rest.map .int)) (.int 1) =
    .ok (.int count) := rfl
  unfold setServosPulse
  simp only [wp_bind, wp_pure, liftM_except, wp_ofExcept, hfst, hsnd, atLeast_int,
    atMost_int, hhi, hword, map_cons, drop_succ_cons, drop_zero, pairs_int]
  rw [wp_of_ok (encodeServos_int hval hangles hpulses), map_append]
  rfl

theorem keeps_writeFrame (settings : List (Int × Setting)) (address : Nat) (values : List Value) :
    Keeps (Shows settings) (writeFrame address values) := by
  rw [keeps_iff_wp]
  intro t ht
  rw [wp_writeFrame ht.faults]
  split
  · exact ht.emit _
  · exact ht

theorem setServosPulse_shows (h : Shows settings r) (args : List Int)
    (hval : ∀ s ∈ widths (args.drop 2), IsServo s.1) :
    wp (setServosPulse (.list (args.map .int)))
      (fun _ t => Shows (settings ++ (widths (args.drop 2)).map Setting.ofWidth) t)
      (fun _ t => Shows (settings ++ (widths (args.drop 2)).map Setting.ofWidth) t) r := by
  match args with
  | [] =>
    refine (?_ : Shows (settings ++ []) r)
    rw [append_nil]
    exact h
  | [time] =>
    have hlo := atLeast_int 0 time
    have hhi := atMost_int 30000 (max 0 time)
    have hfst : subscript (.list [.int time]) (.int 0) = .ok (.int time) := rfl
    have hsnd : subscript (.list [.int time]) (.int 1) = .error (.indexRange "list") := rfl
    unfold setServosPulse
    simp only [map_cons, map_nil, wp_bind, wp_pure, liftM_except,
      wp_ofExcept, hfst, hsnd, hlo, hhi]
    refine (?_ : Shows (settings ++ []) r)
    rw [append_nil]
    exact h
  | time :: count :: rest =>
    change ∀ s ∈ widths rest, IsServo s.1 at hval
    rw [wp_setServosPulse_int h.angles h.pulses rfl count hval]
    have hsent := keeps_writeFrame (settings ++ (widths rest).map Setting.ofWidth)
    exact (Op.Preserves.guarded (hsent _ _) fun _ => hsent _ _).wp (h.enter hval)

/-! ## Any number of orders -/

theorem ServoOrder.perform_shows (o : ServoOrder) (h : Shows settings r) :
    Shows (settings ++ o.settings) (o.perform.after r) := by
  refine wp_after_iff.mp ?_
  cases o with
  | angle servo degrees valid =>
    exact (wp_bind ..).mpr (wp_of_total (setServoAngle_shows h valid degrees) fun _ _ ht => ht)
  | pulse servo width time valid =>
    exact (wp_bind ..).mpr (wp_of_total (setServoPulse_shows h valid width time) fun _ _ ht => ht)
  | several args valid => exact setServosPulse_shows h args valid

theorem runAll_shows (orders : List ServoOrder) (h : Shows settings r) :
    Shows (settings ++ orders.flatMap ServoOrder.settings)
      (Op.runAll ServoOrder.perform orders r) := by
  induction orders generalizing settings r with
  | nil =>
    rw [flatMap_nil, append_nil]
    exact h
  | cons o rest ih =>
    rw [flatMap_cons, ← append_assoc]
    exact ih (o.perform_shows h)

theorem getServoPulse_of_record (hservo : IsServo servo)
    (h : t.board.pulses[(servo - 1).toNat]? = some v) : getServoPulse (.int servo) t = .ok v t := by
  refine (wp_outcome_iff (R := (· = .ok v t))).mp ?_
  unfold getServoPulse
  simp only [wp_bind, liftM_except, wp_ofExcept, wp_get, hservo.check, hservo.place,
    itemAt_natCast h]

end

namespace Setting

variable (s : Setting)

theorem recordedPulse_bounds_iff :
    500 ≤ s.recordedPulse ∧ s.recordedPulse ≤ 2500 ↔
      ∀ degrees, s = angle degrees → degrees ≤ 90 := by
  cases s with
  | angle degrees =>
    simp only [recordedPulse, angle.injEq, forall_eq']
    omega
  | pulse width =>
    refine iff_of_true ?_ nofun
    simp only [recordedPulse]
    omega

theorem recordedAngle_near_iff :
    (100 * s.recordedAngle - (s.recordedPulse - 500) * 9).natAbs < 100 ↔
      ∀ degrees, s = angle degrees → degrees ≤ 1 := by
  cases s with
  | angle degrees =>
    have hclamped : degrees ≤ 1 ↔ max 0 (min 180 degrees) ≤ 1 := by omega
    simp only [recordedAngle, recordedPulse, angle.injEq, forall_eq', hclamped]
    have hlo : 0 ≤ max 0 (min 180 degrees) := by omega
    generalize max 0 (min 180 degrees) = turned at hlo
    -- at one degree it is the cutting of the pulse width that makes the difference less than one
    by_cases h1 : turned = 1
    · subst h1
      decide
    · omega
  | pulse width =>
    refine iff_of_true ?_ nofun
    simp only [recordedAngle, recordedPulse]
    omega

theorem recordedAngle_lt : s.recordedAngle < s.recordedPulse := by
  cases s with
  | angle degrees =>
    simp only [recordedAngle, recordedPulse]
    omega
  | pulse width =>
    simp only [recordedAngle, recordedPulse]
    omega

end Setting

/-- After any orders, without faults on the bus, a servo that was given a setting has both records.
They belong together unless it was last set by an angle: then the pulse width is within its bounds
up to 90 degrees, and belongs to the angle up to one degree only. A question for the pulse width is
answered with it; a question for the angle is answered with the pulse width, too, which never is the
angle. -/
theorem servo_records_consistent_iff (r : Rig) (hfaults : r.pendingFaults ≤ 0)
    (hangles : r.board.angles.length = 6) (hpulses : r.board.pulses.length = 6)
    (orders : List ServoOrder) {t : Rig} (ht : Op.runAll ServoOrder.perform orders r = t)
    (servo : Int) (s : Setting)
    (hlast : lastSetting (orders.flatMap ServoOrder.settings) servo = some s) :
    ∃ angle pulse : Int,
      t.board.angles[(servo - 1).toNat]? = some (.int angle) ∧
      t.board.pulses[(servo - 1).toNat]? = some (.int pulse) ∧
      (500 ≤ pulse ∧ pulse ≤ 2500 ↔ ∀ degrees, s = .angle degrees → degrees ≤ 90) ∧
      ((100 * angle - (pulse - 500) * 9).natAbs < 100 ↔
        ∀ degrees, s = .angle degrees → degrees ≤ 1) ∧
      getServoPulse (.int servo) t = .ok (.int pulse) t ∧
      getServoAngle (.int servo) t = .ok (.int pulse) t ∧ pulse ≠ angle := by
  have hshows := runAll_shows orders (shows_fresh hfaults hangles hpulses)
  rw [ht, nil_append] at hshows
  obtain ⟨hservo, hangle, hpulse⟩ := hshows.agrees servo s hlast
  have hget := getServoPulse_of_record hservo hpulse
  exact ⟨_, _, hangle, hpulse, s.recordedPulse_bounds_iff, s.recordedAngle_near_iff, hget, hget,
    Int.ne_of_gt s.recordedAngle_lt⟩

def turnedThenSet : List ServoOrder := [
  .angle 1 180 (by decide),
  .several [100, 2, 1, 700, 2, 9999] (by decide)]

theorem servo_records_consistent_iff_several :
    ∃ angle pulse : Int,
      (Op.runAll ServoOrder.perform turnedThenSet {}).board.angles[0]? = some (.int angle) ∧
      (Op.runAll ServoOrder.perform turnedThenSet {}).board.pulses[0]? = some (.int pulse) ∧
      500 ≤ pulse ∧ pulse ≤ 2500 ∧ (100 * angle - (pulse - 500) * 9).natAbs < 100 := by
  obtain ⟨angle, pulse, hangle, hpulse, hbounds, hnear, -⟩ :=
    servo_records_consistent_iff {} (by decide) rfl rfl turnedThenSet rfl 1 (.pulse 700) rfl
  exact ⟨angle, pulse, hangle, hpulse, (hbounds.mpr nofun).1, (hbounds.mpr nofun).2,
    hnear.mpr nofun⟩

/-- The pulse width that is recorded for half a turn is far beyond the bounds, and is given for the
angle. -/
theorem half_turn_recorded_beyond_bounds :
    ∃ t, Op.runAll ServoOrder.perform [.angle 1 180 (by decide)] {} = t ∧
      t.board.angles[0]? = some (.int 180) ∧ t.board.pulses[0]? = some (.int 4500) ∧
      getServoAngle (.int 1) t = .ok (.int 4500) t := by
  have hshows := runAll_shows [.angle 1 180 (by decide)] (shows_fresh (r := {}) (by decide) rfl rfl)
  obtain ⟨hservo, hangle, hpulse⟩ := hshows.agrees 1 (.angle 180) rfl
  exact ⟨_, rfl, hangle, hpulse, getServoPulse_of_record hservo hpulse⟩

end Rover.Board
