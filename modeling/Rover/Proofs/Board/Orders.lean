import Rover.Proofs.Board.Servo
import Rover.Proofs.Motion.Drive

/-!
# Orders to several servos

A list of servos and pulse widths goes to the board in one frame, from which it can be read back.
Each servo is recorded before the frame is sent, so that an order that fails half-way has changed
the records of the servos before; an order to a single servo never does.
-/

namespace Rover

open List

open Rig (boardAddress writeFrame)

namespace Board

theorem angleOfPulse_of_wordBytes {w : Value} {word : List Value} (h : wordBytes w = .ok word) :
    ∃ a, angleOfPulse w = .ok a := by
  have hwhole {n : Int} (h : wordBytes (.int n) = .ok word) :
      ∃ a, angleOfPulse (.int n) = .ok a := by
    have hrange : 0 ≤ n ∧ n < 65536 := by
      by_contra hnot
      simp only [wordBytes, Value.integer?] at h
      split at h
      · cases h
      · rw [if_pos (by omega)] at h
        cases h
    obtain ⟨hfin, hamt⟩ := amount_nearestInt (n := n - 500) (abs_lt.mpr ⟨by omega, by omega⟩)
    have hprod := isRounded_mul hfin (y := 0.09) (by decide +kernel)
    have hsmall : |((n - 500 : Int) : ℚ)| ≤ 65536 := by
      exact_mod_cast (abs_le.mpr ⟨by omega, by omega⟩ : |n - 500| ≤ 65536)
    rw [hamt, amount_factor, abs_mul] at hprod
    exact ⟨_, angleOfPulse_int (isInf_of_isFinite hfin)
      (wholePart?_eq_cut (hprod ((mul_le_mul_of_nonneg_right hsmall (by norm_num)).trans
        (by norm_num))).isFinite)⟩
  cases w with
  | int n => exact hwhole h
  | bool b => cases b <;> exact hwhole h
  | _ => cases h

theorem setAt_of_length {xs ys zs : List Value} (hlen : xs.length = ys.length) {n : Int}
    {v : Value} (h : setAt xs n v = .ok zs) (v' : Value) :
    ∃ zs', setAt ys n v' = .ok zs' ∧ zs.length = zs'.length := by
  unfold setAt at h ⊢
  rw [← hlen]
  dsimp only at h ⊢
  generalize (if n < 0 then n + (xs.length : Int) else n) = i at h ⊢
  split at h
  · rename_i hrange
    cases h
    exact ⟨_, if_pos hrange, by rw [length_set, length_set, hlen]⟩
  · cases h

def Records (done : List (Value × Value)) (r : Rig) (b : Board) : Prop :=
  wp (encodeServos done) (fun _ t => t.board = b) never r

theorem encodeServos_failed (ss : List (Value × Value)) {r : Rig}
    (hlen : r.board.pulses.length = r.board.angles.length) :
    wp (encodeServos ss) (fun _ t => Records ss r t.board)
      (fun _ t => ∃ done, done <+: ss ∧ Records done r t.board) r := by
  induction ss generalizing r with
  | nil => exact (rfl : r.board = r.board)
  | cons s rest ih =>
    obtain ⟨servo, pulse⟩ := s
    have hnone : ∃ done, done <+: (servo, pulse) :: rest ∧ Records done r r.board :=
      ⟨[], nil_prefix, (rfl : r.board = r.board)⟩
    refine wp_except_bind (fun p hp => ?_) fun _ _ => hnone
    refine wp_except_bind (fun w hw => ?_) fun _ _ => hnone
    refine wp_except_bind (fun word hword => ?_) fun _ _ => hnone
    refine wp_except_bind (fun place hplace => ?_) fun _ _ => hnone
    refine wp_except_bind (fun n hn => ?_) fun _ _ => hnone
    refine wp_except_bind (fun pulses hpulses => ?_) fun _ _ => hnone
    -- once the pulse width is recorded the angle is, too
    obtain ⟨a, ha⟩ := angleOfPulse_of_wordBytes hword
    obtain ⟨angles, hangles, hsame⟩ := setAt_of_length hlen hpulses a
    have hgo {done : List (Value × Value)} {b : Board}
        (h : Records done { r with board := { r.board with angles, pulses } } b) :
        Records ((servo, pulse) :: done) r b := by
      unfold Records
      rw [encodeServos, wp_ok_bind hp, wp_ok_bind hw, wp_ok_bind hword,
        wp_ok_bind hplace, wp_bind, wp_get, wp_ok_bind hn, wp_ok_bind hpulses,
        wp_bind, wp_modify, wp_bind, wp_get, wp_ok_bind hn, wp_ok_bind ha,
        wp_ok_bind hangles, wp_bind, wp_modify, wp_bind]
      exact h
    rw [wp_bind, wp_modify, wp_bind, wp_get, wp_ok_bind hn, wp_ok_bind ha,
      wp_ok_bind hangles, wp_bind, wp_modify, wp_bind]
    refine wp_mono (ih hsame) (fun _ t ht => hgo ht) fun _ t ht => ?_
    obtain ⟨done, hdone, ht⟩ := ht
    exact ⟨_, cons_prefix_cons.mpr ⟨rfl, hdone⟩, hgo ht⟩

def Spares {α : Type} (op : Op Rig α) : Prop :=
  ∀ r, wp op (fun _ _ => True) (fun _ t => t.board = r.board) r

namespace Spares
variable {α β : Type}

theorem twice {op : Op Rig α} (h : Spares op) : Spares (Rig.twice op) := by
  intro r
  unfold Rig.twice
  rw [wp_guarded]
  refine wp_mono (h r) (fun _ _ _ => trivial) fun e t ht => ?_
  cases e with
  | fault f => exact wp_mono (h t) (fun _ _ _ => trivial) fun _ _ hu => hu.trans ht
  | ended => exact ht

theorem after_writeFrame {values : List Value} {f : Unit → Op Rig α} (h : Spares (f ())) :
    Spares (writeFrame boardAddress values >>= f) := by
  intro r
  have hkeeps : Keeps (fun t => t.board = r.board) (writeFrame boardAddress values) :=
    .except fun _ => .bind (Rig.keeps_meetFault fun _ ht => ht) fun _ =>
      .modify fun _ ht => ht
  rw [wp_bind]
  refine wp_post (hkeeps.wp rfl) fun _ t ht => ?_
  exact wp_mono (h t) (fun _ _ _ => trivial) fun _ _ hu => hu.trans ht

theorem give (o : ServoWrite) : Spares o.give := by
  refine fun r => (wp_bind ..).mpr (twice (after_writeFrame fun r => ?_) r)
  refine wp_except_bind (fun n _ => ?_) fun _ _ => rfl
  refine wp_except_bind (fun angles _ => ?_) fun _ _ => rfl
  exact wp_except_bind (fun pulses _ => trivial) fun _ _ => rfl

theorem refused {f : Fault} : Spares (Op.fail f : Op Rig α) := fun _ => rfl

end Spares

inductive Command where
  | angle (index degrees : Value)
  | pulse (index width time : Value)
  | several (args : Value)

namespace Command

def perform : Command → Op Rig Unit
  | angle index degrees => do let _ ← setServoAngle index degrees
  | pulse index width time => do let _ ← setServoPulse index width time
  | several args => setServosPulse args

def servos : Command → List (Value × Value)
  | several args => pairs ((args.items.toOption.getD []).drop 2)
  | _ => []

end Command

/-- An order that fails leaves the records as they are once some of the first servos of its list are
recorded: for a single servo, as they were. -/
theorem records_after_failure (c : Command) {r t : Rig}
    (hlength : r.board.pulses.length = r.board.angles.length) {e : Exit}
    (h : c.perform r = .error e t) :
    ∃ done body u, done <+: c.servos ∧ encodeServos done r = .ok body u ∧ u.board = t.board := by
  suffices ∃ done, done <+: c.servos ∧ Records done r t.board by
    obtain ⟨done, hdone, hrecords⟩ := this
    obtain ⟨body, u, hu⟩ := Op.wp_false_iff.mp hrecords
    exact ⟨done, body, u, hdone, hu⟩
  refine (Op.wp_of_error (Q := fun _ _ => True)
    (E := fun _ t => ∃ done, done <+: c.servos ∧ Records done r t.board) h).mp ?_
  have hnone {t : Rig} (ht : t.board = r.board) :
      ∃ done, done <+: c.servos ∧ Records done r t.board := ⟨[], nil_prefix, ht.symm⟩
  cases c with
  | angle index degrees =>
    have hspares : Spares (setServoAngle index degrees) := by
      rcases setServoAngle_cases index degrees with ⟨f, hfail⟩ | ⟨o, -, hgive⟩
      · rw [hfail]
        exact .refused
      · rw [hgive]
        exact .give o
    exact (wp_bind ..).mpr (wp_mono (hspares r) (fun _ _ h => h) fun _ _ => hnone)
  | pulse index width time =>
    have hspares : Spares (setServoPulse index width time) := by
      rcases setServoPulse_cases index width time with ⟨f, hfail⟩ | ⟨o, hgive⟩
      · rw [hfail]
        exact .refused
      · rw [hgive]
        exact .give o
    exact (wp_bind ..).mpr (wp_mono (hspares r) (fun _ _ h => h) fun _ _ => hnone)
  | several args =>
    have hrest (items : List Value) (hitems : args.items = .ok items) : wp (do
        let time ← Value.subscript args (.int 0)
        let time ← atMost 30000 (← atLeast 0 time)
        let count ← Value.subscript args (.int 1)
        let head := [timedCommand, count] ++ (← wordBytes time)
        let body ← encodeServos (pairs (items.drop 2))
        Rig.twice (writeFrame boardAddress (head ++ body)))
        (fun _ _ => True)
        (fun _ t => ∃ done, done <+: (Command.several args).servos ∧ Records done r t.board) r := by
      refine wp_except_bind (fun _ _ => ?_) fun _ _ => hnone rfl
      refine wp_except_bind (fun _ _ => ?_) fun _ _ => hnone rfl
      refine wp_except_bind (fun _ _ => ?_) fun _ _ => hnone rfl
      refine wp_except_bind (fun count _ => ?_) fun _ _ => hnone rfl
      refine wp_except_bind (fun word _ => ?_) fun _ _ => hnone rfl
      have hservos : (Command.several args).servos = pairs (items.drop 2) := by
        change pairs ((args.items.toOption.getD []).drop 2) = _
        rw [hitems]
        rfl
      rw [wp_bind, hservos]
      refine wp_mono (encodeServos_failed _ hlength) (fun body u hu => ?_) fun _ _ ht => ht
      have hsent : Spares (writeFrame boardAddress
          ([timedCommand, count] ++ word ++ body) >>= pure) := .after_writeFrame fun _ => trivial
      rw [bind_pure] at hsent
      refine wp_mono (hsent.twice u) (fun _ _ h => h) fun _ t ht => ?_
      exact ⟨_, prefix_rfl, ht ▸ hu⟩
    cases args with
    | list items => exact hrest items rfl
    | tuple items => exact hrest items rfl
    | range a b c => exact hrest _ rfl
    | str s => exact hrest _ rfl
    | _ => exact hnone rfl

/-- Two faults on the bus, and a servo is recorded where it does not stand. -/
theorem records_changed_by_failure :
    let c : Command := .several (.list [.int 100, .int 1, .int 1, .int 1600])
    c.perform.completes { pendingFaults := 2 } = false ∧
      (c.perform.after { pendingFaults := 2 }).board.pulses.map Value.integer? =
        [some 1600, some 0, some 0, some 0, some 0, some 0] := by
  decide +kernel

/-- The order of an angle to a servo that does not exist. -/
theorem records_after_wrong_servo :
    ∃ e t, (Command.angle (.int 7) (.int 90)).perform {} = .error e t ∧
      ∃ done body u, done <+: [] ∧ encodeServos done {} = .ok body u ∧ u.board = t.board :=
  ⟨_, _, rfl, records_after_failure (.angle (.int 7) (.int 90)) rfl rfl⟩

def decodeServos : List Nat → Option (List (Int × Int))
  | [] => some []
  | servo :: low :: high :: rest => do return (servo, low + 256 * high) :: (← decodeServos rest)
  | _ => none

def decode : List Nat → Option (Int × Int × List (Int × Int))
  | 40 :: count :: low :: high :: rest => do
    return (count, low + 256 * high, ← decodeServos rest)
  | _ => none

def within (s : Int × Int) : Int × Int := (s.1, min 2500 (max 500 s.2))

section
variable {ss : List (Int × Int)} (hvalid : ∀ s ∈ ss, IsServo s.1)
include hvalid

theorem body_bytes : ∀ n ∈ ss.flatMap body, 0 ≤ n ∧ n < 256 := by
  intro n hn
  obtain ⟨s, hs, hn⟩ := mem_flatMap.mp hn
  obtain ⟨hlo, hhi⟩ := hvalid s hs
  simp only [body, mem_cons, not_mem_nil, or_false] at hn
  omega

theorem decodeServos_body :
    decodeServos ((ss.flatMap body).map Int.toNat) = some (ss.map within) := by
  induction ss with
  | nil => rfl
  | cons s rest ih =>
    rw [forall_mem_cons] at hvalid
    obtain ⟨⟨hlo, hhi⟩, hrest⟩ := hvalid
    have hservo : ((s.1.toNat : Nat) : Int) = s.1 := by omega
    have hwidth : ((min 2500 (max 500 s.2) % 256).toNat : Int) +
        256 * ((min 2500 (max 500 s.2) / 256).toNat : Nat) = min 2500 (max 500 s.2) := by omega
    change (do return (_, _) :: (← decodeServos ((rest.flatMap body).map Int.toNat))) = _
    rw [ih hrest, hservo, hwidth]
    rfl

theorem records_foldl_enter {b : Board} (hangles : b.angles.length = 6)
    (hpulses : b.pulses.length = 6) {servo : Int} (hservo : IsServo servo) :
    let after := ss.foldl enter b
    let last := lastSetting (ss.map Setting.ofWidth) servo
    (after.angles.length = 6 ∧ after.pulses.length = 6) ∧
    after.angles[(servo - 1).toNat]? =
      last.elim b.angles[(servo - 1).toNat]? (fun s => some (.int s.recordedAngle)) ∧
    after.pulses[(servo - 1).toNat]? =
      last.elim b.pulses[(servo - 1).toNat]? (fun s => some (.int s.recordedPulse)) := by
  induction ss using reverseRecOn with
  | nil => exact ⟨⟨hangles, hpulses⟩, rfl, rfl⟩
  | append_singleton rest s ih =>
    rw [forall_mem_append, forall_mem_singleton] at hvalid
    obtain ⟨⟨hangles', hpulses'⟩, hangle, hpulse⟩ := ih hvalid.1
    have hplace := hvalid.2.place_lt
    simp only [map_append, map_singleton, foldl_append, foldl_cons,
      foldl_nil]
    rw [Setting.ofWidth, lastSetting_append]
    refine ⟨⟨(length_set ..).trans hangles', (length_set ..).trans hpulses'⟩, ?_⟩
    by_cases hsame : s.1 = servo
    · subst hsame
      rw [if_pos rfl]
      exact ⟨getElem?_set_self (hangles' ▸ hplace), getElem?_set_self (hpulses' ▸ hplace)⟩
    · have hother : (s.1 - 1).toNat ≠ (servo - 1).toNat := by
        obtain ⟨hlo, -⟩ := hvalid.2
        obtain ⟨hlo', -⟩ := hservo
        omega
      rw [if_neg hsame]
      exact ⟨(getElem?_set_ne hother).trans hangle, (getElem?_set_ne hother).trans hpulse⟩

end

theorem wp_twice_writeFrame {r : Rig} {values : List Value} {bytes : List Nat}
    (h : Rig.bytesOf values = .ok bytes) (hfaults : r.pendingFaults ≤ 1) {E : Exit → Rig → Prop} :
    wp (Rig.twice (writeFrame boardAddress values)) (fun _ t =>
      t.delivered = r.delivered ++ [.frame boardAddress bytes] ∧ t.board = r.board) E r := by
  have hframe : writeFrame boardAddress values =
      Rig.transfer fun r => { r with events := r.events.push (.frame boardAddress bytes) } := by
    unfold writeFrame
    rw [h]
    rfl
  have hpush (s : Rig) :
      Rig.delivered { s with events := s.events.push (.frame boardAddress bytes) } =
        s.delivered ++ [.frame boardAddress bytes] := by
    unfold Rig.delivered
    rw [Array.toList_push, filter_append]
    rfl
  unfold wp
  rw [hframe, Rig.twice_transfer]
  by_cases hnone : r.pendingFaults ≤ 0
  · rw [if_pos hnone]
    exact ⟨hpush r, rfl⟩
  · rw [if_neg hnone, if_pos (by omega)]
    exact ⟨(hpush _).trans (congrArg (· ++ _) r.delivered_failed), rfl⟩

/-- With whole numbers, servos that exist and at most one fault on the bus a list is delivered in one
frame. It reads back as the count, the time and the pulse widths within their limits, and of each
servo the last setting is recorded, or what was recorded before if it has none. -/
theorem setServosPulse_delivers {r : Rig} (hfaults : r.pendingFaults ≤ 1)
    (hangles : r.board.angles.length = 6) (hpulses : r.board.pulses.length = 6) (time : Int)
    {count : Int} (hcount : 0 ≤ count ∧ count ≤ 255) (rest : List Int)
    (hvalid : ∀ s ∈ widths rest, IsServo s.1) :
    ∃ t bytes, setServosPulse (.list ((time :: count :: rest).map .int)) r = .ok () t ∧
      t.delivered = r.delivered ++ [.frame boardAddress bytes] ∧
      decode bytes = some (count, min 30000 (max 0 time), (widths rest).map within) ∧
      ∀ servo, IsServo servo →
        let last := lastSetting ((widths rest).map Setting.ofWidth) servo
        t.board.angles[(servo - 1).toNat]? =
          last.elim r.board.angles[(servo - 1).toNat]? (fun s => some (.int s.recordedAngle)) ∧
        t.board.pulses[(servo - 1).toNat]? =
          last.elim r.board.pulses[(servo - 1).toNat]? (fun s => some (.int s.recordedPulse)) := by
  obtain ⟨high, hhigh⟩ : ∃ high, min 30000 (max 0 time) = high := ⟨_, rfl⟩
  have hfits := Rig.bytesOf_int ([40, count, high % 256, high / 256] ++ (widths rest).flatMap body)
    (by
      intro n hn
      obtain hn | hn := mem_append.mp hn
      · simp only [mem_cons, not_mem_nil, or_false] at hn
        omega
      · exact body_bytes hvalid n hn)
  have hsends := wp_twice_writeFrame (r := { r with board := (widths rest).foldl enter r.board })
    (E := fun _ _ => False) hfits hfaults
  rw [← wp_setServosPulse_int hangles hpulses hhigh count hvalid] at hsends
  obtain ⟨_, t, ht, hdelivered, hboard⟩ := Op.wp_false_iff.mp hsends
  refine ⟨t, _, ht, hdelivered, ?_, fun servo hservo => ?_⟩
  · have hcount' : ((count.toNat : Nat) : Int) = count := by omega
    have htime : ((high % 256).toNat : Int) + 256 * ((high / 256).toNat : Nat) = high := by omega
    change (do return (_, _, ← decodeServos (((widths rest).flatMap body).map Int.toNat))) = _
    rw [decodeServos_body hvalid, hcount', htime, hhigh]
    rfl
  · rw [hboard]
    exact (records_foldl_enter hvalid hangles hpulses hservo).2

/-- Two settings of the third servo, and the second transfer gets through. -/
theorem setServosPulse_delivers_after_fault :
    ∃ t bytes, setServosPulse (.list ([-5, 2, 3, 9999, 3, 1500].map .int)) { pendingFaults := 1 } =
        .ok () t ∧
      t.delivered = [.frame boardAddress bytes] ∧
      decode bytes = some (2, 0, [(3, 2500), (3, 1500)]) := by
  obtain ⟨t, bytes, ht, hdelivered, hdecode, -⟩ := setServosPulse_delivers
    (r := { pendingFaults := 1 }) (by decide) rfl rfl (-5) (show (0 : Int) ≤ 2 ∧ 2 ≤ 255 by decide)
    [3, 9999, 3, 1500] (by decide)
  exact ⟨t, bytes, ht, hdelivered, hdecode⟩

end Board

end Rover
