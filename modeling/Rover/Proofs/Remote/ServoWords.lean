import Rover.Proofs.Board
import Rover.Proofs.Games.Play
import Rover.Remote.Methods

/-!
# Words for the servos

A call that turns servos puts the words for the board in front of a list of the server, and clears
the list only after they were sent. So a call that fails has its words sent along by the next one,
unless it failed for want of arguments.
-/

namespace Rover

open List Value Play

/-! ## Servo commands are not cut short -/

namespace Board

instance : Recordable fun _ => True := ⟨fun _ _ _ _ _ _ => trivial⟩

instance (address : Nat) (values : List Value) :
    Safe False (fun _ => True) (Rig.writeFrame address values) := by
  refine .except fun _ => .bind (.base fun r _ => ?_) fun _ => .base fun _ _ => trivial
  rw [Rig.wp_meetFault_iff]
  split
  · exact ⟨nofun, trivial⟩
  · trivial

theorem uncut_setServosPulse (items : List Value) :
    Uncut (fun _ => True) (setServosPulse (.list items)) := by
  unfold setServosPulse
  exact .of_parts

theorem encodeServos_gives (command : Value × Value) (rest : List (Value × Value)) :
    Op.Gives (· ≠ []) (encodeServos (command :: rest)) := by
  iterate 14 refine .bind fun _ => ?_
  exact .pure (cons_ne_nil _ _)

theorem setServosPulse_frame (words : List Value) {r : Rig} (hr : r.pendingFaults ≤ 0) :
    wp (setServosPulse (.list (.int 0 :: .int 0 :: words)))
      (fun _ t => ∃ bytes, t.events.back? = some (.frame Rig.boardAddress bytes) ∧
        (bytes.length = 4 ↔ pairs words = []))
      (fun _ _ => True) r := by
  have hfst : subscript (.list (.int 0 :: .int 0 :: words)) (.int 0) = .ok (.int 0) := rfl
  have hsnd : subscript (.list (.int 0 :: .int 0 :: words)) (.int 1) = .ok (.int 0) := rfl
  have hlo : atLeast 0 (.int 0) = .ok (.int 0) := rfl
  have hhi : atMost 30000 (.int 0) = .ok (.int 0) := rfl
  have hword : wordBytes (.int 0) = .ok [.int 0, .int 0] := rfl
  have hbody : wp (encodeServos (pairs words)) (fun body _ => body = [] ↔ pairs words = [])
      (fun _ _ => True) r := by
    cases pairs words with
    | nil => exact iff_of_true rfl rfl
    | cons command rest =>
      exact wp_mono (encodeServos_gives command rest r)
        (fun _ _ hbody => iff_of_false hbody (cons_ne_nil _ _)) fun _ _ _ => trivial
  unfold setServosPulse
  simp only [wp_bind, wp_pure, liftM_except, wp_ofExcept, hfst, hsnd, hlo,
    hhi, hword, drop_succ_cons, drop_zero]
  have hkept : Recordable fun r => r.pendingFaults ≤ 0 := ⟨fun _ _ _ hr _ _ => hr⟩
  have hfaults : Uncut (fun r => r.pendingFaults ≤ 0) (encodeServos (pairs words)) := .of_parts
  refine wp_mono (wp_and hbody (hfaults.wp hr)) ?_ fun _ _ _ => trivial
  rintro body t ⟨hempty, ht⟩
  have hlen : ([timedCommand, int 0] ++ [int 0, int 0] ++ body).length =
      body.length + 4 := by
    rw [length_append]
    exact Nat.add_comm ..
  generalize [timedCommand, int 0] ++ [int 0, int 0] ++ body = frame at hlen ⊢
  unfold Rig.twice
  rw [wp_guarded, wp_writeFrame ht]
  cases hbytes : Rig.bytesOf frame with
  | error f =>
    refine (wp_writeFrame ht _ _).mpr ?_
    rw [hbytes]
    trivial
  | ok bytes =>
    refine ⟨bytes, Array.back?_push, ?_⟩
    rw [Rig.length_of_bytesOf hbytes, hlen, ← hempty, ← length_eq_zero_iff]
    omega

end Board

namespace Remote

open Method (setServos addServoWords done refused)
variable (commands : List (Value × Value))

/-! ## A call leaves its words behind if it fails -/

def Loaded (p : Play Server) : Prop := 2 ≤ p.game.servoWords.length

theorem uncut_addServoWords : Uncut Loaded (addServoWords commands) := by
  induction commands with
  | nil => exact .pure _
  | cons command rest ih =>
    refine .except fun pulse => .bind (fun p hp => ?_) fun _ => ih
    have hlen : 2 ≤ p.game.servoWords.length := hp
    refine (?_ : 2 ≤ (p.game.servoWords ++ [command.1, pulse]).length)
    rw [length_append]
    omega

def EndsWith (v : Value) (q : Play Server) : Prop :=
  v = done "SetPWMServo" ∧ q.game.servoWords = [] ∨ v = refused "SetPWMServo" .failed ∧ Loaded q

theorem setServos_ends (time count : Value) (rest : List Value) (p : Play Server) :
    wp (setServos (time :: count :: rest)) EndsWith never p := by
  have hsent : ∀ words, Uncut Loaded (onRig (Board.setServosPulse (.list words))) := fun _ =>
    .onPart (fun _ _ => trivial) (fun _ _ hp _ => hp) (Board.uncut_setServosPulse _)
  have hstart : Loaded { p with game := { p.game with
      servoWords := time :: count :: p.game.servoWords } } := by
    refine (?_ : 2 ≤ (time :: count :: p.game.servoWords).length)
    rw [length_cons, length_cons]
    omega
  unfold setServos Method.tried
  rw [wp_guarded]
  -- from the first update on there are words, and only the very last one clears them
  simp only [wp_bind, wp_update, wp_state, wp_pure]
  refine wp_mono (uncut_addServoWords _ _ hstart) (fun _ t ht => ?_) fun e q hq => ?_
  · refine wp_mono (hsent _ t ht) (fun _ q _ => .inl ⟨rfl, rfl⟩) fun e q hq => ?_
    cases e with
    | fault f => exact .inr ⟨rfl, hq.2⟩
    | ended => exact hq.1 rfl
  · cases e with
    | fault f => exact .inr ⟨rfl, hq.2⟩
    | ended => exact hq.1 rfl

/-! ## Calls -/

structure ServoCall where
  faults : Int
  args : List Value

namespace ServoCall

variable (c : ServoCall)

def make : Server.M Value := do
  modify fun p => { p with rig := { p.rig with pendingFaults := c.faults } }
  setServos c.args

def outcome (p : Play Server) : Option (Value × Rig) :=
  match c.make p with
  | .ok v q => some (v, q.rig)
  | .error _ _ => none

def succeeds (p : Play Server) : Bool :=
  match c.make p with
  | .ok (.tuple (.bool flag :: _)) _ => flag
  | _ => false

theorem make_cases (p : Play Server) :
    ∃ v q, c.make p = .ok v q ∧
      (c.args.length < 2 ∧ q.game = p.game ∨
        2 ≤ c.args.length ∧ (c.succeeds p ∧ q.game.servoWords = [] ∨
          c.succeeds p = false ∧ Loaded q)) := by
  obtain ⟨faults, args⟩ := c
  match args with
  | [] => exact ⟨_, _, rfl, .inl ⟨Nat.zero_lt_two, rfl⟩⟩
  | [time] => exact ⟨_, _, rfl, .inl ⟨Nat.one_lt_two, rfl⟩⟩
  | time :: count :: rest =>
    obtain ⟨v, q, hmake, hwords⟩ := wp_false_iff.mp (setServos_ends time count rest
      { p with rig := { p.rig with pendingFaults := faults } })
    have hcall : make ⟨faults, time :: count :: rest⟩ p = .ok v q := hmake
    refine ⟨v, q, hcall, .inr ⟨?_, ?_⟩⟩
    · rw [length_cons, length_cons]
      omega
    · unfold succeeds
      rw [hcall]
      rcases hwords with ⟨rfl, hnone⟩ | ⟨rfl, hsome⟩
      · exact .inl ⟨rfl, hnone⟩
      · exact .inr ⟨rfl, hsome⟩

end ServoCall

/-! ## What a call depends on -/

def freshServer (r : Rig) : Play Server := { rig := r, game := {} }

def Untainted (p : Play Server) : Prop :=
  ∀ c : ServoCall, c.outcome p = c.outcome (freshServer p.rig)

structure SameServos (p q : Play Server) : Prop where
  rig : p.rig = q.rig
  words : p.game.servoWords = q.game.servoWords

theorem alike_update {f : Server → Server}
    (h : ∀ s t : Server, s.servoWords = t.servoWords → (f s).servoWords = (f t).servoWords) :
    Alike SameServos (update f) :=
  .modify fun p q hpq => ⟨hpq.rig, h p.game q.game hpq.words⟩

theorem alike_onRig {α : Type} (op : Op Rig α) : Alike SameServos (onRig op) :=
  .onPart op (fun _ _ h => h.rig) fun _ _ _ h => ⟨rfl, h.words⟩

theorem alike_words {α : Type} {f : List Value → Server.M α}
    (h : ∀ words, Alike SameServos (f words)) :
    Alike SameServos (do f (← state).servoWords) := by
  intro p q hpq
  change SameOutcome SameServos (f p.game.servoWords p) (f q.game.servoWords q)
  rw [hpq.words]
  exact h _ p q hpq

theorem alike_addServoWords : Alike SameServos (addServoWords commands) := by
  induction commands with
  | nil => exact .pure _
  | cons command rest ih =>
    refine .except fun _ => .bind (alike_update fun _ _ h => ?_) fun _ => ih
    simp only [h]

theorem alike_setServos (args : List Value) : Alike SameServos (setServos args) := by
  refine .guarded ?_ fun _ => .pure _
  match args with
  | [] => exact .fail _
  | [time] => exact .fail _
  | time :: count :: rest =>
    refine .bind (alike_update fun _ _ h => ?_) fun _ => .bind (alike_addServoWords _) fun _ => ?_
    · simp only [h]
    · exact alike_words (f := fun words => do
        onRig (Board.setServosPulse (.list words))
        update ({ · with servoWords := [] })
        return done "SetPWMServo") fun _ =>
          .bind (alike_onRig _) fun _ => .map (alike_update fun _ _ _ => rfl)

variable {p : Play Server}

theorem untainted_of_no_words (hp : p.game.servoWords = []) : Untainted p := by
  intro c
  have halike : Alike SameServos c.make :=
    .bind (.modify fun p q h => ⟨by rw [h.rig], h.words⟩) fun _ => alike_setServos _
  unfold ServoCall.outcome
  rcases (halike p (freshServer p.rig) ⟨rfl, hp⟩).cases with
    ⟨v, s, t, hs, ht, hst⟩ | ⟨e, s, t, hs, ht, -⟩
  · rw [hs, ht]
    exact congrArg (fun r => some (v, r)) hst.rig
  · rw [hs, ht]

def probe : ServoCall := ⟨0, [.int 0, .int 0]⟩

theorem probe_fresh (r : Rig) : ∃ q, probe.make (freshServer r) = .ok (done "SetPWMServo") q :=
  ⟨_, rfl⟩

theorem probe_frame (p : Play Server) :
    wp probe.make (fun v q => v = done "SetPWMServo" →
        ∃ bytes, q.rig.events.back? = some (.frame Rig.boardAddress bytes) ∧
          (bytes.length = 4 ↔ Board.pairs p.game.servoWords = []))
      (fun _ _ => True) p := by
  have hnone : addServoWords (Board.pairs []) = pure () := rfl
  unfold ServoCall.make setServos Method.tried
  simp only [probe, wp_bind, wp_modify, wp_guarded, wp_update, hnone, wp_state,
    wp_onRig, wp_pure]
  refine wp_mono (Board.setServosPulse_frame p.game.servoWords
    (r := { p.rig with pendingFaults := 0 }) (Int.le_refl 0)) (fun _ t ht _ => ht) fun e t _ => ?_
  cases e with
  | fault f =>
    intro hanswer
    cases hanswer
  | ended => trivial

theorem not_untainted_of_loaded (hp : Loaded p) : ¬ Untainted p := by
  intro huntainted
  -- it is the call for no servo that shows the words
  have hprobe := huntainted probe
  obtain ⟨q, hq⟩ := probe_fresh p.rig
  obtain ⟨v, t, ht, -⟩ := probe.make_cases p
  have hfresh := (wp_of_ok hq).mp (probe_frame (freshServer p.rig)) rfl
  have hshown := (wp_of_ok ht).mp (probe_frame p)
  unfold ServoCall.outcome at hprobe
  rw [hq, ht] at hprobe
  obtain ⟨hanswer, hrig⟩ := Prod.mk.inj (Option.some.inj hprobe)
  obtain ⟨bytes, hlast, hlen⟩ := hshown hanswer
  obtain ⟨bytes', hlast', hlen'⟩ := hfresh
  rw [hrig, hlast'] at hlast
  cases hlast
  -- both frames are the same one, but only that of the fresh server has four bytes
  have hpairs := hlen.mp (hlen'.mpr rfl)
  have hlen : 2 ≤ p.game.servoWords.length := hp
  match hwords : p.game.servoWords with
  | [] => simp [hwords] at hlen
  | [word] => simp [hwords] at hlen
  | servo :: width :: rest =>
    rw [hwords] at hpairs
    cases hpairs

/-! ## Sequences of calls -/

def afterCalls (calls : List ServoCall) (p : Play Server) : Play Server :=
  Op.runAll ServoCall.make calls p

def Tidy (p : Play Server) : Prop := p.game.servoWords = [] ∨ Loaded p

theorem untainted_iff (hp : Tidy p) : Untainted p ↔ p.game.servoWords = [] := by
  refine ⟨fun h => ?_, untainted_of_no_words⟩
  rcases hp with hnone | hload
  · exact hnone
  · exact absurd h (not_untainted_of_loaded hload)

theorem keeps_tidy (c : ServoCall) : Keeps Tidy c.make := by
  intro p hp
  obtain ⟨v, q, hmake, hends⟩ := c.make_cases p
  rw [wp_of_ok hmake]
  rcases hends with ⟨-, hgame⟩ | ⟨-, ⟨-, hnone⟩ | ⟨-, hload⟩⟩
  · unfold Tidy Loaded
    rw [hgame]
    exact hp
  · exact .inl hnone
  · exact .inr hload

theorem no_words_after_iff (c : ServoCall) (hp : p.game.servoWords = []) :
    (c.make.after p).game.servoWords = [] ↔ (2 ≤ c.args.length → c.succeeds p) := by
  obtain ⟨v, q, hmake, hends⟩ := c.make_cases p
  rw [after_of_ok hmake]
  rcases hends with ⟨hshort, hgame⟩ | ⟨hlong, ⟨hsucceeds, hnone⟩ | ⟨hfails, hload⟩⟩
  · rw [hgame]
    exact iff_of_true hp fun hlong => absurd hlong (by omega)
  · exact iff_of_true hnone fun _ => hsucceeds
  · refine iff_of_false (fun hnone => ?_) fun h => ?_
    · unfold Loaded at hload
      rw [hnone] at hload
      cases hload
    · rw [h hlong] at hfails
      cases hfails

theorem never_words_iff (calls : List ServoCall) {s : Play Server} (hs : s.game.servoWords = []) :
    (∀ earlier, earlier <+: calls → (afterCalls earlier s).game.servoWords = []) ↔
      ∀ earlier c, earlier ++ [c] <+: calls → 2 ≤ c.args.length →
        c.succeeds (afterCalls earlier s) := by
  induction calls generalizing s with
  | nil =>
    refine iff_of_true (fun earlier h => ?_) fun earlier c h => ?_
    · rw [prefix_nil.mp h]
      exact hs
    · exact absurd (prefix_nil.mp h) (by simp)
  | cons first rest ih =>
    -- the other calls go on from the state after the first, which has no words in either direction
    have hfst := no_words_after_iff first hs
    constructor
    · intro h earlier c hprefix
      have hnone := h [first] (cons_prefix_cons.mpr ⟨rfl, nil_prefix⟩)
      cases earlier with
      | nil =>
        obtain ⟨rfl, -⟩ := cons_prefix_cons.mp hprefix
        exact hfst.mp hnone
      | cons call before =>
        obtain ⟨rfl, hbefore⟩ := cons_prefix_cons.mp hprefix
        refine (ih hnone).mp (fun earlier hearlier => ?_) before c hbefore
        exact h (call :: earlier) (cons_prefix_cons.mpr ⟨rfl, hearlier⟩)
    · intro h earlier hprefix
      cases earlier with
      | nil => exact hs
      | cons call before =>
        obtain ⟨rfl, hbefore⟩ := cons_prefix_cons.mp hprefix
        have hnone := hfst.mpr (h [] call (cons_prefix_cons.mpr ⟨rfl, nil_prefix⟩))
        refine (ih hnone).mpr (fun earlier c hearlier => ?_) before hbefore
        exact h (call :: earlier) c (cons_prefix_cons.mpr ⟨rfl, hearlier⟩)

/-- Of any sequence of calls, on a server without words: all of them have the outcome that they have
on a server that was just started exactly if every one that has its first two arguments is of use;
and at every point this is so for all calls exactly if there are no words. -/
theorem calls_independent_iff (s : Play Server) (hs : s.game.servoWords = [])
    (calls : List ServoCall) :
    ((∀ earlier, earlier <+: calls → Untainted (afterCalls earlier s)) ↔
      ∀ earlier c, earlier ++ [c] <+: calls → 2 ≤ c.args.length →
        c.succeeds (afterCalls earlier s) = true) ∧
    ∀ earlier, earlier <+: calls →
      (Untainted (afterCalls earlier s) ↔ (afterCalls earlier s).game.servoWords = []) := by
  have huntainted : ∀ earlier,
      Untainted (afterCalls earlier s) ↔ (afterCalls earlier s).game.servoWords = [] :=
    fun earlier => untainted_iff (Op.runAll_keeps keeps_tidy earlier (.inl hs))
  refine ⟨?_, fun earlier _ => huntainted earlier⟩
  rw [← never_words_iff calls hs]
  exact forall_congr' fun earlier => imp_congr_right fun _ => huntainted earlier

def secondAttempt : ServoCall := ⟨1, [.int 1000, .int 1, .int 1, .int 0]⟩

theorem calls_independent_iff_second_attempt :
    secondAttempt.succeeds (freshServer {}) = true ∧
      Untainted (afterCalls [secondAttempt] (freshServer {})) := by
  have hnone : (afterCalls [secondAttempt] (freshServer {})).game.servoWords = [] :=
    isEmpty_iff.mp (by decide +kernel)
  refine ⟨by decide +kernel, ?_⟩
  exact ((calls_independent_iff (freshServer {}) rfl [secondAttempt]).2 _ prefix_rfl).mpr hnone

def ServoCall.frame (c : ServoCall) (p : Play Server) : Option (List Nat) :=
  match (c.outcome p).bind (·.2.events.back?) with
  | some (.frame _ bytes) => some bytes
  | _ => none

def unsent : ServoCall := ⟨2, [.int 3, .int 1, .int 1, .int 0]⟩

def following : ServoCall := ⟨0, [.int 1000, .int 1, .int 2, .int 0]⟩

/-- The call for servo 2 turns servo 1, too, and moreover servo 3: this was the time in the call
that did not get through. -/
theorem unsent_words_sent_along :
    unsent.succeeds (freshServer {}) = false ∧
      following.frame (afterCalls [unsent] (freshServer {})) =
        some [40, 1, 232, 3, 3, 244, 1, 1, 220, 5, 2, 220, 5] ∧
      following.frame (freshServer (afterCalls [unsent] (freshServer {})).rig) =
        some [40, 1, 232, 3, 2, 220, 5] :=
  ⟨by decide +kernel, by decide +kernel, by decide +kernel⟩

end Remote

end Rover
