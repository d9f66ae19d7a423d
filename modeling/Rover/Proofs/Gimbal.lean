import Rover.Proofs.Motion.Limit

/-!
# The position of the gimbal

The gimbal remembers its position and counts its steps from there. Its own words command a servo
and remember the angle together, or do neither.
-/

namespace Rover

open List Board Vehicle Op

/-! ## Angles on the bus -/

namespace Value

theorem not_greater_of_less {v : Value} {k : Int} (h : v.less (.int k) = .ok true) :
    v.greater (.int k) = .ok false := by
  rw [less_int] at h
  rw [greater_int]
  cases hv : v.num? with
  | none => simp [hv] at h
  | some x =>
    simp only [hv, Except.ok.injEq] at h ⊢
    cases x with
    | int n =>
      simp only [Num.less, decide_eq_true_eq, decide_eq_false_iff_not] at h ⊢
      omega
    | float x =>
      simp only [Num.less, beq_iff_eq] at h ⊢
      rw [h]
      rfl

theorem not_less_of_greater {v : Value} {k : Int} (h : v.greater (.int k) = .ok true) :
    v.less (.int k) = .ok false := by
  cases hless : v.less (.int k) with
  | error f =>
    rw [less_int] at hless
    rw [greater_int] at h
    cases hv : v.num? <;> simp_all
  | ok b =>
    cases b with
    | false => rfl
    | true =>
      rw [not_greater_of_less hless] at h
      cases h

end Value

namespace Board

structure Reliable (r : Rig) : Prop where
  faults : r.pendingFaults ≤ 0
  angles : r.board.angles.length = 6
  pulses : r.board.pulses.length = 6

def received (sent : List (Nat × Nat)) (register : Nat) : List Nat :=
  (sent.filter (·.1 == register)).map Prod.snd

/-- From one state to another these bytes have been delivered to registers, in turn. -/
structure Sends (sent : List (Nat × Nat)) (r t : Rig) : Prop where
  reliable : Reliable t
  bytes : ∀ register, t.bytesTo register = r.bytesTo register ++ received sent register

theorem received_append (sent sent' : List (Nat × Nat)) (register : Nat) :
    received (sent ++ sent') register = received sent register ++ received sent' register := by
  unfold received
  rw [filter_append, map_append]

section
variable {sent sent' : List (Nat × Nat)} {r s t : Rig}

theorem Sends.refl (hr : Reliable r) : Sends [] r r := ⟨hr, fun _ => (append_nil _).symm⟩

theorem Sends.trans (h : Sends sent r s) (h' : Sends sent' s t) : Sends (sent ++ sent') r t := by
  refine ⟨h'.reliable, fun register => ?_⟩
  rw [h'.bytes, h.bytes, received_append, append_assoc]

theorem Sends.sentTo (h : Sends sent r t) (register : Nat) :
    sentTo r t register = received sent register := by
  unfold Board.sentTo
  rw [h.bytes, drop_left]

theorem sends_logged (hr : Reliable r) (line : LogRecord) :
    Sends [] r { r with log := r.log.push line } :=
  ⟨{ hr with }, fun _ => (append_nil _).symm⟩

theorem bytesTo_push_frame (r : Rig) (register byte place : Nat) : Rig.bytesTo { r with
        events := r.events.push (.frame Rig.boardAddress [register, byte]) } place =
      r.bytesTo place ++ received [(register, byte)] place := by
  unfold Rig.bytesTo Rig.delivered received
  by_cases h : register = place <;> simp [Rig.isFailure, Event.byteTo?, h]

theorem sends_failed (r : Rig) (register : Nat) : r.failed.bytesTo register = r.bytesTo register :=
  congrArg (·.filterMap (Event.byteTo? register)) r.delivered_failed

/-- However many transfers fail: an angle that is taken up is sent and recorded, and of one that is
not nothing is recorded. -/
theorem setServoAngle_sends (hangles : r.board.angles.length = 6)
    (hpulses : r.board.pulses.length = 6) (index angle : Value) :
    wp (setServoAngle index angle)
      (fun a t => (∃ most, atMost 180 angle = .ok most ∧ atLeast 0 most = .ok a) ∧
        ∃ (i : Fin 6) (k : Nat), index.integer? = some ((i : Int) + 1) ∧
          a.integer? = some (k : Int) ∧ t.board.angles = r.board.angles.set i a ∧
          Sends [(21 + (i : Nat), k)] r t)
      (fun _ t => t.board = r.board ∧ (r.pendingFaults ≤ 0 → Sends [] r t)) r := by
  rcases setServoAngle_cases index angle with
    ⟨f, hfail⟩ | ⟨o, ⟨hidx, hanswer, hclamp, k, hk, hbytes⟩, hgive⟩
  · rw [hfail]
    exact ⟨rfl, fun hfaults => .refl ⟨hfaults, hangles, hpulses⟩⟩
  have hdel (s : Rig) (hs : s.board = r.board) (hfaults : s.pendingFaults ≤ 0)
      (hbefore : ∀ place, s.bytesTo place = r.bytesTo place) :
      Sends [(21 + (o.servo : Nat), k)] r (o.deliver s) := by
    refine ⟨⟨hfaults, ?_, ?_⟩, fun place => ?_⟩
    · exact length_set.trans (hs ▸ hangles)
    · exact length_set.trans (hs ▸ hpulses)
    · have hsent := bytesTo_push_frame s (21 + o.servo) k place
      rw [← hbytes, hbefore] at hsent
      exact hsent
  rw [hgive, ServoWrite.wp_give hangles hpulses, hanswer]
  split
  · exact ⟨hclamp, o.servo, k, hidx, hk, rfl, hdel r rfl ‹_› fun _ => rfl⟩
  split
  · exact ⟨hclamp, o.servo, k, hidx, hk, rfl,
      hdel r.failed rfl (by change r.pendingFaults - 1 ≤ 0; omega) (sends_failed r)⟩
  · exact ⟨rfl, fun hfaults => absurd hfaults ‹_›⟩

theorem setServoAngle_int (hr : Reliable r) (i : Fin 6) (degrees : Int) :
    wp (setServoAngle (.int ((i : Int) + 1)) (.int degrees))
      (fun _ t => Sends [(21 + (i : Nat), (max 0 (min 180 degrees)).toNat)] r t) never r := by
  have hservo : IsServo ((i : Int) + 1) := ⟨by omega, by omega⟩
  have hdone := setServoAngle_shows (shows_fresh hr.faults hr.angles hr.pulses) hservo degrees
  -- that it comes to its end is known from the records, and what it sends from above
  refine wp_mono (wp_and (setServoAngle_sends hr.angles hr.pulses _ _) hdone) ?_ fun _ _ h => h.2
  rintro a t ⟨⟨⟨most, hhi, hlo⟩, j, k, hj, hk, -, hsends⟩, -⟩
  rw [atMost_int] at hhi
  cases hhi
  rw [atLeast_int] at hlo
  cases hlo
  obtain rfl : j = i := by
    have hnum : (i : Int) + 1 = j + 1 := Option.some.inj hj
    omega
  have hangle : max 0 (min 180 degrees) = (k : Int) := Option.some.inj hk
  rw [hangle]
  exact hsends

end

end Board

namespace Gimbal

open Board (Reliable Sends received sentTo atMost atLeast setServoAngle)

/-! ## The gimbal's own words -/

inductive Axis where
  | horizontal | vertical
deriving DecidableEq, Repr

namespace Axis

def name : Axis → String
  | horizontal => "horizontal"
  | vertical => "vertical"

def place : Axis → Fin 6
  | horizontal => 1
  | vertical => 0

def servo (axis : Axis) : Value := .int ((axis.place : Int) + 1)

def register (axis : Axis) : Nat := 21 + axis.place

end Axis

def angle (g : Gimbal) : Axis → Value
  | .horizontal => g.horizontal
  | .vertical => g.vertical

def turned (g : Gimbal) (axis : Axis) (angle : Value) : Gimbal :=
  match axis with
  | .horizontal => { g with horizontal := angle }
  | .vertical => { g with vertical := angle }

def aim (g : Gimbal) (axis : Axis) (text : Value → String) (angle : Value) : Op Rig Gimbal := do
  let angle ← clampAngle angle
  Rig.info (text angle)
  let _ ← setServoAngle axis.servo angle
  return g.turned axis angle

/-- What the mount can be told to do. -/
inductive Operation : (Gimbal → Op Rig Gimbal) → Prop where
  | up : Operation up
  | down : Operation down
  | left : Operation left
  | right : Operation right
  | reset : Operation fun _ => reset
  | setHorizontal (angle : Value) : Operation (setHorizontal · angle)
  | setVertical (angle : Value) : Operation (setVertical · angle)
  | lookUp (angle : Value) : Operation (lookUp · angle)
  | lookDown (angle : Value) : Operation (lookDown · angle)
  | lookLeft (angle : Value) : Operation (lookLeft · angle)
  | lookRight (angle : Value) : Operation (lookRight · angle)

section
variable {S : Gimbal → Op Rig Gimbal → Prop}

/-- Every operation turns one axis by `aim`, once the angle was computed, or both by `reset`. -/
theorem Operation.holds (haim : ∀ g axis text angle, S g (g.aim axis text angle))
    (hreset : ∀ g, S g Gimbal.reset) (hbind : ∀ g (e : Result Value) (f : Value → Op Rig Gimbal),
      (∀ b, S g (f b)) → S g (liftM e >>= f))
    {turn : Gimbal → Op Rig Gimbal} (h : Operation turn) (g : Gimbal) : S g (turn g) := by
  cases h with
  | up | down => exact hbind _ _ _ (haim g .vertical _)
  | left | right => exact hbind _ _ _ (haim g .horizontal _)
  | reset => exact hreset g
  | setHorizontal angle => exact haim g .horizontal _ angle
  | setVertical angle => exact haim g .vertical _ angle
  | lookUp | lookDown => exact hbind _ _ _ fun _ => hbind _ _ _ (haim g .vertical _)
  | lookLeft | lookRight => exact hbind _ _ _ fun _ => hbind _ _ _ (haim g .horizontal _)

end

def Follows (sent : List (Nat × Nat)) (g g' : Gimbal) : Prop :=
  ∀ axis : Axis, (g'.angle axis).integer? =
    ((received sent axis.register).getLast?.map Int.ofNat).or (g.angle axis).integer?

def Steers (g : Gimbal) (op : Op Rig Gimbal) : Prop :=
  ∀ r, Reliable r → wp op (fun g' t => ∃ sent, Sends sent r t ∧ Follows sent g g')
    (fun _ t => Sends [] r t) r

section
variable {g : Gimbal} {β : Type}

theorem Steers.except_bind {e : Result β} {f : β → Op Rig Gimbal}
    (h : ∀ b, Steers g (f b)) : Steers g (liftM e >>= f) := fun r hr =>
  wp_except_bind (fun b _ => h b r hr) fun _ _ => .refl hr

theorem Steers.info {op : Op Rig Gimbal} (h : Steers g op) (text : String) :
    Steers g (do Rig.info text; op) := by
  intro r hr
  have hlog := sends_logged hr ⟨.info, text⟩
  refine wp_mono (h _ hlog.reliable) ?_ fun _ t ht => hlog.trans ht
  rintro g' t ⟨sent, hsent, hfollows⟩
  exact ⟨sent, hlog.trans hsent, hfollows⟩

theorem cut_of_clampAngle {v w : Value} (h : clampAngle v = .ok w) :
    atMost 180 w = .ok w ∧ atLeast 0 w = .ok w := by
  obtain ⟨u, hsmaller, hlarger⟩ := eq_ok_of_bind h
  rcases Motion.larger_cases hlarger with rfl | ⟨rfl, hgt⟩
  · exact ⟨rfl, rfl⟩
  rcases Motion.smaller_cases hsmaller with rfl | ⟨rfl, hless⟩
  · exact ⟨rfl, rfl⟩
  -- an angle that is neither bound is between them
  unfold atMost atLeast
  rw [Value.not_greater_of_less hless, Value.not_less_of_greater hgt]
  exact ⟨rfl, rfl⟩

theorem follows_turned (g : Gimbal) (axis : Axis) {v : Value} {k : Nat}
    (hk : v.integer? = some (k : Int)) : Follows [(axis.register, k)] g (g.turned axis v) := by
  intro axis'
  -- the axes have registers of their own
  cases axis <;> cases axis' <;> first | exact hk | rfl

theorem setServoAngle_of_clamped {r : Rig} (hangles : r.board.angles.length = 6)
    (hpulses : r.board.pulses.length = 6) (axis : Axis) {v w : Value}
    (hclamp : clampAngle v = .ok w) :
    wp (setServoAngle axis.servo w)
      (fun _ t => ∃ k : Nat, k ≤ 180 ∧ w.integer? = some (k : Int) ∧
        t.board.angles = r.board.angles.set axis.place w ∧ Sends [(axis.register, k)] r t)
      (fun _ t => t.board = r.board ∧ (r.pendingFaults ≤ 0 → Sends [] r t)) r := by
  obtain ⟨hatMost, hatLeast⟩ := cut_of_clampAngle hclamp
  refine wp_post (setServoAngle_sends hangles hpulses _ _) ?_
  rintro a t ⟨⟨most, hmost, hlo⟩, i, k, hi, hk, hrecord, hsends⟩
  -- what is sent is the angle that is remembered
  cases hatMost.symm.trans hmost
  cases hatLeast.symm.trans hlo
  obtain rfl : i = axis.place := by
    have hnum : (axis.place : Int) + 1 = i + 1 := Option.some.inj hi
    omega
  obtain ⟨-, hhi⟩ := bounds_of_atLeast (by decide) hmost hlo hk
  exact ⟨k, by omega, hk, hrecord, hsends⟩

theorem steers_aim (g : Gimbal) (axis : Axis) (text : Value → String) (angle : Value) :
    Steers g (g.aim axis text angle) := by
  intro r hr
  refine wp_except_bind (fun w hclamp => ?_) fun _ _ => .refl hr
  refine Steers.info (fun r hr => ?_) _ r hr
  rw [wp_bind]
  refine wp_mono (setServoAngle_of_clamped hr.angles hr.pulses axis hclamp) ?_
    fun _ _ h => h.2 hr.faults
  rintro _ t ⟨k, -, hk, -, hsends⟩
  exact ⟨_, hsends, follows_turned g axis hk⟩

theorem toCenter_sends {r : Rig} (hr : Reliable r) :
    wp toCenter (fun g t => g = {} ∧ Sends [(22, 90), (21, 90)] r t) never r := by
  unfold toCenter
  rw [wp_bind]
  refine wp_of_total (setServoAngle_int hr 1 90) fun _ s hs => ?_
  rw [wp_bind]
  refine wp_of_total (setServoAngle_int hs.reliable 0 90) fun _ t ht => ?_
  exact ⟨rfl, hs.trans ht⟩

theorem steers_reset (g : Gimbal) : Steers g reset := by
  refine .info (fun r hr => ?_) _
  refine wp_of_total (toCenter_sends hr) ?_
  rintro _ t ⟨rfl, hsends⟩
  exact ⟨_, hsends, fun axis => by cases axis <;> rfl⟩

theorem Operation.steers {turn : Gimbal → Op Rig Gimbal} (h : Operation turn) (g : Gimbal) :
    Steers g (turn g) :=
  h.holds steers_aim steers_reset (fun _ _ _ hf => .except_bind hf) g

end

/-! ## Servos by their number -/

def Sent (r t : Rig) : Prop := ∃ sent, Sends sent r t

theorem sent_setServoAngle (r : Rig) (index angle : Value) :
    Keeps (Sent r) (setServoAngle index angle) := by
  rw [keeps_iff_wp]
  rintro s ⟨sent, hs⟩
  obtain ⟨hfaults, hangles, hpulses⟩ := hs.reliable
  refine wp_mono (setServoAngle_sends hangles hpulses index angle) ?_
    fun _ t ht => ⟨sent, append_nil sent ▸ hs.trans (ht.2 hfaults)⟩
  rintro a t ⟨-, i, k, -, -, -, ht⟩
  exact ⟨_, hs.trans ht⟩

theorem sent_info (r : Rig) (text : String) : Keeps (Sent r) (Rig.info text) :=
  .modify fun _ ⟨sent, hs⟩ =>
    ⟨sent, append_nil sent ▸ hs.trans (sends_logged hs.reliable _)⟩

theorem sent_setServo (r : Rig) (m : Motion) (index angle : Value) :
    Keeps (Sent r) (m.setServo index angle) := by
  refine .except fun low => .except fun high => ?_
  refine .ite (.bind (.fail _) fun _ => ?_) ?_
  all_goals
    refine .except fun _ => .bind (sent_info r _) fun _ => ?_
    exact .map (sent_setServoAngle r _ _)

theorem sent_resetServos (r : Rig) : Keeps (Sent r) Motion.resetServos := by
  refine .bind (sent_info r _) fun _ => .map (.forIn (fun i _ => ?_) _ _)
  exact .map (sent_setServoAngle r _ _)

theorem setServo_sends {r : Rig} (hr : Reliable r) (m : Motion) (axis : Axis) {angle : Nat}
    (hreach : angle ≤ 180) (hlim : angle ≤ m.maxAngle) :
    wp (m.setServo axis.servo (.int angle)) (fun _ t => Sends [(axis.register, angle)] r t)
      never r := by
  have hlo : axis.servo.less (.int 1) = .ok false := by cases axis <;> rfl
  have hhi : axis.servo.greater (.int 6) = .ok false := by cases axis <;> rfl
  -- nothing is cut off the angle, here or by the board
  have hclamp : m.clampAngle (.int angle) = .ok (.int angle) := by
    refine (Motion.within_int _ _ _).trans ?_
    rw [show max 0 (min m.maxAngle (angle : Int)) = angle by omega]
  unfold Motion.setServo
  simp only [wp_bind, liftM_except, wp_ofExcept, hlo, hhi, hclamp, Bool.or_self,
    Bool.false_eq_true, if_false, wp_info, wp_pure]
  generalize "舵机" ++ axis.servo.text ++ ": 角度=" ++ (Value.int angle).text ++ "°" = text
  have hlog := sends_logged hr ⟨.info, text⟩
  refine wp_of_total (setServoAngle_int hlog.reliable axis.place angle) fun _ t ht => ?_
  rw [show (max 0 (min 180 (angle : Int))).toNat = angle by omega] at ht
  exact hlog.trans ht

/-! ## The words of programs -/

/-- What a word does with the values of its parameters: it turns the mount and remembers it, or sets
servos by their number. -/
inductive Deed where
  | look (turn : Gimbal → List Value → Op Rig Gimbal) (steers : ∀ g args, Steers g (turn g args))
  | set (command : Motion → List Value → Op Rig Unit)
    (sends : ∀ m args r, Keeps (Sent r) (command m args))

namespace Deed

def sets : Deed → Bool
  | look .. => false
  | set .. => true

def act (args : List Value) : Deed → Op Vehicle Value
  | look turn _ => do
    moveGimbal (turn · args)
    return .none
  | set command _ => do
    let m := (← get).motion
    onRig (command m args)
    return .none

end Deed

structure Word where
  name : String
  deed : Deed

def words : List Word := [
  ⟨"shang", .look (fun g _ => g.up) fun g _ => Operation.up.steers g⟩,
  ⟨"xia", .look (fun g _ => g.down) fun g _ => Operation.down.steers g⟩,
  ⟨"zuo", .look (fun g _ => g.left) fun g _ => Operation.left.steers g⟩,
  ⟨"you", .look (fun g _ => g.right) fun g _ => Operation.right.steers g⟩,
  ⟨"fuwei", .look (fun _ _ => reset) fun g _ => Operation.reset.steers g⟩,
  ⟨"yuntai_shang", .look (fun g args => g.lookUp (args.getD 0 .none))
    fun g _ => (Operation.lookUp _).steers g⟩,
  ⟨"yuntai_xia", .look (fun g args => g.lookDown (args.getD 0 .none))
    fun g _ => (Operation.lookDown _).steers g⟩,
  ⟨"yuntai_zuo", .look (fun g args => g.lookLeft (args.getD 0 .none))
    fun g _ => (Operation.lookLeft _).steers g⟩,
  ⟨"yuntai_you", .look (fun g args => g.lookRight (args.getD 0 .none))
    fun g _ => (Operation.lookRight _).steers g⟩,
  ⟨"yuntai_fuwei", .look (fun _ _ => reset) fun g _ => Operation.reset.steers g⟩,
  ⟨"set_servo", .set (fun m args => m.setServo (args.getD 0 .none) (args.getD 1 .none))
    fun m _ r => sent_setServo r m _ _⟩,
  ⟨"reset_servos", .set (fun _ _ => Motion.resetServos) fun _ _ r => sent_resetServos r⟩]

theorem act_of_word {word : Word} (hword : word ∈ words) {c : Command}
    (hc : Command.find? word.name = some c) (args : List Value) :
    c.act args = word.deed.act args := by
  simp only [words, mem_cons, not_mem_nil, or_false] at hword
  rcases hword with rfl | rfl | rfl | rfl | rfl | rfl | rfl | rfl | rfl | rfl | rfl | rfl
  all_goals
    cases hc
    rfl

structure Effect (sets : Bool) (sent : List (Nat × Nat)) (v w : Vehicle) : Prop where
  sends : Sends sent v.rig w.rig
  gimbal : if sets then w.gimbal = v.gimbal else Follows sent v.gimbal w.gimbal

theorem follows_nil (g : Gimbal) : Follows [] g g := fun _ => rfl

theorem Deed.act_effect (d : Deed) (args : List Value) {v : Vehicle} (hv : Reliable v.rig) :
    wp (d.act args) (fun _ w => ∃ sent, Effect d.sets sent v w)
      (fun _ w => ∃ sent, Effect d.sets sent v w) v := by
  cases d with
  | look turn steers =>
    unfold act moveGimbal onRig HasRig.onRig
    simp only [wp_bind, wp_get, wp_onPart, wp_modify, wp_pure]
    -- the mount is replaced only when the operation has come to its end
    refine wp_mono (steers v.gimbal args v.rig hv) ?_ fun _ t ht => ⟨[], ht, follows_nil v.gimbal⟩
    rintro g t ⟨sent, hsends, hfollows⟩
    exact ⟨sent, hsends, hfollows⟩
  | set command sends =>
    unfold act onRig HasRig.onRig
    simp only [wp_bind, wp_get, wp_onPart, wp_pure]
    refine wp_mono ((sends v.motion args v.rig).wp ⟨[], .refl hv⟩) ?_ ?_
    · rintro _ t ⟨sent, hsends⟩
      exact ⟨sent, hsends, rfl⟩
    · rintro _ t ⟨sent, hsends⟩
      exact ⟨sent, hsends, rfl⟩

structure Call where
  word : Word
  valid : word ∈ words
  command : Command
  known : Command.find? word.name = some command
  positional : List Value
  named : Record

namespace Call

def perform (c : Call) : Op Vehicle Value := c.command.call c.positional c.named

def sets (c : Call) : Bool := c.word.deed.sets

theorem effect (c : Call) {v : Vehicle} (hv : Reliable v.rig) :
    ∃ sent, Effect c.sets sent v (c.perform.after v) := by
  refine wp_after_iff (P := fun w => ∃ sent, Effect c.sets sent v w).mp ?_
  refine wp_except_bind (fun args _ => ?_) fun _ _ => ?_
  · rw [act_of_word c.valid c.known]
    exact c.word.deed.act_effect args hv
  -- the values do not suit the word, so that nothing is done
  · refine ⟨[], .refl hv, ?_⟩
    split
    · rfl
    · exact follows_nil v.gimbal

end Call

/-! ## Any number of calls -/

/-- The angles that calls send to the servo of an axis, in order, each with whether it was set by
the number of the servo. -/
def history (axis : Axis) : List Call → Vehicle → List (Bool × Nat)
  | [], _ => []
  | c :: rest, v =>
    let w := c.perform.after v
    (sentTo v.rig w.rig axis.register).map (c.sets, ·) ++ history axis rest w

def lastLooked (angles : List (Bool × Nat)) : Option Nat :=
  (angles.filter fun a => !a.1).getLast?.map Prod.snd

theorem lastLooked_append (angles angles' : List (Bool × Nat)) :
    lastLooked (angles ++ angles') = (lastLooked angles').or (lastLooked angles) := by
  unfold lastLooked
  rw [filter_append, getLast?_append, Option.map_or]

theorem lastLooked_map (sets : Bool) (sent : List Nat) :
    lastLooked (sent.map (sets, ·)) = if sets then none else sent.getLast? := by
  unfold lastLooked
  cases sets with
  | true => simp
  | false =>
    rw [filter_eq_self.mpr (by simp), ← getLast?_map, map_map]
    exact congrArg getLast? (map_id sent)

theorem Effect.angle {sets : Bool} {sent : List (Nat × Nat)} {v w : Vehicle}
    (h : Effect sets sent v w) (axis : Axis) :
    (w.gimbal.angle axis).integer? =
      ((lastLooked ((sentTo v.rig w.rig axis.register).map (sets, ·))).map Int.ofNat).or
        (v.gimbal.angle axis).integer? := by
  have hgim := h.gimbal
  rw [lastLooked_map, h.sends.sentTo]
  cases sets with
  | true =>
    rw [hgim]
    rfl
  | false => exact hgim axis

variable {v : Vehicle}

theorem runAll_traced (calls : List Call) (hv : Reliable v.rig) {w : Vehicle}
    (hw : runAll Call.perform calls v = w) (axis : Axis) :
    Reliable w.rig ∧
      w.rig.bytesTo axis.register =
        v.rig.bytesTo axis.register ++ (history axis calls v).map Prod.snd ∧
      (w.gimbal.angle axis).integer? =
        ((lastLooked (history axis calls v)).map Int.ofNat).or (v.gimbal.angle axis).integer? := by
  -- the first call comes before the history of the others, and is overruled by it
  induction calls generalizing v with
  | nil =>
    cases hw
    exact ⟨hv, (append_nil _).symm, rfl⟩
  | cons c rest ih =>
    obtain ⟨sent, heffect⟩ := c.effect hv
    obtain ⟨hrel, hbytes, hangle⟩ := ih heffect.sends.reliable hw
    refine ⟨hrel, ?_, ?_⟩
    · rw [hbytes, heffect.sends.bytes, history, heffect.sends.sentTo]
      simp [Function.comp_def]
    · rw [hangle, heffect.angle, history, lastLooked_append, Option.map_or, Option.or_assoc]

def shown (g : Gimbal) (axis : Axis) : Option Int :=
  (g.position.field? axis.name).bind Value.integer?

theorem shown_eq (g : Gimbal) (axis : Axis) : g.shown axis = (g.angle axis).integer? := by
  cases axis <;>
    simp [shown, position, record, Value.field?, Value.lookup?, Value.same, Axis.name, angle]

def commanded (r : Rig) (axis : Axis) : Option Int :=
  (r.bytesTo axis.register).getLast?.map Int.ofNat

theorem new_sends {r : Rig} (hr : Reliable r) :
    wp new (fun g t => g = {} ∧ Sends [(22, 90), (21, 90)] r t) never r := by
  unfold new
  rw [wp_bind]
  refine wp_of_total (toCenter_sends hr) ?_
  rintro g t ⟨rfl, ht⟩
  exact ⟨rfl, ht.trans (sends_logged ht.reliable _)⟩

theorem commanded_of_sends_center {r t : Rig} (h : Sends [(22, 90), (21, 90)] r t) (axis : Axis) :
    commanded t axis = some 90 := by
  unfold commanded
  rw [h.bytes, getLast?_append]
  cases axis <;> rfl

theorem last_of_history (angles : List (Bool × Nat)) :
    angles.getLast?.map Prod.snd = lastLooked angles ∨ ∃ a, angles.getLast? = some (true, a) := by
  rcases eq_nil_or_concat angles with rfl | ⟨before, ⟨sets, a⟩, rfl⟩
  · exact .inl rfl
  rw [concat_eq_append]
  cases sets with
  | true => exact .inr ⟨a, getLast?_concat ..⟩
  | false =>
    left
    rw [lastLooked_append, getLast?_append]
    rfl

theorem set_servo_sends {c : Command} (hc : Command.find? "set_servo" = some c)
    (hv : Reliable v.rig) (axis : Axis) {angle : Nat} (hreach : angle ≤ 180)
    (hlim : angle ≤ v.motion.maxAngle) :
    ∃ w, c.call [axis.servo, .int angle] [] v = .ok .none w ∧ w.gimbal = v.gimbal ∧
      Sends [(axis.register, angle)] v.rig w.rig := by
  have hobeyed : wp (c.call [axis.servo, .int angle] []) (fun answer w => answer = .none ∧
      w.gimbal = v.gimbal ∧ Sends [(axis.register, angle)] v.rig w.rig) never v := by
    have hbind : c.signature.bind [axis.servo, .int angle] [] = .ok [axis.servo, .int angle] := by
      cases hc
      rfl
    have hword : words[10] ∈ words := getElem_mem _
    unfold Command.call
    rw [wp_ok_bind hbind, act_of_word hword hc]
    refine (wp_bind ..).mpr (wp_get.mpr ((wp_bind ..).mpr ((wp_onPart ..).mpr ?_)))
    exact wp_of_total (setServo_sends hv v.motion axis hreach hlim) fun _ _ ht => ⟨rfl, rfl, ht⟩
  obtain ⟨answer, w, hcall, rfl, hgim, hsends⟩ := wp_false_iff.mp hobeyed
  exact ⟨w, hcall, hgim, hsends⟩

/-- After a mount was built and any words were called for the servos, without faults on the bus, the
position shows the last angle that the gimbal's own words commanded. This is the last angle of all
exactly unless a servo was set by its number since, to an angle that happens to be another: setting
the servo once more to any angle within its limits leaves the position as it is. -/
theorem position_shows_last_command_iff {r : Rig} (hr : Reliable r) :
    ∃ g t, new r = .ok g t ∧ ∀ v : Vehicle, v.rig = t → v.gimbal = g →
      ∀ (calls : List Call) (axis : Axis) (w : Vehicle), runAll Call.perform calls v = w →
      w.gimbal.shown axis = some (((lastLooked (history axis calls v)).getD 90 : Nat) : Int) ∧
      commanded w.rig axis =
        some ((((history axis calls v).getLast?.map Prod.snd).getD 90 : Nat) : Int) ∧
      (w.gimbal.shown axis = commanded w.rig axis ↔
        ∀ a : Nat, (history axis calls v).getLast? = some (true, a) →
          w.gimbal.shown axis = some (a : Int)) ∧
      ∀ (c : Command) (angle : Nat), Command.find? "set_servo" = some c → angle ≤ 180 →
        angle ≤ w.motion.maxAngle → ∃ x, c.call [axis.servo, .int angle] [] w = .ok .none x ∧
          x.gimbal.shown axis = w.gimbal.shown axis ∧
          commanded x.rig axis = some (angle : Int) := by
  obtain ⟨g, t, hnew, rfl, ht⟩ := wp_false_iff.mp (new_sends hr)
  refine ⟨{}, t, hnew, ?_⟩
  rintro v rfl hgimbal calls axis w hw
  obtain ⟨hreliable, hbytes, hangle⟩ := runAll_traced calls ht.reliable hw axis
  have hcenter := commanded_of_sends_center ht axis
  have hshown : w.gimbal.shown axis =
      some (((lastLooked (history axis calls v)).getD 90 : Nat) : Int) := by
    rw [shown_eq, hangle, hgimbal]
    cases lastLooked (history axis calls v) with
    | some k => rfl
    -- the axis is still in the middle
    | none => cases axis <;> rfl
  have hcommanded : commanded w.rig axis =
      some ((((history axis calls v).getLast?.map Prod.snd).getD 90 : Nat) : Int) := by
    unfold commanded at hcenter ⊢
    rw [hbytes, getLast?_append, getLast?_map]
    cases (history axis calls v).getLast? with
    | some a => rfl
    | none => exact hcenter
  refine ⟨hshown, hcommanded, ?_, fun c angle hc hreach hlimit => ?_⟩
  · rw [hshown, hcommanded]
    rcases last_of_history (history axis calls v) with hlast | ⟨a, ha⟩
    -- the last angle is one of the gimbal's own words, or there is none yet
    · refine iff_of_true (by rw [hlast]) fun a ha => ?_
      rw [← hlast, ha]
      rfl
    · rw [ha]
      simp
  · obtain ⟨x, hcall, hsame, hsends⟩ := set_servo_sends hc hreliable axis hreach hlimit
    refine ⟨x, hcall, by rw [hsame], ?_⟩
    unfold commanded
    rw [hsends.bytes, getLast?_append]
    simp [received]

def setAside : List Call := [
  ⟨words[4], getElem_mem _, _, rfl, [], []⟩,
  ⟨words[10], getElem_mem _, _, rfl, [.int 2, .int 30], []⟩]

def steppedOn : List Call := setAside ++ [
  ⟨words[0], getElem_mem _, _, rfl, [], []⟩,
  ⟨words[3], getElem_mem _, _, rfl, [], []⟩]

theorem position_shows_last_command_iff_stepped_on :
    ∃ g t, new {} = .ok g t ∧ ∀ axis : Axis, ∃ w,
      runAll Call.perform steppedOn { rig := t, gimbal := g } = w ∧
      w.gimbal.shown axis = some 100 ∧ commanded w.rig axis = some 100 := by
  have hreliable : Reliable {} := ⟨by decide, rfl, rfl⟩
  obtain ⟨g, t, hnew, hcalls⟩ := position_shows_last_command_iff hreliable
  obtain ⟨rfl, -⟩ := (wp_of_ok hnew).mp (new_sends hreliable)
  refine ⟨{}, t, hnew, fun axis => ⟨_, rfl, ?_⟩⟩
  obtain ⟨hshown, -, hiff, -⟩ := hcalls { rig := t } rfl rfl steppedOn axis _ rfl
  have hhistory : lastLooked (history axis steppedOn { rig := new.after {} }) = some 100 ∧
      (history axis steppedOn { rig := new.after {} }).getLast? = some (false, 100) := by
    cases axis <;> decide +kernel
  rw [after_of_ok hnew] at hhistory
  rw [hhistory.1] at hshown
  refine ⟨hshown, (hiff.mpr fun a ha => ?_).symm.trans hshown⟩
  rw [hhistory.2] at ha
  cases ha

/-- The servo stands at 30 degrees, and the position shows 90. -/
theorem position_misses_servo_set_by_number :
    ∃ g t, new {} = .ok g t ∧ ∃ w, runAll Call.perform setAside { rig := t, gimbal := g } = w ∧
      w.gimbal.shown .horizontal = some 90 ∧ commanded w.rig .horizontal = some 30 := by
  have hreliable : Reliable {} := ⟨by decide, rfl, rfl⟩
  obtain ⟨g, t, hnew, rfl, -⟩ := wp_false_iff.mp (new_sends hreliable)
  refine ⟨{}, t, hnew, _, rfl, ?_⟩
  rw [← after_of_ok hnew]
  rw [shown_eq]
  decide +kernel

/-! ## The records of the board -/

/-- The angles are whole numbers of degrees, and the board has recorded them. -/
structure Recorded (g : Gimbal) (r : Rig) : Prop where
  angles : r.board.angles.length = 6
  pulses : r.board.pulses.length = 6
  agrees : ∀ axis : Axis, ∃ k : Nat, k ≤ 180 ∧ (g.angle axis).integer? = some (k : Int) ∧
    r.board.angles[(axis.place : Nat)]? = some (g.angle axis)

def Secure (g : Gimbal) (op : Op Rig Gimbal) : Prop :=
  ∀ r, Recorded g r → wp op (fun g' t => Recorded g' t) (fun _ t => t.board = r.board) r

theorem Secure.except_bind {g : Gimbal} {β : Type} {e : Result β} {f : β → Op Rig Gimbal}
    (h : ∀ b, Secure g (f b)) : Secure g (liftM e >>= f) := fun r hr =>
  wp_except_bind (fun b _ => h b r hr) fun _ _ => rfl

theorem secure_aim (g : Gimbal) (axis : Axis) (text : Value → String) (angle : Value) :
    Secure g (g.aim axis text angle) := by
  intro r hr
  refine wp_except_bind (fun w hclamp => ?_) fun _ _ => rfl
  rw [wp_bind, wp_info, wp_bind]
  refine wp_mono (setServoAngle_of_clamped (by exact hr.angles) (by exact hr.pulses) axis hclamp)
    ?_ fun _ _ h => h.1
  rintro _ t ⟨k, hk, hwhole, hrecord, hsends⟩
  refine ⟨hsends.reliable.angles, hsends.reliable.pulses, fun axis' => ?_⟩
  rw [hrecord]
  by_cases hsame : axis' = axis
  · have hangle : (g.turned axis w).angle axis' = w := by
      subst hsame
      cases axis' <;> rfl
    rw [hangle, hsame]
    exact ⟨k, hk, hwhole, getElem?_set_self (axis.place.isLt.trans_eq hr.angles.symm)⟩
  · have hangle : (g.turned axis w).angle axis' = g.angle axis' := by
      cases axis <;> cases axis' <;> first | rfl | exact absurd rfl hsame
    rw [hangle, getElem?_set_ne (by cases axis <;> cases axis' <;> simp_all [Axis.place])]
    exact hr.agrees axis'

theorem toCenter_recorded {r : Rig} (hangles : r.board.angles.length = 6)
    (hpulses : r.board.pulses.length = 6) :
    wp toCenter (fun g t => Recorded g t) (fun _ t => t.board = r.board) r := by
  have hclamp : clampAngle center = .ok center := rfl
  unfold toCenter
  rw [wp_bind]
  refine wp_mono (setServoAngle_of_clamped hangles hpulses .horizontal hclamp) ?_ fun _ _ h => h.1
  rintro _ s ⟨k, -, -, hs, hsends⟩
  obtain ⟨hfaults, hangles', hpulses'⟩ := hsends.reliable
  -- the faults are used up, so that the second servo does not fail after the first was recorded
  have hcalm := setServoAngle_int hsends.reliable 0 90
  rw [wp_bind]
  refine wp_mono (wp_and hcalm (setServoAngle_of_clamped hangles' hpulses' .vertical hclamp)) ?_
    fun _ _ h => h.1.elim
  rintro _ t ⟨-, k, -, -, ht, hsends'⟩
  refine ⟨hsends'.reliable.angles, hsends'.reliable.pulses, fun axis => ⟨90, by decide, ?_⟩⟩
  rw [ht, hs]
  cases axis <;> simp [angle, Axis.place, hangles, center, Value.integer?]

theorem Operation.secure {turn : Gimbal → Op Rig Gimbal} (h : Operation turn) (g : Gimbal) :
    Secure g (turn g) :=
  h.holds secure_aim (fun _ _ hr => toCenter_recorded hr.angles hr.pulses)
    (fun _ _ _ hf => .except_bind hf) g

structure Turn where
  faults : Int
  turn : Gimbal → Op Rig Gimbal
  valid : Operation turn

def Turn.perform (t : Turn) : Op Vehicle Unit := do
  modify fun v => { v with rig := { v.rig with pendingFaults := t.faults } }
  moveGimbal t.turn

theorem Turn.perform_recorded (t : Turn) (hv : Recorded v.gimbal v.rig) :
    wp t.perform (fun _ w => Recorded w.gimbal w.rig)
      (fun _ w => w.gimbal = v.gimbal ∧ w.rig.board = v.rig.board) v := by
  unfold perform moveGimbal onRig HasRig.onRig
  simp only [wp_bind, wp_get, wp_onPart, wp_modify]
  exact wp_mono (t.valid.secure v.gimbal { v.rig with pendingFaults := t.faults }
    { hv with }) (fun _ _ h => h) fun _ _ h => ⟨rfl, h⟩

/-- From the building of a mount on, whatever it is told and however many transfers fail each time,
both angles are whole numbers of degrees from 0 to 180 and are those that the board has recorded. A
turn that does not come to its end changes neither. -/
theorem angles_recorded {r : Rig} (hangles : r.board.angles.length = 6)
    (hpulses : r.board.pulses.length = 6) {g : Gimbal} {t : Rig} (hnew : new r = .ok g t)
    {v : Vehicle} (hrig : v.rig = t) (hgimbal : v.gimbal = g) (turns : List Turn) {w : Vehicle}
    (hw : runAll Turn.perform turns v = w) :
    (∀ axis : Axis, ∃ k : Nat, k ≤ 180 ∧ (w.gimbal.angle axis).integer? = some (k : Int) ∧
      w.rig.board.angles[(axis.place : Nat)]? = some (w.gimbal.angle axis)) ∧
    ∀ (turn : Turn) (e : Exit) (x : Vehicle), turn.perform w = .error e x →
      x.gimbal = w.gimbal ∧ x.rig.board = w.rig.board := by
  have hbuilt : wp new (fun g t => Recorded g t) (fun _ _ => True) r := by
    unfold new
    rw [wp_bind]
    exact wp_mono (toCenter_recorded hangles hpulses)
      (fun _ _ h => ⟨h.angles, h.pulses, h.agrees⟩) fun _ _ _ => trivial
  rw [wp_of_ok hnew, ← hrig, ← hgimbal] at hbuilt
  have hrecorded : Recorded w.gimbal w.rig := by
    rw [← hw]
    refine runAll_keeps (I := fun v : Vehicle => Recorded v.gimbal v.rig)
      (fun turn => keeps_iff_wp.mpr fun v hv => ?_) turns hbuilt
    refine wp_mono (turn.perform_recorded hv) (fun _ _ h => h) fun _ x hx => ?_
    rw [hx.1]
    exact ⟨hx.2 ▸ hv.angles, hx.2 ▸ hv.pulses, hx.2 ▸ hv.agrees⟩
  refine ⟨hrecorded.agrees, fun turn e x hx => ?_⟩
  exact (wp_of_error hx).mp (turn.perform_recorded hrecorded)

/-- One turn fails for good, one is repeated and goes to the end, and one is refused. -/
theorem angles_recorded_after_faults :
    ∃ g t, new {} = .ok g t ∧ ∃ w : Vehicle,
      runAll Turn.perform [⟨2, _, .up⟩, ⟨1, _, .lookLeft (.float (0 / 0))⟩,
        ⟨0, _, .setVertical (.float 0.5)⟩] { rig := t, gimbal := g } = w ∧
      ∃ k : Nat, k ≤ 180 ∧ w.gimbal.horizontal.integer? = some (k : Int) ∧
        w.rig.board.angles[1]? = some w.gimbal.horizontal := by
  obtain ⟨g, t, hnew, -⟩ := wp_false_iff.mp (new_sends (r := {}) ⟨by decide, rfl, rfl⟩)
  exact ⟨g, t, hnew, _, rfl, (angles_recorded rfl rfl hnew rfl rfl _ rfl).1 .horizontal⟩

end Gimbal

end Rover
