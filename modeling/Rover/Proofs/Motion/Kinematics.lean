import Rover.Proofs.Motion.Wheels
import Rover.Proofs.WholePart

/-!
# Kinematics of the fixed moves

Four wheels with slanted rollers move a vehicle ahead, to the side and around, by the sums of their
speeds with different signs. The chassis slides with wheels on a diagonal turning the same way, and
turns with the wheels of a side doing so.
-/

namespace Rover

open WheelSpeeds Arith Geometry List

open Value (circular cosine pi quarterTurn sine)

namespace WheelSpeeds

def ahead (w : WheelSpeeds) : Int := w.frontLeft + w.frontRight + w.backLeft + w.backRight

def sideways (w : WheelSpeeds) : Int := w.frontLeft - w.frontRight - w.backLeft + w.backRight

def spin (w : WheelSpeeds) : Int := w.frontLeft - w.frontRight + w.backLeft - w.backRight

def SameWay (w w' : WheelSpeeds) : Prop :=
  w.frontLeft.sign = w'.frontLeft.sign ∧ w.frontRight.sign = w'.frontRight.sign ∧
    w.backLeft.sign = w'.backLeft.sign ∧ w.backRight.sign = w'.backRight.sign

def diagonal (k : Int) : WheelSpeeds := ⟨k, -k, -k, k⟩

def sided (k : Int) : WheelSpeeds := ⟨k, -k, k, -k⟩

section
variable (j k : Int)

theorem parts_diagonal :
    (diagonal k).ahead = 0 ∧ (diagonal k).sideways = 4 * k ∧ (diagonal k).spin = 0 := by
  simp only [ahead, sideways, spin, diagonal]
  omega

theorem parts_sided : (sided k).ahead = 0 ∧ (sided k).sideways = 0 ∧ (sided k).spin = 4 * k := by
  simp only [ahead, sideways, spin, sided]
  omega

theorem sameWay_diagonal : SameWay (diagonal j) (diagonal k) ↔ j.sign = k.sign := by
  simp only [SameWay, diagonal, Int.sign_neg]
  omega

theorem sameWay_sided : SameWay (sided j) (sided k) ↔ j.sign = k.sign := by
  simp only [SameWay, sided, Int.sign_neg]
  omega

theorem sameWay_sided_diagonal : SameWay (sided j) (diagonal k) ↔ j = 0 ∧ k = 0 := by
  rw [← Int.sign_eq_zero_iff_zero, ← Int.sign_eq_zero_iff_zero (a := k)]
  simp only [SameWay, sided, diagonal, Int.sign_neg]
  omega

theorem sameWay_diagonal_sided : SameWay (diagonal j) (sided k) ↔ j = 0 ∧ k = 0 := by
  rw [← Int.sign_eq_zero_iff_zero, ← Int.sign_eq_zero_iff_zero (a := k)]
  simp only [SameWay, sided, diagonal, Int.sign_neg]
  omega

end

end WheelSpeeds

namespace Value

theorem toInteger_float_iff {x : Float} {n : Int} :
    toInteger (.float x) = .ok n ↔ wholePart? x = some n := by
  change Num.truncate (.float x) = .ok n ↔ _
  cases hx : Binary.ofFloat? x <;> simp [Num.truncate, wholePart?, hx]

section
variable {v : Value} {n : Num} (h : v.num? = some n) (x : Float)
include h

theorem float_sub_num : sub (.float x) v = n.toFloat.map fun t => .float (x - t) := by
  have hsub : sub (.float x) v =
      (do return Num.float ((← Except.ok x) - (← n.toFloat))).map Num.toValue := by
    cases v <;> cases h <;> rfl
  rw [hsub]
  cases n.toFloat <;> rfl

theorem float_add_num : add (.float x) v = n.toFloat.map fun t => .float (x + t) := by
  have hadd : add (.float x) v =
      (do return Num.float ((← Except.ok x) + (← n.toFloat))).map Num.toValue := by
    cases v <;> cases h <;> rfl
  rw [hadd]
  cases n.toFloat <;> rfl

end

end Value

namespace Chassis

def joined (y x : Float) (turn : Value) : Result WheelSpeeds := do
  let frontLeft ← (← Value.sub (.float (y + x)) turn).toInteger
  let frontRight ← (← Value.add (.float (y - x)) turn).toInteger
  let backLeft ← (← Value.sub (.float (y - x)) turn).toInteger
  let backRight ← (← Value.add (.float (y + x)) turn).toInteger
  return ⟨frontLeft, frontRight, backLeft, backRight⟩

variable {w : WheelSpeeds}

theorem joined_eq_ok_iff {y x : Float} {turn : Value} {n : Num} (h : turn.num? = some n) :
    joined y x turn = .ok w ↔ ∃ t, n.toFloat = .ok t ∧
      wholePart? (y + x - t) = some w.frontLeft ∧ wholePart? (y - x + t) = some w.frontRight ∧
      wholePart? (y - x - t) = some w.backLeft ∧ wholePart? (y + x + t) = some w.backRight := by
  have hok : ∀ (v : Value) (f : Value → Result WheelSpeeds), (Except.ok v >>= f) = f v :=
    fun _ _ => rfl
  unfold joined
  simp only [Value.float_sub_num h, Value.float_add_num h, ← Value.toInteger_float_iff]
  constructor
  · intro hw
    cases ht : n.toFloat with
    | error e =>
      rw [ht] at hw
      cases hw
    | ok t =>
      simp only [ht, Except.map, hok] at hw
      obtain ⟨frontLeft, hfrontLeft, hw⟩ := eq_ok_of_bind hw
      obtain ⟨frontRight, hfrontRight, hw⟩ := eq_ok_of_bind hw
      obtain ⟨backLeft, hbackLeft, hw⟩ := eq_ok_of_bind hw
      obtain ⟨backRight, hbackRight, hw⟩ := eq_ok_of_bind hw
      cases hw
      exact ⟨t, rfl, hfrontLeft, hfrontRight, hbackLeft, hbackRight⟩
  · rintro ⟨t, ht, hfrontLeft, hfrontRight, hbackLeft, hbackRight⟩
    simp only [ht, Except.map, hok, hfrontLeft, hfrontRight, hbackLeft, hbackRight]
    rfl

theorem wheelSpeeds_of_direction {α : Type} [Geometry α]
    {halfWidth halfLength velocity direction degree angle c s x y size : α}
    (hdeg : div (pi : α) (whole 180) = .ok degree)
    (hangle : mul direction degree = .ok angle)
    (hcos : cos angle = .ok c) (hsin : sin angle = .ok s)
    (hx : mul velocity c = .ok x) (hy : mul velocity s = .ok y)
    (hsize : add halfWidth halfLength = .ok size) (rate : α) :
    wheelSpeeds halfWidth halfLength velocity direction rate =
      neg rate >>= fun back => mul back size >>= fun turn => (do
        let frontLeft ← truncate (← sub (← add y x) turn)
        let frontRight ← truncate (← add (← sub y x) turn)
        let backLeft ← truncate (← sub (← sub y x) turn)
        let backRight ← truncate (← add (← add y x) turn)
        return ⟨frontLeft, frontRight, backLeft, backRight⟩) := by
  unfold wheelSpeeds
  simp only [hdeg, hangle, hcos, hsin, hx, hy, hsize, bind, Except.bind]

theorem wheelSpeeds_eq_joined {velocity direction : Int} {degree angle c s : Float}
    (hdeg : Value.div (.float pi) (.int 180) = .ok (.float degree))
    (hangle : Value.mul (.int direction) (.float degree) = .ok (.float angle))
    (hcos : circular cosine (.float angle) = .ok (.float c))
    (hsin : circular sine (.float angle) = .ok (.float s))
    (hvel : (nearestInt velocity).isInf = false) (rate : Value) :
    wheelSpeeds (Value.int 67) (.int 59) (.int velocity) (.int direction) rate =
      rate.neg >>= fun back => Value.mul back (.int 126) >>=
        joined (nearestInt velocity * s) (nearestInt velocity * c) := by
  have hsize : Value.add (.int 67) (.int 59) = .ok (.int 126) := rfl
  have hx := Value.int_mul_float hvel c
  have hy := Value.int_mul_float hvel s
  -- nothing has to be known of the products, and they are better not computed
  generalize nearestInt velocity * c = x at hx
  generalize nearestInt velocity * s = y at hy
  exact wheelSpeeds_of_direction hdeg hangle hcos hsin hx hy hsize rate

theorem circular_eq_ok {f : Float → Float} {x y : Float}
    (h : x.isInf = false ∧ x.isNaN = false ∧ f x = y ∧ y.isFinite) :
    circular f (.float x) = .ok (.float y) := by
  obtain ⟨hinf, hnan, hy, hfin⟩ := h
  have hreal : (Value.float x).toReal = .ok x := rfl
  unfold circular
  simp only [hreal, bind, Except.bind, hinf, hnan, hy, hfin]
  rfl

theorem ahead_angle :
    Value.div (.float pi) (.int 180) = .ok (.float (pi / nearestInt 180)) ∧
      Value.mul (.int 90) (.float (pi / nearestInt 180)) = .ok (.float quarterTurn) ∧
      circular cosine (.float quarterTurn) = .ok (.float Value.shortfall) ∧
      circular sine (.float quarterTurn) = .ok (.float 1.0) := by
  refine ⟨Value.float_div_int rfl pi rfl, ?_,
    circular_eq_ok ⟨rfl, rfl, ?_, rfl⟩, circular_eq_ok ⟨rfl, rfl, ?_, rfl⟩⟩
  · exact congrArg (Except.ok ∘ Value.float) rfl
  · unfold cosine
    rfl
  · unfold sine
    rfl

theorem wheelSpeeds_right {velocity : Int} (h : (nearestInt velocity).isInf = false) :
    ∃ k : Int, wheelSpeeds (Value.int 67) (.int 59) (.int velocity) (.int 0) (.int 0) =
      .ok (.diagonal k) ∧ k.sign = velocity.sign := by
  have hdeg := Value.float_div_int (n := 180) rfl pi rfl
  have hangle : Value.mul (.int 0) (.float (pi / nearestInt 180)) = .ok (.float 0.0) := by
    exact congrArg (Except.ok ∘ Value.float) rfl
  have hcos : circular cosine (.float 0.0) = .ok (.float 1.0) := by
    refine circular_eq_ok ⟨rfl, rfl, ?_, rfl⟩
    unfold cosine
    rfl
  have hsin : circular sine (.float 0.0) = .ok (.float 0.0) := by
    refine circular_eq_ok ⟨rfl, rfl, ?_, rfl⟩
    unfold sine
    rfl
  obtain ⟨k, hk, hsign⟩ := wholePart?_nearestInt h
  have hfin := isFinite_of_wholePart? hk
  refine ⟨k, ?_, hsign⟩
  rw [wheelSpeeds_eq_joined hdeg hangle hcos hsin h]
  have h0 : IsZero (nearestInt velocity * 0.0) := isZero_mul hfin rfl (.inr rfl)
  rw [← wholePart?_of_exact (fun _ => hfin) fun _ => amount_mul_one hfin] at hk
  have hstill := isZero_nearestInt
  change joined _ _ (.int 0) = _
  -- nothing turns and nothing goes ahead, so that each wheel has the part to the right alone
  rw [joined_eq_ok_iff rfl]
  refine ⟨nearestInt 0, Value.toFloat_int rfl, ?_, ?_, ?_, ?_⟩
  · rw [wholePart?_sub_zero hstill, wholePart?_zero_add h0, hk]
    rfl
  · rw [wholePart?_add_zero hstill, wholePart?_zero_sub h0, hk]
    rfl
  · rw [wholePart?_sub_zero hstill, wholePart?_zero_sub h0, hk]
    rfl
  · rw [wholePart?_add_zero hstill, wholePart?_zero_add h0, hk]
    rfl

theorem joined_of_zeros {y x : Float} (hy : IsZero y) (hx : IsZero x) {turn : Value} {n : Num}
    (h : turn.num? = some n) : joined y x turn = .ok w ↔
      ∃ t k, n.toFloat = .ok t ∧ wholePart? t = some k ∧ w = .sided (-k) := by
  rw [joined_eq_ok_iff h]
  simp only [wholePart?_zero_sub (hy.add hx), wholePart?_zero_sub (hy.sub hx),
    wholePart?_zero_add (hy.add hx), wholePart?_zero_add (hy.sub hx)]
  constructor
  · rintro ⟨t, ht, hfrontLeft, hfrontRight, hbackLeft, hbackRight⟩
    refine ⟨t, _, ht, hfrontRight, ?_⟩
    rw [hfrontRight] at hfrontLeft hbackLeft hbackRight
    obtain ⟨frontLeft, frontRight, backLeft, backRight⟩ := w
    obtain rfl : -frontRight = frontLeft := Option.some.inj hfrontLeft
    obtain rfl : -frontRight = backLeft := Option.some.inj hbackLeft
    obtain rfl : frontRight = backRight := Option.some.inj hbackRight
    simp only [sided, Int.neg_neg]
  · rintro ⟨t, k, ht, hk, rfl⟩
    refine ⟨t, ht, ?_, ?_, ?_, ?_⟩ <;> simp [hk, sided]

def turnShare (rate : Value) : Result Float :=
  match rate.num? with
  | some (.int n) => (Num.int (-n * 126)).toFloat
  | some (.float x) => .ok (-x * nearestInt 126)
  | none => .error (.sign "-" rate.className)

theorem wheelSpeeds_turning {rate : Value} :
    wheelSpeeds (Value.int 67) (.int 59) (.int 0) (.int 90) rate = .ok w ↔
      ∃ t k, turnShare rate = .ok t ∧ wholePart? t = some k ∧ w = .sided (-k) := by
  obtain ⟨hdeg, hangle, hcos, hsin⟩ := ahead_angle
  have h0 := isZero_nearestInt
  have hx : IsZero (nearestInt 0 * Value.shortfall) :=
    isZero_mul h0.isFinite rfl (.inl h0.amount)
  have hy : IsZero (nearestInt 0 * 1.0) :=
    isZero_mul h0.isFinite rfl (.inl h0.amount)
  rw [wheelSpeeds_eq_joined hdeg hangle hcos hsin rfl]
  unfold turnShare Value.neg
  cases rate.num? with
  | none => simp [bind, Except.bind]
  | some number =>
    cases number with
    | int n => exact joined_of_zeros hy hx rfl
    | float x =>
      change joined _ _ (.float (-x * nearestInt 126)) = .ok w ↔ _
      exact joined_of_zeros hy hx (n := .float (-x * nearestInt 126)) rfl

theorem wheelSpeeds_turning_int {n : Int} (h : (nearestInt (-n * 126)).isInf = false) :
    ∃ k : Int, wheelSpeeds (Value.int 67) (.int 59) (.int 0) (.int 90) (.int n) =
      .ok (.sided k) ∧ k.sign = n.sign := by
  obtain ⟨k, hk, hsign⟩ := wholePart?_nearestInt h
  refine ⟨-k, wheelSpeeds_turning.mpr ⟨_, k, Value.toFloat_int h, hk, rfl⟩, ?_⟩
  have h1 : (126 : Int).sign = 1 := rfl
  rw [Int.sign_neg, hsign, Int.sign_mul, Int.sign_neg, h1]
  omega

end Chassis

namespace Motion

open Board (Driven)
open WheelSpeeds (SameWay)

def limited (m : Motion) (speed : Int) : Int := max (-m.maxSpeed) (min m.maxSpeed speed)

theorem clampSpeed_int (m : Motion) (speed : Int) :
    m.clampSpeed (.int speed) = .ok (.int (m.limited speed)) := within_int _ _ _

def Turn.signed (k : Int) : Turn → Int
  | .ahead => k
  | .back => -k

def Move.wheels (kind : Move) (k : Int) : WheelSpeeds :=
  ⟨kind.frontLeft.signed k, kind.frontRight.signed k, kind.backLeft.signed k,
    kind.backRight.signed k⟩

theorem speed_turn (kind : Move) (k : Int) (i : Fin 4) :
    (kind.turn i).speed (.int k) = .ok ((kind.wheels k).speed i) := by
  have hsgn : ∀ t : Turn, t.speed (.int k) = .ok (.int (t.signed k)) := by
    intro t
    cases t <;> rfl
  rcases i with ⟨_ | _ | _ | _ | i, hi⟩
  · exact hsgn kind.frontLeft
  · exact hsgn kind.frontRight
  · exact hsgn kind.backLeft
  · exact hsgn kind.backRight
  · omega

/-- From one state of the hardware to another the four wheels have got these speeds. -/
structure Turned (u : WheelSpeeds) (r t : Rig) : Prop where
  faults : t.pendingFaults ≤ 0
  delivered : t.delivered = r.delivered ++ u.frames
  records : t.board.motors = u.records

theorem Turned.driven {u : WheelSpeeds} {r t : Rig} (h : Turned u r t) : Driven u.speed r t :=
  ⟨u.order, u.carry_order, h.delivered, h.records⟩

theorem move_turned (m : Motion) (kind : Move) (speed : Int) {r : Rig}
    (hr : r.board.motors.length = 4) (hfaults : r.pendingFaults ≤ 1) :
    wp (m.move kind (.int speed)) (fun _ t => Turned (kind.wheels (m.limited speed)) r t)
      never r := by
  generalize hu : kind.wheels (m.limited speed) = u
  have heach : ∀ s : Rig, s.board.motors.length = 4 → s.pendingFaults ≤ 1 →
      wp (Board.commandEach u.speed [0, 1, 2, 3]) (fun _ t => Turned u s t) never s := by
    intro s hs h1
    rw [Board.wp_commandEach u.carry_order hs]
    -- a transfer that fails once is repeated, and it takes two faults to stop it
    cases htry : s.attempt? with
    | none =>
      have hmany := Rig.attempt?_eq_none.mp htry
      omega
    | some s' =>
      refine ⟨(Rig.attempt?_cases htry).1, ?_, rfl⟩
      rw [Board.delivered_turned, Rig.delivered_attempt? htry]
      rfl
  unfold move
  rw [wp_ok_bind (clampSpeed_int m speed), wp_bind, wp_info,
    wheels_eq_commandEach (speed_turn kind _), hu]
  exact wp_post (heach _ hr hfaults) fun _ t ht => { ht with }

/-- The word commands a fixed move with the speed that it is given. -/
structure Word.Commands (word : Word) (kind : Move) : Prop where
  mem : word ∈ words
  order : ∀ speed, word.order [speed] = .move kind speed
  command : ∃ c, Command.find? word.name = some c ∧
    ∀ speed, c.signature.bind [speed] [] = .ok [speed]

theorem commands_moves :
    words[0].Commands .forward ∧ words[1].Commands .backward ∧ words[2].Commands .left ∧
      words[3].Commands .right ∧ words[4].Commands .clockwise ∧
      words[5].Commands .counterClockwise := by
  refine ⟨?_, ?_, ?_, ?_, ?_, ?_⟩ <;> exact ⟨getElem_mem _, fun _ => rfl, _, rfl, fun _ => rfl⟩

/-- The word is obeyed with a speed and leads from one state to another. -/
def Obeys (name : String) (speed : Int) (v w : Vehicle) : Prop :=
  ∃ c answer, Command.find? name = some c ∧ c.call [.int speed] [] v = .ok answer w

theorem obeys_move {v : Vehicle} (hmot : v.rig.board.motors.length = 4)
    (hfaults : v.rig.pendingFaults ≤ 1) {word : Word} {kind : Move} (h : word.Commands kind)
    (speed : Int) :
    ∃ w, Obeys word.name speed v w ∧ w.motion = v.motion ∧
      Turned (kind.wheels (v.motion.limited speed)) v.rig w.rig := by
  obtain ⟨c, hc, hbind⟩ := h.command
  have hturned : wp (c.call [.int speed] []) (fun _ w => w.motion = v.motion ∧
      Turned (kind.wheels (v.motion.limited speed)) v.rig w.rig) never v := by
    unfold Command.call
    rw [wp_ok_bind (hbind _), act_of_word h.mem hc]
    unfold Word.act Vehicle.onRig HasRig.onRig
    simp only [wp_bind, wp_get, wp_onPart, wp_pure, h.order]
    exact wp_post (move_turned v.motion kind speed hmot hfaults) fun _ _ ht => ⟨rfl, ht⟩
  obtain ⟨answer, w, hcall, hw⟩ := wp_false_iff.mp hturned
  exact ⟨w, ⟨c, answer, hc, hcall⟩, hw⟩

/-- The word for a fixed move is obeyed with a speed, and these are the speeds that it passes to the
four wheels. -/
def Makes (v : Vehicle) (name : String) (speed : Int) (u : WheelSpeeds) : Prop :=
  ∃ c answer w, Command.find? name = some c ∧ c.call [.int speed] [] v = .ok answer w ∧
    Driven u.speed v.rig w.rig

theorem makes_sided_and_diagonal {v : Vehicle} (hmot : v.rig.board.motors.length = 4)
    (hfaults : v.rig.pendingFaults ≤ 1) (speed : Int) :
    Makes v "zuopingyi" speed (.sided (-v.motion.limited speed)) ∧
      Makes v "youpingyi" speed (.sided (v.motion.limited speed)) ∧
      Makes v "xuanzhuan" speed (.diagonal (v.motion.limited speed)) ∧
      Makes v "fxuanzhuan" speed (.diagonal (-v.motion.limited speed)) := by
  have hmakes : ∀ {word : Word} {kind : Move}, word.Commands kind → ∀ u,
      kind.wheels (v.motion.limited speed) = u → Makes v word.name speed u := by
    rintro word kind h _ rfl
    obtain ⟨w, ⟨c, answer, hc, hcall⟩, -, hturned⟩ := obeys_move hmot hfaults h speed
    exact ⟨c, answer, w, hc, hcall, hturned.driven⟩
  obtain ⟨-, -, hleft, hright, hcw, hcounter⟩ := commands_moves
  refine ⟨?_, hmakes hright _ rfl, hmakes hcw _ rfl, ?_⟩
  · refine hmakes hleft _ ?_
    simp [Move.wheels, Move.left, Turn.signed, sided]
  · refine hmakes hcounter _ ?_
    simp [Move.wheels, Move.counterClockwise, Turn.signed, diagonal]

variable {m : Motion}

theorem limited_eq_zero_iff (h : 0 ≤ m.maxSpeed) (speed : Int) :
    m.limited speed = 0 ↔ speed = 0 ∨ m.maxSpeed = 0 := by
  unfold limited
  omega

theorem sign_limited (h : 0 < m.maxSpeed) (speed : Int) : (m.limited speed).sign = speed.sign := by
  unfold limited
  rcases Int.lt_trichotomy speed 0 with hspeed | rfl | hspeed
  · rw [Int.sign_eq_neg_one_of_neg hspeed, Int.sign_eq_neg_one_of_neg (by omega)]
  · rw [Int.sign_eq_zero_iff_zero.mpr (by omega)]
    rfl
  · rw [Int.sign_eq_one_of_pos hspeed, Int.sign_eq_one_of_pos (by omega)]

/-- With any whole speed the moves to the side turn the vehicle on the spot and the turns on the
spot move it to the side: each has none of the part that it is named for, and has none of the other
part only where the speed comes to nothing. So the wheels turn as in the motion of the chassis of
the same name only when nothing moves, and as in the other one whenever the limit lets them. -/
theorem slides_turn_and_turns_slide {v : Vehicle} (hmotors : v.rig.board.motors.length = 4)
    (hfaults : v.rig.pendingFaults ≤ 1) (hlimit : 0 ≤ v.motion.maxSpeed) (speed : Int) :
    ∃ left right clockwise counter : WheelSpeeds,
      Makes v "zuopingyi" speed left ∧ Makes v "youpingyi" speed right ∧
      Makes v "xuanzhuan" speed clockwise ∧ Makes v "fxuanzhuan" speed counter ∧
      (∀ u ∈ [left, right, clockwise, counter], u.ahead = 0) ∧
      (∀ u ∈ [left, right], u.sideways = 0 ∧ (u.spin = 0 ↔ speed = 0 ∨ v.motion.maxSpeed = 0)) ∧
      (∀ u ∈ [clockwise, counter],
        u.spin = 0 ∧ (u.sideways = 0 ↔ speed = 0 ∨ v.motion.maxSpeed = 0)) ∧
      ((nearestInt speed).isInf = false → ∃ w,
        (Chassis.Order.velocity (.int speed) (.int 0) (.int 0) false).wheels {} = .ok w ∧
        w.ahead = 0 ∧ w.spin = 0 ∧ (SameWay right w ↔ speed = 0) ∧
        (0 < v.motion.maxSpeed → SameWay clockwise w)) ∧
      (∀ rate w, (Chassis.Order.velocity (.int 0) (.int 90) rate false).wheels {} = .ok w →
        w.ahead = 0 ∧ w.sideways = 0 ∧
        (SameWay clockwise w ↔ (speed = 0 ∨ v.motion.maxSpeed = 0) ∧ w.spin = 0)) ∧
      ∀ rate : Int, 0 < rate → (nearestInt (-rate * 126)).isInf = false → ∃ w,
        (Chassis.Order.velocity (.int 0) (.int 90) (.int rate) false).wheels {} = .ok w ∧
        ¬ SameWay clockwise w ∧ (0 < speed → 0 < v.motion.maxSpeed → SameWay right w) := by
  obtain ⟨hleft, hright, hclockwise, hcounter⟩ := makes_sided_and_diagonal hmotors hfaults speed
  have hstill := limited_eq_zero_iff hlimit speed
  refine ⟨_, _, _, _, hleft, hright, hclockwise, hcounter, ?_, ?_, ?_, ?_, ?_, ?_⟩
  · simp [parts_sided, parts_diagonal]
  · intro u hu
    obtain ⟨k, rfl, hk⟩ : ∃ k, u = .sided k ∧ (k = 0 ↔ v.motion.limited speed = 0) := by
      rw [mem_cons, mem_singleton] at hu
      rcases hu with rfl | rfl
      · exact ⟨_, rfl, by omega⟩
      · exact ⟨_, rfl, Iff.rfl⟩
    obtain ⟨-, hsideways, hspin⟩ := parts_sided k
    exact ⟨hsideways, by omega⟩
  · intro u hu
    obtain ⟨k, rfl, hk⟩ : ∃ k, u = .diagonal k ∧ (k = 0 ↔ v.motion.limited speed = 0) := by
      rw [mem_cons, mem_singleton] at hu
      rcases hu with rfl | rfl
      · exact ⟨_, rfl, Iff.rfl⟩
      · exact ⟨_, rfl, by omega⟩
    obtain ⟨-, hsideways, hspin⟩ := parts_diagonal k
    exact ⟨hspin, by omega⟩
  · intro hfinite
    obtain ⟨k, hwheels, hsign⟩ := Chassis.wheelSpeeds_right hfinite
    refine ⟨.diagonal k, hwheels, ?_, ?_, ?_, ?_⟩
    · exact (parts_diagonal k).1
    · exact (parts_diagonal k).2.2
    · rw [sameWay_sided_diagonal, hstill, ← Int.sign_eq_zero_iff_zero (a := k), hsign,
        Int.sign_eq_zero_iff_zero]
      omega
    · intro hpositive
      rw [sameWay_diagonal, sign_limited hpositive, hsign]
  · intro rate w hw
    obtain ⟨t, k, -, -, rfl⟩ := Chassis.wheelSpeeds_turning.mp hw
    have hparts := parts_sided (-k)
    refine ⟨hparts.1, hparts.2.1, ?_⟩
    rw [sameWay_diagonal_sided, hstill, hparts.2.2]
    omega
  · intro rate hrate hfinite
    obtain ⟨k, hwheels, hsign⟩ := Chassis.wheelSpeeds_turning_int hfinite
    rw [Int.sign_eq_one_of_pos hrate] at hsign
    refine ⟨.sided k, hwheels, ?_, ?_⟩
    · rw [sameWay_diagonal_sided]
      rintro ⟨-, rfl⟩
      cases hsign
    · intro hspeed hpositive
      rw [sameWay_sided, sign_limited hpositive, hsign, Int.sign_eq_one_of_pos hspeed]

theorem slides_turn_and_turns_slide_fifty :
    ∃ right, Makes {} "youpingyi" 50 right ∧ right.sideways = 0 ∧ right.spin ≠ 0 := by
  obtain ⟨left, right, -, -, -, hright, -, -, -, hslides, -⟩ :=
    slides_turn_and_turns_slide (v := {}) rfl (by decide) (by decide) 50
  obtain ⟨hsideways, hspin⟩ := hslides right (by simp)
  exact ⟨right, hright, hsideways, fun hzero => absurd (hspin.mp hzero) (by decide)⟩

/-- A slide to the right makes the wheels turn as in a clockwise turn of the chassis. -/
theorem slide_to_the_right_turns :
    Makes {} "youpingyi" 50 ⟨50, -50, 50, -50⟩ ∧ spin ⟨50, -50, 50, -50⟩ = 200 ∧
      ∃ k : Int, 0 < k ∧ (Chassis.Order.velocity (.int 0) (.int 90) (.int 1) false).wheels {} =
        .ok ⟨k, -k, k, -k⟩ := by
  refine ⟨(makes_sided_and_diagonal (v := {}) rfl (by decide) 50).2.1, rfl, ?_⟩
  obtain ⟨k, hwheels, hsign⟩ := Chassis.wheelSpeeds_turning_int (n := 1) (by decide +kernel)
  exact ⟨k, Int.sign_eq_one_iff_pos.mp hsign, hwheels⟩

/-! ## Opposite moves -/

theorem limited_neg (h : 0 ≤ m.maxSpeed) (speed : Int) : m.limited (-speed) = -m.limited speed := by
  unfold limited
  omega

theorem mounted_neg (i : Fin 4) (n : Int) : Board.mounted i (-n) = -Board.mounted i n := by
  unfold Board.mounted
  omega

def opposites : List (String × String) := [
  ("houtui", "qianjin"),
  ("zuopingyi", "youpingyi"),
  ("fxuanzhuan", "xuanzhuan")]

/-- A word for a fixed move, and the word for the opposite move with the opposite speed, deliver the
same to the four wheels and leave the same records. One after the other with the same speed, the
words for ahead and back leave opposite records. -/
theorem opposite_moves_mirror {v : Vehicle} (hlimit : 0 ≤ v.motion.maxSpeed)
    (hmotors : v.rig.board.motors.length = 4) (hfaults : v.rig.pendingFaults ≤ 0) (speed : Int) :
    (∀ names ∈ opposites, ∃ w w' frames, Obeys names.1 speed v w ∧ Obeys names.2 (-speed) v w' ∧
      frames.length = 4 ∧ w.rig.delivered = v.rig.delivered ++ frames ∧
      w'.rig.delivered = v.rig.delivered ++ frames ∧
      w.rig.board.motors = w'.rig.board.motors) ∧
    ∃ w w', Obeys "qianjin" speed v w ∧ Obeys "houtui" speed w w' ∧ ∃ records : Fin 4 → Int,
      w.rig.board.motors = ofFn (fun i => .int (records i)) ∧
      w'.rig.board.motors = ofFn (fun i => .int (-records i)) := by
  have hone : v.rig.pendingFaults ≤ 1 := by omega
  obtain ⟨hforward, hbackward, hleft, hright, hclockwise, hcounter⟩ := commands_moves
  have hpair : ∀ {word word' : Word} {kind kind' : Move}, word.Commands kind →
      word'.Commands kind' → (∀ k, kind.wheels k = kind'.wheels (-k)) →
      ∃ w w' frames, Obeys word.name speed v w ∧ Obeys word'.name (-speed) v w' ∧
        frames.length = 4 ∧ w.rig.delivered = v.rig.delivered ++ frames ∧
        w'.rig.delivered = v.rig.delivered ++ frames ∧
        w.rig.board.motors = w'.rig.board.motors := by
    intro word word' kind kind' h h' hopposite
    obtain ⟨w, hw, -, hturned⟩ := obeys_move hmotors hone h speed
    obtain ⟨w', hw', -, hturned'⟩ := obeys_move hmotors hone h' (-speed)
    rw [limited_neg hlimit, ← hopposite] at hturned'
    exact ⟨w, w', _, hw, hw', length_ofFn, hturned.delivered, hturned'.delivered,
      hturned.records.trans hturned'.records.symm⟩
  constructor
  · simp only [opposites, forall_mem_cons]
    refine ⟨hpair hbackward hforward fun _ => rfl, hpair hleft hright fun k => ?_,
      hpair hcounter hclockwise fun k => ?_, forall_mem_nil _⟩
    · simp [Move.wheels, Move.left, Move.right, Turn.signed]
    · simp [Move.wheels, Move.counterClockwise, Move.clockwise, Turn.signed]
  · obtain ⟨w, hw, hmotion, hturned⟩ := obeys_move hmotors hone hforward speed
    have hmotors' : w.rig.board.motors.length = 4 := hturned.records ▸ length_ofFn
    obtain ⟨w', hw', -, hturned'⟩ := obeys_move hmotors' (hturned.faults.trans (by decide))
      hbackward speed
    rw [hmotion] at hturned'
    refine ⟨w, w', hw, hw', fun i => Board.mounted i (v.motion.limited speed), ?_, ?_⟩
    · rw [hturned.records]
      rfl
    · rw [hturned'.records]
      simp only [← mounted_neg]
      rfl

/-- The vehicle goes back at a speed beyond its limit. -/
theorem opposite_moves_mirror_fast :
    ∃ w w', Obeys "houtui" 90 {} w ∧ Obeys "qianjin" (-90) {} w' ∧
      w.rig.board.motors = w'.rig.board.motors := by
  obtain ⟨w, w', -, hw, hw', -, -, -, hsame⟩ := (opposite_moves_mirror (v := {}) (by decide) rfl
    (by decide) 90).1 ("houtui", "qianjin") (by decide)
  exact ⟨w, w', hw, hw', hsame⟩

end Motion

end Rover
