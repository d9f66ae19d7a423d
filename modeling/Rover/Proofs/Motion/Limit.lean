import Rover.Proofs.Board.Coherence
import Rover.Proofs.Motion.Wheels

/-!
# The speed limit

The fixed moves keep within the vehicle's limit. Moves in any direction do so only if the wheel
speeds that the chassis computes for them happen to be within it: nothing cuts these but the board,
at a limit of its own.
-/

namespace Rover

namespace Board

variable {limit : Int} {v index : Value}

theorem motorCommand_bounded (index : Value) (h : v.Bounded limit) (hlim : limit ≤ 100) :
    ∃ command, motorCommand index v = .ok command ∧ command.Bounded limit := by
  unfold motorCommand
  simp only
  split
  · exact ⟨v, cut_of_bounded h hlim, h⟩
  · obtain ⟨w, hneg, hw⟩ := h.neg
    rw [hneg]
    exact ⟨w, cut_of_bounded hw hlim, hw⟩

/-! ## What is sent -/

def sentTo (r t : Rig) (register : Nat) : List Nat :=
  (t.bytesTo register).drop (r.bytesTo register).length

def WithinLimit (limit : Int) (r t : Rig) : Prop :=
  ∀ motor : Fin 4, ∀ byte ∈ sentTo r t (31 + motor), ((Rig.signed byte).natAbs : Int) ≤ limit

section
variable {orders : Fin 4 → MotorOrder} {r t : Rig} (hmotor : ∀ i, (orders i).motor = i)
  (h : t.delivered = r.delivered ++ List.ofFn fun i => (orders i).frame)
include hmotor h

theorem mem_sentTo_iff {motor : Fin 4} {byte : Nat} :
    byte ∈ sentTo r t (31 + motor) ↔ byte = ((orders motor).speed % 256).toNat := by
  unfold sentTo Rig.bytesTo
  rw [h, List.filterMap_append, List.drop_left, List.mem_filterMap]
  simp only [List.mem_ofFn, exists_exists_eq_and, MotorOrder.byteTo?_frame, hmotor]
  constructor
  · rintro ⟨i, hbyte⟩
    split at hbyte
    · rename_i hsame
      rw [hsame]
      exact (Option.some.inj hbyte).symm
    · cases hbyte
  · rintro rfl
    exact ⟨motor, if_pos rfl⟩

theorem withinLimit_iff : WithinLimit limit r t ↔ ∀ i, ((orders i).speed.natAbs : Int) ≤ limit := by
  refine forall_congr' fun i => ?_
  have hlo := (orders i).low
  have hhi := (orders i).high
  simp only [mem_sentTo_iff hmotor h, forall_eq]
  rw [Rig.signed_emod (by omega) (by omega)]

end

theorem MotorOrder.speed_le {o : MotorOrder} (h : motorCommand index v = .ok o.command)
    (hv : v.Bounded limit) (hlim : limit ≤ 100) : (o.speed.natAbs : Int) ≤ limit := by
  obtain ⟨command, hcmd, hbd⟩ := motorCommand_bounded index hv hlim
  rw [h] at hcmd
  cases hcmd
  have hspeed := hbd.integer o.integer
  omega

end Board

def WheelSpeeds.Within (limit : Int) (w : WheelSpeeds) : Prop :=
  ∀ speed ∈ [w.frontLeft, w.frontRight, w.backLeft, w.backRight],
    min 100 (speed.natAbs : Int) ≤ limit

namespace Motion

open Board (Driven MotorOrder WithinLimit withinLimit_iff)

section
variable {limit : Int} {v w : Value}

theorem bounded_of_within (hlim : 0 ≤ limit) (h : v.within (-limit) limit = .ok w) :
    w.Bounded limit := by
  rcases within_cases h with rfl | rfl | hbd
  · exact Value.bounded_int.mpr ⟨by omega, by omega⟩
  · exact Value.bounded_int.mpr ⟨by omega, by omega⟩
  · exact hbd

theorem Turn.speed_bounded (t : Turn) (h : v.Bounded limit) :
    ∃ w, t.speed v = .ok w ∧ w.Bounded limit := by
  cases t with
  | ahead => exact ⟨v, rfl, h⟩
  | back => exact h.neg

end

theorem speed_of_carry {w : WheelSpeeds} {orders : Fin 4 → MotorOrder}
    (h : Board.Carry orders w.speed) (i : Fin 4) :
    ((orders i).speed.natAbs : Int) = min 100 ((w.wheel i).natAbs : Int) := by
  have hint := (orders i).integer
  rw [← Except.ok.inj ((w.carry_order i).2.symm.trans (h i).2)] at hint
  rw [← show Board.mounted i (w.wheel i) = (orders i).speed from Option.some.inj hint]
  unfold Board.mounted
  omega

theorem within_iff {limit : Int} {w : WheelSpeeds} :
    w.Within limit ↔ ∀ i, min 100 ((w.wheel i).natAbs : Int) ≤ limit := by
  simp [WheelSpeeds.Within, Fin.forall_fin_succ, WheelSpeeds.wheel]

theorem withinLimit_of_driven {m : Motion} (hlo : 0 ≤ m.maxSpeed) (hhi : m.maxSpeed ≤ 100)
    {o : Order} {speeds : Fin 4 → Value} (hspeeds : o.speeds m = .ok speeds) {r t : Rig}
    (h : Driven speeds r t) :
    WithinLimit m.maxSpeed r t ↔ ∀ w, o.steered m = some (.ok w) → w.Within m.maxSpeed := by
  obtain ⟨orders, hcarry, hdel, -⟩ := h
  rw [withinLimit_iff (fun i => (hcarry i).1) hdel]
  unfold Order.speeds at hspeeds
  cases hsteered : o.steered m with
  | some e =>
    rw [hsteered] at hspeeds
    cases e with
    | error f => cases hspeeds
    | ok w =>
      cases hspeeds
      simp only [Option.some.injEq, Except.ok.injEq, forall_eq', speed_of_carry hcarry, within_iff]
  | none =>
    -- no speeds are computed, so both sides have to hold
    refine iff_of_true (fun i => ?_) nofun
    cases o with
    | move kind speed =>
      cases hclamp : m.clampSpeed speed with
      | error f =>
        simp only [Order.steered, hclamp] at hspeeds
        cases hspeeds
      | ok ahead =>
        obtain ⟨_, hspeeds', hturn, -⟩ := exists_speeds hclamp kind
        cases hspeeds'.symm.trans hspeeds
        obtain ⟨w, hw, hbd⟩ := (kind.turn i).speed_bounded (bounded_of_within hlo hclamp)
        cases (hturn i).symm.trans hw
        exact MotorOrder.speed_le (hcarry i).2 hbd hhi
    | stop =>
      cases hspeeds
      rw [speed_of_carry hcarry i]
      refine (Int.min_le_right ..).trans ?_
      unfold WheelSpeeds.wheel
      split <;> exact hlo
    | atAngle angle speed => cases hsteered
    | along x y => cases hsteered

/-- A call that comes to its end keeps within the limit of the vehicle, unless the chassis computes
wheel speeds for it that do not. -/
theorem limit_kept_iff {word : Word} (hword : word ∈ words) {c : Command}
    (hc : Command.find? word.name = some c) (positional : List Value)
    (named : List (String × Value)) {v w : Vehicle} (hlow : 0 ≤ v.motion.maxSpeed)
    (hhigh : v.motion.maxSpeed ≤ 100) (hmotors : v.rig.board.motors.length = 4) {answer : Value}
    (h : c.call positional named v = .ok answer w) :
    ∃ args, c.signature.bind positional named = .ok args ∧
      (WithinLimit v.motion.maxSpeed v.rig w.rig ↔
        ∀ speeds, (word.order args).steered v.motion = some (.ok speeds) →
          speeds.Within v.motion.maxSpeed) := by
  obtain ⟨args, hargs, hact⟩ := Op.exists_of_except_bind h
  refine ⟨args, hargs, ?_⟩
  rw [act_of_word hword hc] at hact
  obtain ⟨speeds, hspeeds, hdriven⟩ := (Op.wp_of_ok hact).mp (act_driven word args hmotors)
  exact withinLimit_of_driven hlow hhigh hspeeds hdriven

def halved : Vehicle := { motion := { maxSpeed := 50 } }

theorem limit_kept_iff_slow_slide :
    ∃ c answer w, Command.find? "yidong_xy" = some c ∧
      c.call [.int 33, .int 0] [] halved = .ok answer w ∧ WithinLimit 50 halved.rig w.rig := by
  obtain ⟨c, hc⟩ : ∃ c, Command.find? "yidong_xy" = some c := ⟨_, rfl⟩
  have hcompletes : (c.call [.int 33, .int 0] []).completes halved = true := by
    cases hc
    decide +kernel
  obtain ⟨answer, w, h⟩ := Op.exists_result_of_completes hcompletes
  have hword : words[10] ∈ words := List.getElem_mem _
  obtain ⟨args, hargs, hiff⟩ := limit_kept_iff hword hc _ _ (by decide) (by decide) rfl h
  refine ⟨c, answer, w, hc, h, hiff.mpr fun speeds hspeeds => ?_⟩
  have hcomputed : ((words[10].order [.int 33, .int 0]).steered halved.motion).bind
      Except.toOption = some ⟨33, -33, -33, 33⟩ := by decide +kernel
  have hbound : c.signature.bind [.int 33, .int 0] [] = .ok [.int 33, .int 0] := by
    cases hc
    rfl
  cases hbound.symm.trans hargs
  rw [hspeeds] at hcomputed
  cases hcomputed
  unfold WheelSpeeds.Within
  decide

/-- At full speed the vehicle slides to the right with all wheels beyond the limit. -/
theorem full_slide_exceeds_limit :
    ∃ c answer w, Command.find? "yidong_xy" = some c ∧
      c.call [.int 100, .int 0] [] halved = .ok answer w ∧
      ∀ motor : Fin 4, ∃ byte ∈ Board.sentTo halved.rig w.rig (31 + motor),
        50 < (Rig.signed byte).natAbs := by
  obtain ⟨c, hc⟩ : ∃ c, Command.find? "yidong_xy" = some c := ⟨_, rfl⟩
  have hcompletes : (c.call [.int 100, .int 0] []).completes halved = true := by
    cases hc
    decide +kernel
  have hsent : ∀ motor : Fin 4, ∃ byte ∈ Board.sentTo halved.rig
      ((c.call [.int 100, .int 0] []).after halved).rig (31 + motor),
        50 < (Rig.signed byte).natAbs := by
    cases hc
    decide +kernel
  obtain ⟨answer, w, h⟩ := Op.exists_result_of_completes hcompletes
  refine ⟨c, answer, w, hc, h, ?_⟩
  rw [Op.after_of_ok h] at hsent
  exact hsent

end Motion

end Rover
