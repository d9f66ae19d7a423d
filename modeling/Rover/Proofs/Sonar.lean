import Rover.Proofs.Games.Play
import Rover.Proofs.Number
import Rover.Remote.Methods

/-!
# The lamps of the distance sensor

A lamp has three registers for the shades of its colour, and the program keeps the colours it has
set. A transfer that fails comes before the others of its call, so that a colour is either written
and kept or neither: what is kept always shows what the registers hold. Who sets a colour from
outside is told that it was set, also where a lamp has refused it.
-/

namespace Rover.Sonar

open Value

theorem intAnd_byte (m : Int) : intAnd 0xFF m = m % 256 ∧ intAnd m 0xFF = m % 256 := by
  have hlo (a : Nat) : a &&& 255 = a % 256 := Nat.and_two_pow_sub_one_eq_mod a 8
  cases m with
  | ofNat a =>
    have hand : ((a &&& 255 : Nat) : Int) = a % 256 := congrArg Int.ofNat (hlo a)
    exact ⟨(congrArg Int.ofNat (Nat.and_comm ..)).trans hand, hand⟩
  | negSucc a =>
    have hand : ((255 - (a &&& 255) : Nat) : Int) = Int.negSucc a % 256 := by rw [hlo]; omega
    refine ⟨?_, hand⟩
    rw [← hand, Nat.and_comm]
    rfl

theorem shiftRight_int (c : Int) {n : Nat} :
    (int c).shiftRight (.int n) = .ok (.int (c / twoPow n)) :=
  congrArg (fun k => Except.ok (int k)) (Int.fdiv_eq_ediv_of_nonneg c (Int.natCast_nonneg _))

theorem colorByte_int (c : Int) (n : Nat) :
    colorByte (.int c) n = .ok (.int (c / twoPow n % 256)) := by
  unfold colorByte
  rw [shiftRight_int]
  exact congrArg (fun k => Except.ok (int k)) (intAnd_byte _).1

/-- The amounts of red, green and blue in a colour. -/
def shades (color : Int) : List Int := [color / 65536 % 256, color / 256 % 256, color % 256]

/-- What the register holds: the byte that was last written to it. -/
def held (r : Rig) (register : Int) : Int :=
  r.events.foldl (fun held e => match e with
    | .register address (.int n) (.int v) =>
      if address = Rig.sonarAddress ∧ n = register then v else held
    | _ => held) 0

variable (r : Rig)

def heldShades (first : Int) : List Int := [first, first + 1, first + 2].map (held r)

def wrote (n v : Int) : Rig :=
  { r with events := r.events.push (.register Rig.sonarAddress (.int n) (.int v)) }

theorem held_wrote (n v register : Int) :
    held (wrote r n v) register = if n = register then v else held r register := by
  unfold held wrote
  simp

theorem held_failed (register : Int) : held r.failed register = held r register := by
  unfold held Rig.failed
  rw [Array.foldl_push]

variable {E : Exit → Rig → Prop}

theorem wp_writeRegister {Q : Unit → Rig → Prop} {r : Rig} (n v : Int) :
    wp (Rig.writeRegister Rig.sonarAddress (.int n) (.int v)) Q E r ↔
      if 0 < r.pendingFaults then E (.fault .bus) r.failed else Q () (wrote r n v) := by
  unfold Rig.writeRegister
  rw [wp_bind, Rig.wp_meetFault_iff]
  rfl

/-- The lamp's three registers, written one after the other. -/
def painted (first color : Int) : Rig :=
  wrote (wrote (wrote r first (color / 65536 % 256)) (first + 1) (color / 256 % 256)) (first + 2)
    (color % 256)

theorem heldShades_painted (first color : Int) :
    heldShades (painted r first color) first = shades color := by
  unfold heldShades painted shades
  simp (disch := omega) [held_wrote, if_neg]

theorem heldShades_painted_of_ne {first other : Int} (color : Int)
    (h : other + 2 < first ∨ first + 2 < other) :
    heldShades (painted r first color) other = heldShades r other := by
  unfold heldShades painted
  simp (disch := omega) [held_wrote, if_neg]

theorem isLamp_int (n : Int) : isLamp (.int n) ↔ n = 0 ∨ n = 1 := by
  unfold isLamp
  rw [Value.int_same_int, Value.int_same_int, Bool.or_eq_true, decide_eq_true_iff, decide_eq_true_iff]

theorem wp_setPixel {Q : Sonar → Rig → Prop} {r : Rig} (s : Sonar) (lamp : Fin 2) (color : Int) :
    wp (s.setPixel (.int lamp) (.int color)) Q E r ↔
      if 0 < r.pendingFaults then Q s r.failed
      else Q { s with pixels := s.pixels.set lamp (.int color) }
        (painted r (3 + 3 * (lamp : Int)) color) := by
  have hlo : bitAnd (.int 0xFF) (.int color) = .ok (.int (color % 256)) :=
    congrArg (fun k => Except.ok (int k)) (intAnd_byte color).1
  have hlamp : isLamp (.int lamp) := (isLamp_int _).mpr (by omega)
  have hfst : (if same (.int lamp) (.int 0) then 3 else 6 : Int) = 3 + 3 * (lamp : Int) := by
    rw [Value.int_same_int]
    split <;> simp_all <;> omega
  have hhi : colorByte (.int color) 16 = .ok (.int (color / 65536 % 256)) := colorByte_int color 16
  have hmid : colorByte (.int color) 8 = .ok (.int (color / 256 % 256)) := colorByte_int color 8
  unfold setPixel
  rw [wp_guarded, hlamp, Bool.not_true, if_neg Bool.false_ne_true, hfst]
  rw [wp_ok_bind hhi, wp_bind, wp_writeRegister]
  by_cases hfault : 0 < r.pendingFaults
  · rw [if_pos hfault, if_pos hfault, wp_pure]
  · rw [if_neg hfault, if_neg hfault, wp_ok_bind hmid, wp_bind, wp_writeRegister,
      if_neg (show ¬ 0 < (wrote r _ _).pendingFaults from hfault), wp_ok_bind hlo, wp_bind,
      wp_writeRegister, if_neg (show ¬ 0 < (wrote (wrote r _ _) _ _).pendingFaults from hfault)]
    rfl

/-! ## Calls of the lamps -/

inductive LampCall where
  | setPixel (index color : Int)
  | setMode (mode : Int)
  | setBreathing (index color cycle : Int)
  | startSymphony

def LampCall.perform (s : Sonar) : LampCall → Op Rig Sonar
  | setPixel index color => s.setPixel (.int index) (.int color)
  | setMode mode => do
    Sonar.setMode (.int mode)
    return s
  | setBreathing index color cycle => do
    Sonar.setBreathing (.int index) (.int color) (.int cycle)
    return s
  | startSymphony => do
    Sonar.startSymphony
    return s

/-- A call before which so many transfers were made to fail. -/
def attempt (call : Int × LampCall) : Op (Rig × Sonar) Unit := do
  modify fun (r, s) => ({ r with pendingFaults := call.1 }, s)
  let s ← HasRig.onRig (call.2.perform (← get).2)
  modify fun (r, _) => (r, s)

/-- The registers of the two lamps hold the shades of two colours. -/
def Shows (first second : Int) (r : Rig) : Prop :=
  heldShades r 3 = shades first ∧ heldShades r 6 = shades second

def Agrees (s : Rig × Sonar) : Prop :=
  ∃ first second : Int, s.2 = ⟨[.int first, .int second]⟩ ∧ Shows first second s.1

section
variable {first second : Int} {r : Rig}

theorem Shows.failed (h : Shows first second r) : Shows first second r.failed := by
  unfold Shows heldShades at h ⊢
  simpa only [List.map, held_failed] using h

theorem Shows.wrote (h : Shows first second r) {n : Int} (hn : n < 3 ∨ 8 < n) (v : Int) :
    Shows first second (Sonar.wrote r n v) := by
  unfold Shows heldShades at h ⊢
  simp (disch := omega) only [List.map, held_wrote, if_neg]
  exact h

theorem setMode_shows (mode : Int) :
    Returns (Shows first second) () (Shows first second) (setMode (.int mode)) := by
  intro r h
  unfold setMode
  rw [Op.wp_ignoring, wp_writeRegister]
  split
  · exact ⟨rfl, h.failed⟩
  · exact ⟨rfl, h.wrote (.inl (by decide)) mode⟩

theorem setBreathing_shows (index color cycle : Int) :
    Returns (Shows first second) () (Shows first second)
      (setBreathing (.int index) (.int color) (.int cycle)) := by
  intro r h
  have hadd (m : Int) : add (.int m) (.int color) = .ok (.int (m + color)) := rfl
  unfold setBreathing
  rw [Op.wp_ignoring, wp_ite]
  split
  · exact ⟨rfl, h⟩
  rw [wp_ok_bind (int_less_int color 0), wp_ok_bind (int_greater_int color 2), wp_ite]
  split
  · exact ⟨rfl, h⟩
  rename_i hcol
  rw [Bool.or_eq_true, decide_eq_true_iff, decide_eq_true_iff] at hcol
  refine wp_except_bind (fun period _ => ?_) fun _ _ => ⟨rfl, h⟩
  refine wp_except_bind (fun steps _ => ?_) fun _ _ => ⟨rfl, h⟩
  rw [wp_ok_bind (hadd _), wp_writeRegister]
  split
  · exact ⟨rfl, h.failed⟩
  · exact ⟨rfl, h.wrote (.inr (by split <;> omega)) steps⟩

theorem startSymphony_shows : Returns (Shows first second) () (Shows first second) startSymphony :=
  .bind (setMode_shows 1) (.bind (setBreathing_shows 1 0 2000) (.bind (setBreathing_shows 1 1 3300)
    (.bind (setBreathing_shows 1 2 4700) (.bind (setBreathing_shows 2 0 4600)
      (.bind (setBreathing_shows 2 1 2000) (setBreathing_shows 2 2 3400))))))

theorem setPixel_shows (index color : Int) (h : Shows first second r) :
    wp (setPixel ⟨[.int first, .int second]⟩ (.int index) (.int color))
      (fun s q => Agrees (q, s)) never r := by
  by_cases hlamp : isLamp (.int index)
  · rcases (isLamp_int index).mp hlamp with rfl | rfl
    · refine (wp_setPixel _ 0 color).mpr ?_
      split
      · exact ⟨first, second, rfl, h.failed⟩
      · exact ⟨color, second, rfl, heldShades_painted r 3 color,
          (heldShades_painted_of_ne r color (.inr (by decide))).trans h.2⟩
    · refine (wp_setPixel _ 1 color).mpr ?_
      split
      · exact ⟨first, second, rfl, h.failed⟩
      · exact ⟨first, color, rfl, (heldShades_painted_of_ne r color (.inl (by decide))).trans h.1,
          heldShades_painted r 6 color⟩
  · unfold setPixel
    rw [wp_guarded, (Bool.not_eq_true _).mp hlamp]
    exact ⟨first, second, rfl, h⟩

theorem perform_agrees (call : LampCall) (h : Shows first second r) :
    wp (call.perform ⟨[.int first, .int second]⟩) (fun s q => Agrees (q, s)) never r := by
  have hkept {op : Op Rig Unit} (hop : Returns (Shows first second) () (Shows first second) op) :
      wp (do op; return (⟨[.int first, .int second]⟩ : Sonar)) (fun s q => Agrees (q, s)) never r := by
    rw [wp_bind]
    exact wp_post (hop r h) fun _ _ hq => ⟨first, second, rfl, hq.2⟩
  cases call with
  | setPixel index color => exact setPixel_shows index color h
  | setMode mode => exact hkept (setMode_shows mode)
  | setBreathing index color cycle => exact hkept (setBreathing_shows index color cycle)
  | startSymphony => exact hkept startSymphony_shows

end

theorem attempt_agrees (call : Int × LampCall) : Returns Agrees () Agrees (attempt call) := by
  rintro ⟨r, _⟩ ⟨first, second, rfl, h⟩
  unfold attempt
  rw [wp_bind, wp_modify, wp_bind, wp_get, wp_bind]
  refine (wp_onPart ..).mpr ?_
  exact wp_post (perform_agrees call.2 h) fun _ _ hs => ⟨rfl, hs⟩

theorem runAll_agrees (r : Rig) (calls : List (Int × LampCall)) :
    Agrees (Op.runAll attempt calls ({ r with events := #[] }, {})) := by
  refine runAll_keeps (fun call => keeps_iff_wp.mpr fun s hs => ?_) calls ⟨0, 0, rfl, rfl, rfl⟩
  exact wp_of_total (attempt_agrees call s hs) fun _ _ h => h.2

theorem getPixel_int (first second : Int) (lamp : Fin 2) :
    getPixel ⟨[.int first, .int second]⟩ (.int lamp) =
      .ok (.tuple ((shades ([first, second].get lamp)).map .int)) := by
  have hlamp : isLamp (.int lamp) := (isLamp_int _).mpr (by omega)
  have hitem : ∀ lamp : Fin 2, itemAt [.int first, .int second] "list" (.int lamp) =
      .ok (.int ([first, second].get lamp)) := Fin.forall_fin_two.mpr ⟨rfl, rfl⟩
  have hand (m : Int) : (int m).bitAnd (.int 0xFF) = .ok (.int (m % 256)) :=
    congrArg (fun k => Except.ok (int k)) (intAnd_byte m).2
  have hwhole (c : Int) : c / twoPow 0 = c := Int.ediv_one c
  unfold getPixel
  rw [hlamp, Bool.not_true, if_neg Bool.false_ne_true]
  simp only [hitem, bind, Except.bind]
  rw [show (16 : Int) = (16 : Nat) from rfl, show (8 : Int) = (8 : Nat) from rfl,
    show (0 : Int) = (0 : Nat) from rfl]
  simp only [shiftRight_int, hand, hwhole]
  rfl

theorem packColor_int (red green blue : Fin 256) :
    Board.packColor (.int red) (.int green) (.int blue) =
      .ok (.int (65536 * red + 256 * green + blue)) := by
  have hor (a b : Nat) : intOr a b = (a ||| b : Nat) := by
    have hnot (a : Nat) : -(a : Int) - 1 = Int.negSucc a := by omega
    rw [intOr, hnot, hnot]
    change -(Int.negSucc (a ||| b)) - 1 = _
    omega
  have hhi : red.val * 65536 ||| green.val * 256 = 2 ^ 8 * (256 * red + green) := by
    have hbelow : green.val * 256 < 2 ^ 16 := by omega
    rw [Nat.mul_comm, ← Nat.two_pow_add_eq_or_of_lt hbelow red.val]
    omega
  change Except.ok (int (intOr (intOr (red.val * 65536 : Nat)
    (green.val * 256 : Nat)) blue.val)) = _
  rw [hor, hor, hhi, ← Nat.two_pow_add_eq_or_of_lt blue.isLt]
  congr 2
  omega

theorem shades_packed (red green blue : Fin 256) :
    shades (65536 * red + 256 * green + blue) = [↑red.val, ↑green.val, ↑blue.val] := by
  simp only [shades, List.cons.injEq, and_true]
  omega

theorem getPixel_after_setPixel {s : Rig × Sonar} (h : Agrees s) (lamp : Fin 2) (color : Int) :
    ((attempt (0, .setPixel lamp color)).after s).2.getPixel (.int lamp) =
      .ok (.tuple ((shades color).map .int)) := by
  obtain ⟨first, second, hs, -⟩ := h
  have hset : ∀ lamp : Fin 2, getPixel ⟨s.2.pixels.set lamp (.int color)⟩ (.int lamp) =
      .ok (.tuple ((shades color).map .int)) := by
    rw [hs]
    exact Fin.forall_fin_two.mpr ⟨getPixel_int color second 0, getPixel_int first color 1⟩
  refine (wp_after_iff (P := fun t : Rig × Sonar => t.2.getPixel _ = _)).mp ?_
  unfold attempt
  rw [wp_bind, wp_modify, wp_bind, wp_get, wp_bind]
  refine (wp_onPart ..).mpr ((wp_setPixel s.2 lamp color).mpr ?_)
  exact hset lamp

theorem lamps_mirror_registers (r : Rig) (calls : List (Int × LampCall)) :
    let s := Op.runAll attempt calls ({ r with events := #[] }, {})
    (∀ lamp : Fin 2,
      s.2.getPixel (.int lamp) = .ok (.tuple ((heldShades s.1 (3 + 3 * lamp)).map .int))) ∧
    (∀ call, (attempt call).completes s = true) ∧
    ∀ (lamp : Fin 2) (red green blue : Fin 256), ∃ color : Int,
      Board.packColor (.int red) (.int green) (.int blue) = .ok (.int color) ∧
      ((attempt (0, .setPixel lamp color)).after s).2.getPixel (.int lamp) =
        .ok (.tuple [.int red, .int green, .int blue]) := by
  intro s
  have hagrees : Agrees s := runAll_agrees r calls
  obtain ⟨first, second, hs, hshows⟩ := id hagrees
  refine ⟨fun lamp => ?_, fun call => ?_, fun lamp red green blue => ?_⟩
  · have hheld : ∀ lamp : Fin 2, heldShades s.1 (3 + 3 * lamp) = shades ([first, second].get lamp) :=
      Fin.forall_fin_two.mpr hshows
    rw [hs, getPixel_int, hheld]
  · obtain ⟨_, _, hok, -⟩ := wp_false_iff.mp (attempt_agrees call s hagrees)
    rw [Op.completes, hok]
  · refine ⟨_, packColor_int red green blue, ?_⟩
    rw [getPixel_after_setPixel hagrees, shades_packed]
    rfl

end Rover.Sonar

/-! ## Colours that are set from outside -/

namespace Rover.Remote.Method

open Sonar Roaming

/-- On the way from one state to the other something was sent, and now the lamp has the colour. -/
def Lit (red green blue : Fin 256) (p q : Play Server) (lamp : Fin 2) : Prop :=
  p.rig.events.size < q.rig.events.size ∧
    heldShades q.rig (3 + 3 * (lamp : Int)) = [↑red.val, ↑green.val, ↑blue.val]

section
variable (red green blue : Fin 256) {p : Play Server} {s : Sonar} (hsonar : p.sonar = some s)
include hsonar

theorem setSonarColor_single {index : Int} (hidx : index ≠ 0) :
    setSonarColor (.int index) (.int red) (.int green) (.int blue) p =
      .ok (done "SetSonarRGB" (.tuple [.int red, .int green, .int blue])) p := by
  -- a colour that is not packed into a number is refused by every lamp, and nobody is told
  have hrefused : s.setPixel (.int index) (.tuple [.int red, .int green, .int blue]) p.rig =
      .ok s p.rig := by
    unfold setPixel
    cases isLamp (.int index) <;> rfl
  have hlamp : setSonarLamp (.int index) (.tuple [.int red, .int green, .int blue]) p =
      .ok () p := by
    refine Op.wp_outcome_iff (R := (· = _)).mp ?_
    rw [wp_setSonarLamp, hsonar]
    refine (wp_of_ok hrefused).mpr ?_
    rw [← hsonar]
  unfold setSonarColor
  rw [Value.int_same_int, decide_eq_false hidx]
  exact Op.bind_of_ok hlamp

variable (hcalm : ¬ 0 < p.rig.pendingFaults)
include hcalm

theorem setSonarColor_zero :
    wp (setSonarColor (.int 0) (.int red) (.int green) (.int blue))
      (fun v q => v = done "SetSonarRGB" (.tuple [.int red, .int green, .int blue]) ∧
        ∀ lamp, Lit red green blue p q lamp) never p := by
  have hcol := packColor_int red green blue
  have hshades := shades_packed red green blue
  generalize (65536 * red + 256 * green + blue : Int) = color at hcol hshades
  have hmore : p.rig.events.size < (painted (painted p.rig 3 color) 6 color).events.size := by
    simp only [painted, wrote, Array.size_push]
    omega
  unfold setSonarColor
  rw [Value.int_same_int]
  change wp (liftM (Board.packColor _ _ _) >>= _) _ _ _
  rw [wp_ok_bind hcol, wp_bind, wp_setSonarLamp, hsonar]
  refine (wp_setPixel _ 0 color).mpr ?_
  rw [if_neg hcalm, wp_ok_bind hcol, wp_bind, wp_setSonarLamp]
  refine (wp_setPixel _ 1 color).mpr ?_
  rw [if_neg (by exact hcalm)]
  refine ⟨rfl, Fin.forall_fin_two.mpr ⟨⟨hmore, ?_⟩, hmore, ?_⟩⟩
  · refine (heldShades_painted_of_ne _ _ (.inl (by decide))).trans ?_
    exact (heldShades_painted _ _ _).trans hshades
  · exact (heldShades_painted _ _ _).trans hshades

/-- The answer that a colour was set is true for both lamps at once, and for no lamp alone: a lamp
is asked to take the shades as they are, and refuses them in silence. -/
theorem lamp_lit_iff (index : Int) :
    ∃ q, setSonarColor (.int index) (.int red) (.int green) (.int blue) p =
        .ok (done "SetSonarRGB" (.tuple [.int red, .int green, .int blue])) q ∧
      ∀ lamp, Lit red green blue p q lamp ↔ index = 0 := by
  by_cases hindex : index = 0
  · subst hindex
    obtain ⟨_, q, hq, rfl, hlit⟩ := Op.wp_false_iff.mp
      (setSonarColor_zero red green blue hsonar hcalm)
    exact ⟨q, hq, fun lamp => iff_of_true (hlit lamp) rfl⟩
  · refine ⟨p, setSonarColor_single red green blue hsonar hindex, fun lamp => ?_⟩
    exact iff_of_false (fun h => Nat.lt_irrefl _ h.1) hindex

end

def lampsOut : Play Server := { game := {}, sonar := some {} }

theorem lamp_lit_iff_white : ∃ q, setSonarColor (.int 0) (.int 255) (.int 255) (.int 255) lampsOut =
      .ok (done "SetSonarRGB" (.tuple [.int 255, .int 255, .int 255])) q ∧
    ∀ lamp, Lit 255 255 255 lampsOut q lamp := by
  obtain ⟨q, hq, hlit⟩ := lamp_lit_iff 255 255 255 (p := lampsOut) rfl (by decide) 0
  exact ⟨q, hq, fun lamp => (hlit lamp).mpr rfl⟩

/-- The second lamp alone: the answer says that the colour was set, and nothing has happened. -/
theorem lamp_left_dark : ∃ q, setSonarColor (.int 1) (.int 10) (.int 20) (.int 30) lampsOut =
      .ok (done "SetSonarRGB" (.tuple [.int 10, .int 20, .int 30])) q ∧
    ∀ lamp, ¬ Lit 10 20 30 lampsOut q lamp :=
  ⟨_, setSonarColor_single 10 20 30 rfl (by decide), fun _ h => Nat.lt_irrefl _ h.1⟩

end Rover.Remote.Method
