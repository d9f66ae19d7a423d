import Rover.Proofs.Switchboard.Switching

/-!
# What ends the watch

The watchman gets over nothing: a fault on the way to leaving the loaded game ends the watch, and
the game stays loaded. That happens if the number that is loaded stands for no game, or if two
transfers in a row fail while a game is left that uses the bus for that.
-/

namespace Rover

open False


/-! ## Faults while a game is left -/

def Faulty {σ α : Type} (op : Op σ α) (s : σ) : Prop :=
  wp op never (fun e _ => ∃ f, e = .fault f) s

theorem Rig.writeFrame_faulty {α : Type} {r : Rig} (hfault : 0 < r.pendingFaults) (address : Nat)
    (values : List Value) (rest : PUnit → Op Rig α) :
    wp (writeFrame address values >>= rest) never
      (fun e t => (∃ f, e = .fault f) ∧ r.pendingFaults - 1 ≤ t.pendingFaults) r := by
  rw [wp_bind]
  refine wp_except_bind (fun bytes _ => ?_) fun f _ => ⟨⟨f, rfl⟩, by omega⟩
  rw [wp_bind, wp_meetFault_iff, if_pos hfault]
  exact ⟨⟨.bus, rfl⟩, Int.le_refl _⟩

theorem Rig.twice_writeFrame_faulty {α : Type} {r : Rig} (htwo : 2 ≤ r.pendingFaults)
    (address : Nat) (values : List Value) (rest : PUnit → Op Rig α) :
    Faulty (twice (writeFrame address values >>= rest)) r := by
  unfold Faulty twice
  rw [wp_guarded]
  refine wp_mono (writeFrame_faulty (by omega) address values rest) (fun _ _ h => h) ?_
  rintro _ t ⟨⟨f, rfl⟩, hleft⟩
  exact wp_mono (writeFrame_faulty (by omega) address values rest) (fun _ _ h => h) fun _ _ h => h.1

section
variable {r : Rig} (hr : r.Kept) (htwo : 2 ≤ r.pendingFaults)
include hr htwo

theorem Board.setMotor_faulty (index speed : Value) : Faulty (setMotor index speed) r := by
  unfold Faulty
  rcases setMotor_cases index speed with ⟨f, hfail⟩ | ⟨o, -, -, hgive⟩
  · rw [hfail]
    exact ⟨f, rfl⟩
  · have hgiven : wp o.give never (fun e _ => ∃ f, e = .fault f) r := by
      rw [MotorOrder.wp_give, if_neg (by omega), if_neg (by omega)]
      exact ⟨.bus, rfl⟩
    unfold wp
    rw [hgive r hr.motors]
    exact hgiven

omit hr in
theorem Board.setServoPulse_faulty (index pulse time : Value) :
    Faulty (setServoPulse index pulse time) r := by
  unfold Faulty
  rcases setServoPulse_cases index pulse time with ⟨f, hfail⟩ | ⟨o, hgive⟩
  · rw [hfail]
    exact ⟨f, rfl⟩
  · rw [hgive, ServoWrite.give, wp_bind]
    exact wp_post (Rig.twice_writeFrame_faulty htwo _ _ _) fun _ _ => elim

theorem Games.halt_faulty : Faulty halt r := by
  unfold Faulty halt drive Chassis.setVelocity Chassis.drive
  rw [wp_bind]
  refine wp_except_bind (fun w _ => ?_) fun f _ => ⟨f, rfl⟩
  rw [if_neg Bool.false_ne_true, wp_bind, wp_bind]
  exact wp_post (Board.setMotor_faulty hr htwo _ _) fun _ _ => elim

omit hr in
theorem Games.look_faulty (tilt pan : Value) : Faulty (look tilt pan) r := by
  unfold Faulty look servo
  rw [wp_bind, wp_bind]
  exact wp_post (Board.setServoPulse_faulty htwo _ _ _) fun _ _ => elim

end

theorem Roaming.leave_faulty {p : Play Roaming} (hr : p.rig.Kept) (htwo : 2 ≤ p.rig.pendingFaults) :
    Faulty leave p := by
  unfold Faulty leave stop
  rw [wp_bind, wp_bind, Play.wp_update, wp_bind, Play.liftM_rig, Play.wp_onRig]
  exact wp_post (Games.halt_faulty hr htwo) fun _ _ => elim

namespace Switchboard

section
variable {k : Int} {g : GameName}

theorem leave_faulty (hg : g ∈ busy) {op : Op (Play Arcade) Unit}
    (hop : (Arcade.game g).leave = some op) {p : Play Arcade} (hr : p.rig.Kept)
    (hchase : g = .chase → Placed p.game.chase.servos) (htwo : 2 ≤ p.rig.pendingFaults) :
    Faulty op p := by
  cases g with
  | chase =>
    cases hop
    obtain ⟨tilt, pan, htilt, hpan⟩ := hchase rfl
    refine (wp_within ..).mpr ((ColorChase.wp_stop htilt hpan).mpr ?_)
    exact wp_post (Games.look_faulty htwo _ _) fun _ _ => elim
  | patrol =>
    cases hop
    exact (wp_within ..).mpr (LinePatrol.wp_stop.mpr (Games.halt_faulty hr htwo))
  | roaming =>
    cases hop
    exact (wp_within ..).mpr (Roaming.leave_faulty hr htwo)
  | remote | idle | spotter | alarm | track | reader | signs | faces | tuner => simp [busy] at hg

end

/-! ## A round of the watchman -/

theorem overdue_iff (p : Play Switchboard) : Overdue p ↔
    ((p.game.due.less (.float p.rig.clock)).toOption.getD false &&
      !p.game.loaded.same (.int 0)) := by
  rw [Bool.and_eq_true, Bool.not_eq_true']
  constructor
  · intro h
    rw [h.due]
    exact ⟨rfl, h.loaded⟩
  · rintro ⟨hdue, hload⟩
    refine ⟨?_, hload⟩
    cases hless : p.game.due.less (.float p.rig.clock) with
    | error f =>
      rw [hless] at hdue
      cases hdue
    | ok late =>
      rw [hless] at hdue
      exact congrArg Except.ok hdue

instance (p : Play Switchboard) : Decidable (Overdue p) :=
  decidable_of_iff _ (overdue_iff p).symm

/-- The number that is loaded stands for a game, and not too many transfers fail if that game uses
the bus when it is left. -/
def Unloadable (p : Play Switchboard) : Prop :=
  ∃ g, gameAt p.game.loaded = .ok (some g) ∧ (g ∈ busy → p.rig.pendingFaults ≤ 1)

section
variable {p : Play Switchboard}

theorem guardOnce_of_unloadable (hp : Manned p) (hlate : Overdue p) (h : Unloadable p) :
    wp guardOnce (fun _ q => q.game.loaded = .int 0) never p := by
  obtain ⟨g, hg, h1⟩ := h
  obtain ⟨k, hk, -⟩ := gameAt_eq_ok_iff.mp hg
  have hchase : g = .chase → Placed p.game.arcade.chase.servos := by
    rintro rfl
    exact hp.chase hg
  obtain ⟨op, hop, hleft⟩ := leave_of_one hk (p := arcadeOf p) hp.sturdy hchase h1
  have hkept := keeps_iff_wp.mp (step_keeps_sturdy hk (s := .leave) hop) (arcadeOf p) hp.sturdy
  rw [wp_guardOnce hlate, wp_part, hg]
  simp only [hop]
  refine wp_mono (wp_and hleft hkept) (fun _ q hq => ?_) fun _ _ hfalse => hfalse.1
  rw [wp_bind]
  refine wp_of_total (closeCamera_completes hq.2.1 hp.eye) ?_
  rintro _ _ ⟨rig, eye, hrig, -, rfl⟩
  rw [Play.wp_onRig, Rig.wp_sleep hrig.sleepsLeft hrig.deadline,
    Rig.sleepLength_float (by decide +kernel) (by decide +kernel)]

theorem guardOnce_of_not_unloadable (hp : Manned p) (hlate : Overdue p) (h : ¬ Unloadable p) :
    wp guardOnce never (fun e q => (∃ f, e = .fault f) ∧ q.game.loaded = p.game.loaded) p := by
  have hfaulty : Faulty (part "exit" Game.leave) p := by
    unfold Faulty
    rw [wp_part]
    cases hg : gameAt p.game.loaded with
    | error f => exact ⟨f, rfl⟩
    | ok g =>
      cases g with
      | none => exact ⟨_, rfl⟩
      | some g =>
        have hbusy : g ∈ busy ∧ 2 ≤ p.rig.pendingFaults := by
          refine Classical.byContradiction fun hnot => h ⟨g, hg, fun hbusy => ?_⟩
          have hfew : ¬ 2 ≤ p.rig.pendingFaults := fun htwo => hnot ⟨hbusy, htwo⟩
          omega
        have hchase : g = .chase → Placed p.game.arcade.chase.servos := by
          rintro rfl
          exact hp.chase hg
        simp only
        cases hop : (Arcade.game g).leave with
        | none => exact ⟨_, rfl⟩
        | some op =>
          exact leave_faulty hbusy.1 hop (p := arcadeOf p) hp.sturdy.1.toKept hchase hbusy.2
  have hload : Keeps (fun q => q.game.loaded = p.game.loaded) (part "exit" Game.leave) :=
    .of_parts
  rw [wp_guardOnce hlate]
  exact wp_post (wp_and hfaulty (hload.wp rfl)) fun _ _ h => h.1.elim

/-! ## Every history -/

theorem enter_manned (hsturdy : p.Sturdy) (heye : p.game.eye ≠ .absent) (number : Value) :
    wp (enter number) (fun _ q => Manned q) (fun _ q => Manned q) p := by
  -- a number that is not positive is not that of the chase
  have hnot : number.greater (.int 0) ≠ .ok true → gameAt number ≠ .ok (some .chase) := by
    intro hgt hchase
    obtain ⟨k, hk, hsame⟩ := gameAt_eq_ok_iff.mp hchase
    have hbounds := number_bounds hk
    rw [Value.greater_int_of_same hsame, decide_eq_true (by omega)] at hgt
    exact hgt rfl
  unfold enter
  rw [wp_bind, Play.wp_update, wp_bind]
  refine wp_mono (closeCamera_completes hsturdy.1 heye) ?_ fun _ _ => elim
  rintro _ _ ⟨rig₁, eye₁, hrig₁, heye₁, rfl⟩
  rw [wp_bind]
  refine wp_mono (openCamera_completes hrig₁ heye₁) ?_ fun _ _ => elim
  rintro _ _ ⟨rig₂, eye₂, hrig₂, heye₂, rfl⟩
  have hidle : number.greater (.int 0) ≠ .ok true → Manned
      ⟨rig₂, p.files, p.sonar, { p.game with loaded := number, eye := eye₂ }⟩ := fun hgt =>
    ⟨⟨hrig₂, hsturdy.2⟩, heye₂, fun hchase => absurd hchase (hnot hgt)⟩
  refine wp_except_bind (fun positive hpos => ?_) fun f hf => ?_
  · cases positive with
    | true => exact prepare_manned ⟨hrig₂, hsturdy.2⟩ heye₂
    | false => exact hidle (by rw [hpos]; exact nofun)
  · exact hidle (by rw [hf]; exact nofun)

section
variable (name : String) (number : Value)

instance : Safe True Manned (part name Game.start) :=
  .base (part_keeps_manned name (s := .start) nofun)

instance : Safe True Manned (part name Game.stop) :=
  .base (part_keeps_manned name (s := .stop) nofun)

instance : Safe True Manned (part name Game.leave) :=
  .base (part_keeps_manned name (s := .leave) nofun)

instance : Safe True Manned (enter number) :=
  .base (keeps_iff_wp.mpr fun _ hp => enter_manned hp.sturdy hp.eye number)

instance : Safe True Manned (switch number) := by
  unfold switch
  infer_instance

end

instance : Safe True Manned closeCamera := by
  refine .base (keeps_iff_wp.mpr fun p hp => ?_)
  refine wp_mono (closeCamera_completes hp.sturdy.1 hp.eye) ?_ fun _ _ => elim
  rintro _ _ ⟨rig, eye, hrig, heye, rfl⟩
  exact ⟨⟨hrig, hp.sturdy.2⟩, heye, hp.chase⟩

instance : Safe True Manned unload := by
  have h0 : gameAt (.int 0) ≠ .ok (some .chase) := by
    rw [gameAt_int (g := none) (by decide)]
    exact nofun
  have hunloaded (p : Play Switchboard) :
      Leads (Manned p) (Manned { p with game := { p.game with loaded := .int 0 } }) :=
    ⟨fun hp => ⟨hp.sturdy, hp.eye, fun hchase => absurd hchase h0⟩⟩
  unfold unload
  infer_instance

/-- What can happen: something is asked of the switchboard, some transfers are going to fail, or
time passes. -/
inductive Occurrence where
  | request (r : Request)
  | faults (count : Int)
  | wait (seconds : Float)

def Occurrence.befall : Occurrence → M Unit
  | request r => r.serve
  | faults count => modify fun p => { p with rig := { p.rig with pendingFaults := count } }
  | wait seconds => modify fun p => { p with rig := { p.rig with clock := p.rig.clock + seconds } }

theorem befall_keeps_manned (o : Occurrence) : Keeps Manned o.befall := by
  have hdue (p : Play Switchboard) (due : Value) :
      Leads (Manned p) (Manned { p with game := { p.game with due } }) := ⟨fun hp => { hp with }⟩
  have hsleep : Safe True Manned (Play.onRig (Rig.sleep (.float 0.1))) :=
    .base (.onPart (fun _ hp => hp.sturdy.1)
      (fun _ _ hp hr => ⟨⟨hr, hp.sturdy.2⟩, hp.eye, hp.chase⟩) .of_parts)
  cases o with
  | request r => exact .of_parts (p := r.serve)
  | faults | wait =>
    exact .modify fun p hp => ⟨⟨{ hp.sturdy.1 with }, hp.sturdy.2⟩, hp.eye, hp.chase⟩

end

/-- After any history a round in which a report is overdue unloads the game exactly if the number
that is loaded stands for a game and no two transfers fail while that game is left. Otherwise the
watch ends with a fault, and the number stays loaded. -/
theorem watch_goes_on_iff {p : Play Switchboard} (hrig : p.rig.Steady)
    (hkit : Equipped p.files p.sonar.isSome) (heye : p.game.eye ≠ .absent)
    (hnone : p.game.loaded = .int 0) (history : List Occurrence) {q : Play Switchboard}
    (hq : Op.runAll Occurrence.befall history p = q) (hoverdue : Overdue q) :
    ((∃ t, guardOnce q = .ok () t ∧ t.game.loaded = .int 0) ↔ Unloadable q) ∧
      (¬ Unloadable q → ∀ rounds, ∃ f t, guardLoop (rounds + 1) q = .error (.fault f) t ∧
        t.game.loaded = q.game.loaded) := by
  have hzero : gameAt p.game.loaded ≠ .ok (some .chase) := by
    rw [hnone, gameAt_int (g := none) (by decide)]
    exact nofun
  have hp : Manned p := ⟨⟨hrig, hkit⟩, heye, fun hchase => absurd hchase hzero⟩
  have hmanned : Manned q := hq ▸ Op.runAll_keeps befall_keeps_manned history hp
  refine ⟨⟨?_, fun h => ?_⟩, fun h rounds => ?_⟩
  · rintro ⟨t, ht, -⟩
    refine Classical.byContradiction fun h => ?_
    exact (Op.wp_of_ok ht).mp (guardOnce_of_not_unloadable hmanned hoverdue h)
  · obtain ⟨_, t, ht, hloaded⟩ :=
      Op.wp_false_iff.mp (guardOnce_of_unloadable hmanned hoverdue h)
    exact ⟨t, ht, hloaded⟩
  · have hloop : wp (guardLoop (rounds + 1)) (fun _ _ => False)
        (fun e t => (∃ f, e = .fault f) ∧ t.game.loaded = q.game.loaded) q := by
      unfold guardLoop
      rw [wp_bind]
      exact wp_mono (guardOnce_of_not_unloadable hmanned hoverdue h) (fun _ _ => elim)
        fun _ _ he => he
    unfold wp at hloop
    cases hresult : guardLoop (rounds + 1) q with
    | ok a t =>
      rw [hresult] at hloop
      exact hloop.elim
    | error e t =>
      rw [hresult] at hloop
      obtain ⟨⟨f, rfl⟩, hloaded⟩ := hloop
      exact ⟨f, t, rfl, hloaded⟩

/-- With a single fault the watchman unloads even the game that roams. -/
theorem watch_goes_on_after_one_fault :
    let q := Op.runAll Occurrence.befall
      [.request (.load (.tuple [.int 6])), .request .start, .faults 1, .wait 20] switchedOn
    Overdue q ∧ Unloadable q ∧ ∃ t, guardOnce q = .ok () t ∧ t.game.loaded = .int 0 := by
  intro q
  have hoverdue : Overdue q := by decide +kernel
  have hgame : gameAt q.game.loaded = .ok (some .roaming) :=
    gameAt_eq_ok_iff.mpr ⟨6, by decide, by decide +kernel⟩
  have hunloadable : Unloadable q := ⟨.roaming, hgame, fun _ => by decide +kernel⟩
  have hsteady : switchedOn.rig.Steady := switchedOn_fit.rig.steady
  obtain ⟨hgoes, -⟩ := watch_goes_on_iff hsteady switchedOn_fit.kit nofun rfl _ rfl hoverdue
  exact ⟨hoverdue, hunloadable, hgoes.mpr hunloadable⟩

/-- Two faults end the watch, and the game stays loaded. -/
theorem watch_ends_after_two_faults :
    let q := Op.runAll Occurrence.befall
      [.request (.load (.tuple [.int 4])), .faults 2, .wait 20] switchedOn
    Overdue q ∧ guardOnce.completes q = false ∧
      ((guardLoop 9).after q).game.loaded.same (.int 4) = true := by
  decide +kernel

end Switchboard

end Rover
