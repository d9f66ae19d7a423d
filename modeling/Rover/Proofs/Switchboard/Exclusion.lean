import Rover.Proofs.Switchboard.Basic

/-!
# One game at a time

Whatever is asked of the switchboard, and whatever goes wrong on the way, a game runs only while it
is the loaded one.
-/

namespace Rover.Switchboard

def Exclusive (s : Switchboard) : Prop :=
  ∀ g, (s.arcade.running g).truth → gameAt s.loaded = .ok (some g)

def Resting (s : Switchboard) : Prop := ∀ g, (s.arcade.running g).truth = false

section
variable {s : Switchboard}

theorem Resting.exclusive (h : Resting s) : Exclusive s := by
  intro g hg
  rw [h g] at hg
  cases hg

theorem Exclusive.above_one (h : Exclusive s) {g : GameName} (hg : (s.arcade.running g).truth) :
    ∃ k, 1 < k ∧ (k, some g) ∈ games ∧ s.loaded.same (.int k) := by
  obtain ⟨k, hmem, hsame⟩ := gameAt_eq_ok_iff.mp (h g hg)
  refine ⟨k, ?_, hmem, hsame⟩
  have habove : ∀ e ∈ games, e.2 ≠ none → e.2 ≠ some .remote → 1 < e.1 := by decide
  refine habove _ hmem (Option.some_ne_none g) ?_
  rintro heq
  cases heq
  cases hg

theorem Exclusive.resting_of_not_greater (h : Exclusive s)
    (hload : s.loaded.greater (.int 1) = .ok false) : Resting s := by
  intro g
  rw [Bool.eq_false_iff]
  intro hg
  obtain ⟨k, hk, -, hsame⟩ := h.above_one hg
  rw [Value.greater_int_of_same hsame] at hload
  simp [hk] at hload

theorem Exclusive.resting_of_unloaded (h : Exclusive s)
    (hload : s.loaded.same (.int 0)) : Resting s := by
  intro g
  rw [Bool.eq_false_iff]
  intro hg
  obtain ⟨k, hk, -, hsame⟩ := h.above_one hg
  rw [Value.same_int_of_same hsame] at hload
  have h0 : k = 0 := of_decide_eq_true hload
  omega

end

section
variable {p : Play Switchboard}

theorem exclusive_withArcade {q : Play Arcade} {g : GameName} (h : Exclusive p.game)
    (hg : gameAt p.game.loaded = .ok (some g))
    (hothers : ∀ other ≠ g, q.game.running other = p.game.arcade.running other) :
    Exclusive (withArcade p q).game := by
  intro other hrun
  by_cases heq : other = g
  · rw [heq]
    exact hg
  · refine h other ?_
    rw [← hothers other heq]
    exact hrun

theorem part_keeps_exclusive (name : String) (s : Step) :
    Keeps (fun p => Exclusive p.game) (part name s.of) := by
  rw [keeps_iff_wp]
  intro p hp
  rw [wp_part]
  split
  · exact hp
  · exact hp
  · rename_i g hg
    split
    · exact hp
    · rename_i op hop
      have hothers := (Arcade.step_keeps_running p.game.arcade.running hop).wp
        (s := arcadeOf p) fun _ _ => rfl
      refine wp_mono hothers (fun _ q hq => ?_) fun _ q hq => ?_
      · exact exclusive_withArcade hp hg hq
      · exact exclusive_withArcade hp hg hq

theorem exit_rests (hp : Exclusive p.game) :
    wp (part "exit" Game.leave) (fun _ q => Resting q.game) (fun _ q => Exclusive q.game) p := by
  rw [wp_part]
  split
  · exact hp
  · exact hp
  · rename_i g hg
    split
    · exact hp
    · rename_i op hop
      have hothers := (Arcade.step_keeps_running (s := .leave) p.game.arcade.running hop).wp
        (s := arcadeOf p) fun _ _ => rfl
      refine wp_mono (wp_and hothers (Arcade.leave_halts hop _)) (fun _ q hq => ?_)
        fun _ q hq => exclusive_withArcade hp hg hq.1
      have hleft : (q.game.running g).truth = false := by
        have hflag : q.game.running g = .bool false := hq.2
        rw [hflag]
        rfl
      -- only the loaded game could run, and that one has been left
      intro other
      rw [Bool.eq_false_iff]
      intro hrun
      have hload := exclusive_withArcade hp hg hq.1 other hrun
      cases hg.symm.trans hload
      cases hleft.symm.trans hrun

end

section
variable (s : Switchboard) (name : String)

instance (eye : Eye) : Leads (Exclusive s) (Exclusive { s with eye }) := ⟨id⟩

instance (due : Value) : Leads (Exclusive s) (Exclusive { s with due }) := ⟨id⟩

instance : Safe True (fun p => Exclusive p.game) (part name fun g => some g.prepare) :=
  .base (part_keeps_exclusive name .prepare)

instance : Safe True (fun p => Exclusive p.game) (part name Game.start) :=
  .base (part_keeps_exclusive name .start)

instance : Safe True (fun p => Exclusive p.game) (part name Game.stop) :=
  .base (part_keeps_exclusive name .stop)

end

theorem enter_exclusive {p : Play Switchboard} (hp : Resting p.game) (number : Value) :
    wp (enter number) (fun _ q => Exclusive q.game) (fun _ q => Exclusive q.game) p := by
  unfold enter
  rw [wp_bind, Play.wp_update]
  exact (keeps_iff_wp (I := fun p : Play Switchboard => Exclusive p.game)).mp .of_parts _
    (Resting.exclusive hp)

instance (number : Value) : Safe True (fun p => Exclusive p.game) (switch number) := by
  refine .guarded (.base (keeps_iff_wp.mpr fun p hp => ?_)) fun _ => .pure _
  rw [wp_bind, wp_state, wp_bind, liftM_except, wp_ofExcept]
  cases hload : p.game.loaded.greater (.int 1) with
  | error f => exact hp
  | ok above =>
    cases above with
    | false => exact enter_exclusive (hp.resting_of_not_greater hload) number
    | true =>
      -- if leaving fails, the number stays, and the game may go on
      refine (wp_bind ..).mpr ?_
      exact wp_post (exit_rests hp) fun _ q hq => enter_exclusive hq number

instance : Safe True (fun p => Exclusive p.game) unload := by
  refine .base (keeps_iff_wp.mpr fun p hp => ?_)
  have hclose : ∀ q : Play Switchboard, Resting q.game →
      wp (do closeCamera; return Value.tuple [.bool true, .tuple [.int 0]])
        (fun _ q => Exclusive q.game) (fun _ q => Exclusive q.game) q := by
    intro q hq
    exact Op.Preserves.wp (c := True) .of_parts (Resting.exclusive hq)
  unfold unload
  rw [wp_bind, wp_state]
  cases hload : p.game.loaded.same (.int 0) with
  | true => exact hclose p (hp.resting_of_unloaded hload)
  | false =>
    refine (wp_bind ..).mpr (wp_post (exit_rests hp) fun _ q hq => ?_)
    exact hclose _ hq

def serveAfter : (Rig → Rig) × Request → M Unit
  | (world, request) => do
    modify fun p => { p with rig := world p.rig }
    request.serve

theorem serveAfter_keeps_exclusive (t : (Rig → Rig) × Request) :
    Keeps (fun p => Exclusive p.game) (serveAfter t) := by
  unfold serveAfter
  exact .of_parts

/-- If no game runs at first, then after every history of requests, with anything happening to the
hardware in between, a running game is the loaded one; so no two games run. -/
theorem running_only_while_loaded (p : Play Switchboard) (hp : Resting p.game)
    (turns : List ((Rig → Rig) × Request)) :
    (∀ k g, (k, some g) ∈ games →
        ((Op.runAll serveAfter turns p).game.arcade.running g).truth = true →
        (Op.runAll serveAfter turns p).game.loaded.same (.int k) = true) ∧
      ∀ g g', ((Op.runAll serveAfter turns p).game.arcade.running g).truth = true →
        ((Op.runAll serveAfter turns p).game.arcade.running g').truth = true → g = g' := by
  have hexclusive := Op.runAll_keeps serveAfter_keeps_exclusive turns hp.exclusive
  constructor
  · intro k g hk hg
    obtain ⟨k', hk', hsame⟩ := gameAt_eq_ok_iff.mp (hexclusive g hg)
    rw [number_unique hk hk']
    exact hsame
  · intro g g' hg hg'
    cases (hexclusive g hg).symm.trans (hexclusive g' hg')
    rfl

def fresh : Play Switchboard := ⟨{}, {}, none, {}⟩

theorem fresh_resting : Resting fresh.game := by
  intro g
  cases g <;> rfl

def brokenSwitch : List ((Rig → Rig) × Request) := [
  (id, .load (.tuple [.int 3])), (id, .start),
  (fun r => { r with pendingFaults := 9 }, .load (.tuple [.int 5]))]

theorem running_only_while_loaded_broken_switch :
    ((Op.runAll serveAfter brokenSwitch fresh).game.arcade.running .chase).truth = true ∧
      (Op.runAll serveAfter brokenSwitch fresh).game.loaded.same (.int 3) = true := by
  have hrunning : ((Op.runAll serveAfter brokenSwitch fresh).game.arcade.running .chase).truth =
      true := by decide +kernel
  have hloaded := (running_only_while_loaded fresh fresh_resting _).1 3 .chase (by decide) hrunning
  exact ⟨hrunning, hloaded⟩

end Rover.Switchboard
