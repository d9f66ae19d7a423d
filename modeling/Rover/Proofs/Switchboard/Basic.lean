import Rover.Proofs.Games.Play
import Rover.Proofs.Number
import Rover.Switchboard

/-!
# The loaded game

Which game a number stands for, and what the steps of the loaded game do to the switchboard.
-/

namespace Rover.Switchboard

/-! ## Numbers of games -/

theorem find?_games : ∀ e ∈ games, (games.find? fun (n, _) => decide (e.1 = n)) = some e := by
  decide

theorem gameAt_eq_ok_iff {v : Value} {g : Option GameName} :
    gameAt v = .ok g ↔ ∃ k, (k, g) ∈ games ∧ v.same (.int k) := by
  unfold gameAt
  constructor
  · intro h
    split at h
    · rename_i n g' hfind
      cases h
      have hsame := List.find?_some hfind
      exact ⟨n, List.mem_of_find?_eq_some hfind, hsame⟩
    · cases h
  · rintro ⟨k, hmem, hsame⟩
    -- a value that equals one number is told apart from all others as that number is
    have hfind : (games.find? fun (n, _) => v.same (.int n)) =
        games.find? fun (n, _) => decide (k = n) := by
      simp only [Value.same_int_of_same hsame]
    rw [hfind, find?_games (k, g) hmem]

theorem number_unique {k k' : Int} {g : GameName} (h : (k, some g) ∈ games)
    (h' : (k', some g) ∈ games) : k = k' := by
  have hunique : ∀ e ∈ games, ∀ e' ∈ games, e.2 = e'.2 → e.2 ≠ none → e.1 = e'.1 := by decide
  exact hunique _ h _ h' rfl (Option.some_ne_none g)

/-! ## Steps of the loaded game -/

section
variable {Q : Unit → Play Switchboard → Prop} {E : Exit → Play Switchboard → Prop}
  {p : Play Switchboard} {I : Play Switchboard → Prop}

def withArcade (p : Play Switchboard) (q : Play Arcade) : Play Switchboard :=
  ⟨q.rig, q.files, q.sonar, { p.game with arcade := q.game }⟩

def arcadeOf (p : Play Switchboard) : Play Arcade := ⟨p.rig, p.files, p.sonar, p.game.arcade⟩

theorem wp_part (name : String) (select : Game Arcade → Option (Op (Play Arcade) Unit)) :
    wp (part name select) Q E p ↔
      match gameAt p.game.loaded with
      | .error f => E (.fault f) p
      | .ok none => E (.fault (.noAttribute "NoneType" name)) p
      | .ok (some g) =>
        match select (Arcade.game g) with
        | none => E (.fault (.noAttribute "module" name)) p
        | some op => wp op (fun _ q => Q () (withArcade p q)) (fun e q => E e (withArcade p q))
            (arcadeOf p) := by
  unfold part
  rw [wp_bind, wp_state, wp_bind, liftM_except, wp_ofExcept]
  cases gameAt p.game.loaded with
  | error f => rfl
  | ok g =>
    cases g with
    | none => rfl
    | some g =>
      simp only
      cases select (Arcade.game g) with
      | none => rfl
      | some op => exact wp_within ..

instance [h : ∀ p (q : Play Arcade),
      Leads (I p) (I ⟨q.rig, q.files, q.sonar, { p.game with arcade := q.game }⟩)] (name : String)
    (select : Game Arcade → Option (Op (Play Arcade) Unit)) : Safe True I (part name select) := by
  refine .base (keeps_iff_wp.mpr fun p hp => ?_)
  rw [wp_part]
  split
  · exact hp
  · exact hp
  · split
    · exact hp
    · exact wp_of_forall (fun _ _ => (h _ _).imp hp) fun _ _ => (h _ _).imp hp

instance [h : ∀ p rig eye, Leads (I p) (I { p with rig, game := { p.game with eye } })]
    (name : String) (told : Event) (op : Op Studio Unit) : Safe True I (onCamera name told op) := by
  refine .base (keeps_iff_wp.mpr fun p hp => ?_)
  unfold onCamera
  rw [wp_bind, wp_state]
  cases p.game.eye with
  | absent => exact hp
  | remote => exact (h p _ p.game.eye).imp hp
  | own camera =>
    simp only [wp_onPart]
    exact wp_of_forall (fun _ _ => (h _ _ _).imp hp) fun _ _ => (h _ _ _).imp hp

end

section
variable {base : (α : Type) → Op (Play Switchboard) α → Prop}
  [∀ name told op, Composed base (onCamera name told op)]

instance : Composed base openCamera := inferInstanceAs (Composed _ (onCamera _ _ _))

instance : Composed base closeCamera := inferInstanceAs (Composed _ (onCamera _ _ _))

end

/-! ## A round of the watchman -/

structure Overdue (p : Play Switchboard) : Prop where
  due : p.game.due.less (.float p.rig.clock) = .ok true
  loaded : p.game.loaded.same (.int 0) = false

theorem wp_guardOnce {Q : Unit → Play Switchboard → Prop} {E : Exit → Play Switchboard → Prop}
    {p : Play Switchboard} (hp : Overdue p) :
    wp guardOnce Q E p ↔ wp (part "exit" Game.leave)
      (fun _ q => wp (do closeCamera; Play.onRig (Rig.sleep (.float 0.1)) : M Unit) Q E
        { q with game := { q.game with loaded := .int 0 } }) E p := by
  unfold guardOnce unload
  simp only [wp_bind, wp_state, Play.wp_onRig, Rig.wp_now, liftM_except, wp_ofExcept,
    hp.due, hp.loaded, Bool.not_false, if_true, Play.wp_update, wp_pure]

/-! ## What can be asked of the switchboard -/

/-- What can be asked of the switchboard; `guard` is a round of the watchman. -/
inductive Request where
  | load (args : Value)
  | unload
  | start
  | stop
  | report
  | guard

def Request.serve : Request → M Unit
  | load args => do let _ ← Switchboard.load args
  | unload => do let _ ← Switchboard.unload
  | start => do let _ ← Switchboard.start
  | stop => do let _ ← Switchboard.stop
  | report => do let _ ← Switchboard.report
  | guard => guardOnce

section
variable {cut : Prop} {I : Play Switchboard → Prop}
  [∀ p due, Leads (I p) (I { p with game := { p.game with due } })]
  [∀ number, Safe cut I (switch number)]

instance (args : Value) : Safe cut I (load args) := by
  unfold load report answerLoaded
  infer_instance

instance [Safe cut I unload] [Safe cut I (part "start" Game.start)]
    [Safe cut I (part "stop" Game.stop)] [Safe cut I (Play.onRig (Rig.sleep (.float 0.1)))]
    (r : Request) : Safe cut I r.serve := by
  cases r
  all_goals
    dsimp only [Request.serve, Switchboard.start, Switchboard.stop, Switchboard.report, answerLoaded,
      guardOnce]
    infer_instance

end

end Rover.Switchboard
