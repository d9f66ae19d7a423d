import Rover.Proofs.Switchboard.Hardware

/-!
# Getting from game to game

As long as no number that is kept free has been loaded, every game can be loaded and the loaded one
can be unloaded. A free number, once loaded, stays for good: there is no game to leave.
-/

namespace Rover.Switchboard

variable {n : Int}

structure Loaded (k : Int) (p : Play Switchboard) : Prop where
  fit : p.Fit FourMotors Equipped
  eye : p.game.eye ≠ .absent
  loaded : p.game.loaded = .int k
  chase : k = 3 → Placed p.game.arcade.chase.servos

structure Manned (p : Play Switchboard) : Prop where
  sturdy : p.Sturdy
  eye : p.game.eye ≠ .absent
  chase : gameAt p.game.loaded = .ok (some .chase) → Placed p.game.arcade.chase.servos

def Free (n : Int) : Prop := 0 < n ∧ (n, none) ∈ games

instance (n : Int) : Decidable (Free n) := inferInstanceAs (Decidable (_ ∧ _))

def Leavable (k : Int) : Prop := k = 0 ∨ ∃ g, (k, some g) ∈ games

theorem gameAt_int {k : Int} {g : Option GameName} (h : (k, g) ∈ games) : gameAt (.int k) = .ok g :=
  gameAt_eq_ok_iff.mpr ⟨k, h, by rw [Value.int_same_int, decide_eq_true rfl]⟩

theorem leavable_or_free : ∀ {n : Int}, 1 ≤ n → n ≤ 9 → Leavable n ∨ Free n := by
  have htable : ∀ i : Fin 9, (∃ e ∈ games, e.1 = (i : Int) + 1 ∧ e.2 ≠ none) ∨
      ((i : Int) + 1, none) ∈ games := by decide
  intro n hlo hhi
  obtain ⟨i, rfl⟩ : ∃ i : Fin 9, n = (i : Int) + 1 := by
    refine ⟨⟨(n - 1).toNat, by omega⟩, ?_⟩
    change n = ((n - 1).toNat : Int) + 1
    omega
  rcases htable i with ⟨⟨k, g⟩, hmem, hk, hg⟩ | hfree
  · left
    obtain ⟨g, rfl⟩ := Option.ne_none_iff_exists'.mp hg
    exact .inr ⟨g, hk ▸ hmem⟩
  · exact .inr ⟨by omega, hfree⟩

theorem number_bounds {k : Int} {g : GameName} (h : (k, some g) ∈ games) : 1 ≤ k ∧ k ≤ 9 := by
  have hbounds : ∀ e ∈ games, e.2 ≠ none → 1 ≤ e.1 ∧ e.1 ≤ 9 := by decide
  exact hbounds _ h (Option.some_ne_none g)

theorem Free.bounds (h : Free n) : 1 < n ∧ n ≤ 9 := by
  have hbounds : ∀ e ∈ games, e.2 = none → 0 < e.1 → 1 < e.1 ∧ e.1 ≤ 9 := by decide
  exact hbounds _ h.2 rfl h.1

theorem Free.not_leavable (h : Free n) : ¬ Leavable n := by
  have hunique : ∀ e ∈ games, ∀ e' ∈ games, e.1 = e'.1 → e = e' := by decide
  rintro (rfl | ⟨g, hg⟩)
  · exact absurd h.1 (by decide)
  · cases hunique _ h.2 _ hg rfl

def reported (p : Play Switchboard) : Play Switchboard :=
  { p with game := { p.game with due := .float (p.rig.clock + patience) } }

theorem wp_load_int {Q : Value → Play Switchboard → Prop} {E : Exit → Play Switchboard → Prop}
    {p : Play Switchboard} (n : Int) :
    wp (load (.tuple [.int n])) Q E p ↔
      if 1 ≤ n ∧ n ≤ 9 then
        wp (switch (.int n)) (fun _ q => Q (.tuple [.bool true, .tuple [q.game.loaded]]) q) E
          (reported p)
      else Q (.tuple [.bool false, .str "loadFunc: Invalid argument"]) (reported p) := by
  have hfst : (Value.tuple [.int n]).subscript (.int 0) = .ok (.int n) := rfl
  unfold load report answerLoaded
  simp only [wp_bind, liftM_except, wp_ofExcept, hfst, Play.wp_onRig, Rig.wp_now,
    Play.wp_update, wp_pure, Value.int_less_int, Value.int_greater_int]
  by_cases h : 1 ≤ n ∧ n ≤ 9
  · rw [if_pos h, if_neg (by simp; omega)]
    exact wp_bind ..
  · rw [if_neg h, if_pos (by simp; omega)]
    rfl

section
variable {p : Play Switchboard} {j k : Int} {E : Exit → Play Switchboard → Prop} {g : GameName}

theorem part_keeps_number (name : String) (select : Game Arcade → Option (Op (Play Arcade) Unit)) :
    Keeps (fun p => p.game.eye ≠ .absent ∧ p.game.loaded = .int k) (part name select) := .of_parts

theorem prepare_chase_servos (hload : gameAt p.game.loaded = .ok (some .chase)) :
    wp (part "init" fun g => some g.prepare)
      (fun _ q => q.game.arcade.chase.servos = p.files.servos)
      (fun _ q => q.game.arcade.chase.servos = p.files.servos) p := by
  rw [wp_part, hload]
  simp only [Arcade.game, Game.within]
  rw [wp_within]
  exact ColorChase.prepare_servos _

theorem part_keeps_manned (name : String) {s : Step} (hs : s ≠ .prepare) :
    Keeps Manned (part name s.of) := by
  refine keeps_iff_wp.mpr fun p hp => ?_
  rw [wp_part]
  cases hg : gameAt p.game.loaded with
  | error f => exact hp
  | ok g =>
    cases g with
    | none => exact hp
    | some g =>
      simp only
      cases hop : s.of (Arcade.game g) with
      | none => exact hp
      | some op =>
        obtain ⟨k, hk, -⟩ := gameAt_eq_ok_iff.mp hg
        have hsturdy := (step_keeps_sturdy hk hop).wp (s := arcadeOf p) hp.sturdy
        have hsrv := (step_keeps_chase_servos p.game.arcade.chase.servos hop hs).wp
          (s := arcadeOf p) rfl
        have hmanned : ∀ q : Play Arcade, q.Sturdy ∧
            q.game.chase.servos = p.game.arcade.chase.servos →
            Manned (withArcade p q) := by
          rintro q ⟨hq, hsrv⟩
          refine ⟨hq, hp.eye, fun hchase => ?_⟩
          change Placed q.game.chase.servos
          rw [hsrv]
          exact hp.chase hchase
        exact wp_mono (wp_and hsturdy hsrv) (fun _ q hq => hmanned q hq) fun _ q hq => hmanned q hq

theorem prepare_manned (hsturdy : p.Sturdy) (heye : p.game.eye ≠ .absent) :
    wp (part "init" fun g => some g.prepare) (fun _ q => Manned q) (fun _ q => Manned q) p := by
  have hkept : Keeps (fun q => q.game.eye ≠ .absent ∧ q.game.loaded = p.game.loaded)
      (part "init" fun g => some g.prepare) := .of_parts
  have hsteady : wp (part "init" fun g => some g.prepare) (fun _ q => q.Sturdy)
      (fun _ q => q.Sturdy) p := by
    rw [wp_part]
    cases hg : gameAt p.game.loaded with
    | error f => exact hsturdy
    | ok g =>
      cases g with
      | none => exact hsturdy
      | some g =>
        obtain ⟨k, hk, -⟩ := gameAt_eq_ok_iff.mp hg
        exact (step_keeps_sturdy hk (s := .prepare) rfl).wp (s := arcadeOf p) hsturdy
  have hchase : wp (part "init" fun g => some g.prepare)
      (fun _ q => gameAt p.game.loaded = .ok (some .chase) → Placed q.game.arcade.chase.servos)
      (fun _ q => gameAt p.game.loaded = .ok (some .chase) → Placed q.game.arcade.chase.servos)
      p := by
    by_cases hload : gameAt p.game.loaded = .ok (some .chase)
    · refine wp_mono (prepare_chase_servos hload) (fun _ q hq _ => ?_) fun _ q hq _ => ?_
      · rw [hq]
        exact hsturdy.2.1
      · rw [hq]
        exact hsturdy.2.1
    · exact wp_of_forall (fun _ _ h => absurd h hload) fun _ _ h => absurd h hload
  have hmanned : ∀ q : Play Switchboard,
      ((q.game.eye ≠ .absent ∧ q.game.loaded = p.game.loaded) ∧ q.Sturdy ∧
        (gameAt p.game.loaded = .ok (some .chase) → Placed q.game.arcade.chase.servos)) →
      Manned q := by
    rintro q ⟨⟨heye, hload⟩, hq, hplaced⟩
    exact ⟨hq, heye, fun hchase => hplaced (hload ▸ hchase)⟩
  exact wp_mono (wp_and (hkept.wp ⟨heye, rfl⟩) (wp_and hsteady hchase))
    (fun _ q hq => hmanned q hq) fun _ q hq => hmanned q hq

theorem Loaded.of_manned (hfit : p.Fit FourMotors Equipped) (hload : p.game.loaded = .int k)
    (hp : Manned p) : Loaded k p := by
  refine ⟨hfit, hp.eye, hload, fun hk => hp.chase ?_⟩
  rw [hload]
  exact gameAt_int (by rw [hk]; decide)

theorem Loaded.manned (hp : Loaded k p) : Manned p := by
  refine ⟨⟨hp.fit.rig.steady, hp.fit.kit⟩, hp.eye, fun hchase => hp.chase ?_⟩
  rw [hp.loaded] at hchase
  obtain ⟨j, hj, hsame⟩ := gameAt_eq_ok_iff.mp hchase
  rw [Value.int_same_int, decide_eq_true_eq] at hsame
  exact hsame.trans (number_unique hj (by decide))

theorem prepare_loaded (hfit : p.Fit FourMotors Equipped) (heye : p.game.eye ≠ .absent)
    (hload : p.game.loaded = .int k) :
    wp (part "init" fun g => some g.prepare) (fun _ q => Loaded k q)
      (fun e q => (e = .ended → False) ∧ Loaded k q) p := by
  have hmanned := prepare_manned ⟨hfit.rig.steady, hfit.kit⟩ heye
  have hkept := (part_keeps_number "init" fun g => some g.prepare).wp ⟨heye, hload⟩
  refine wp_mono (wp_and (fit_part "init" .prepare p hfit) (wp_and hkept hmanned))
    (fun _ q hq => ?_) fun e q hq => ⟨hq.1.1, ?_⟩
  · exact .of_manned hq.1 hq.2.1.2 hq.2.2
  · exact .of_manned hq.1.2 hq.2.1.2 hq.2.2

theorem enter_loaded (hfit : p.Fit FourMotors Equipped) (heye : p.game.eye ≠ .absent) (hk : 0 < k) :
    wp (enter (.int k)) (fun _ q => Loaded k q)
      (fun e q => (e = .ended → False) ∧ Loaded k q) p := by
  have hgt : (Value.int k).greater (.int 0) = .ok true := by
    rw [Value.int_greater_int, decide_eq_true hk]
  unfold enter
  rw [wp_bind, Play.wp_update, wp_bind]
  refine wp_of_total (closeCamera_completes hfit.rig heye) ?_
  rintro _ _ ⟨rig₁, eye₁, hrig₁, heye₁, rfl⟩
  rw [wp_bind]
  refine wp_of_total (openCamera_completes hrig₁ heye₁) ?_
  rintro _ _ ⟨rig₂, eye₂, hrig₂, heye₂, rfl⟩
  rw [wp_bind, wp_state, wp_bind, liftM_except, wp_ofExcept]
  simp only [hgt, if_true]
  exact prepare_loaded ⟨hrig₂, hfit.kit⟩ heye₂ rfl

section

variable (hp : Loaded j p)
include hp

theorem exit_completes (hj : (j, some g) ∈ games) : wp (part "exit" Game.leave)
      (fun _ q => q.Fit FourMotors Equipped ∧ q.game.eye ≠ .absent) never p := by
  have hgame : gameAt p.game.loaded = .ok (some g) := by
    rw [hp.loaded]
    exact gameAt_int hj
  have hchase : g = .chase → Placed p.game.arcade.chase.servos := by
    rintro rfl
    exact hp.manned.chase hgame
  have hleft : wp (part "exit" Game.leave) (fun _ _ => True) never p := by
    obtain ⟨op, hop, hwp⟩ := leave_of_one hj (p := arcadeOf p) ⟨hp.fit.rig.steady, hp.fit.kit⟩
      hchase fun _ => hp.fit.rig.faults.trans (by decide)
    rw [wp_part, hgame]
    simp only [hop]
    exact hwp
  have hkept := (part_keeps_number "exit" Game.leave).wp ⟨hp.eye, hp.loaded⟩
  refine wp_mono (wp_and hleft (wp_and (fit_part "exit" .leave p hp.fit) hkept))
    (fun _ q hq => ⟨hq.2.1, hq.2.2.1⟩) fun _ _ hq => hq.1

theorem switch_loaded (hj : Leavable j) (hk : 0 < k) :
    wp (switch (.int k)) (fun _ q => Loaded k q) never p := by
  refine Op.guarded_completes ?_ fun _ => ()
  have hgt : p.game.loaded.greater (.int 1) = .ok (decide (1 < j)) := by
    rw [hp.loaded, Value.int_greater_int]
  rw [wp_bind, wp_state, wp_bind, liftM_except, wp_ofExcept]
  simp only [hgt, decide_eq_true_eq]
  -- zero and one are taken up without leaving anything
  by_cases habove : 1 < j
  · obtain rfl | ⟨g, hg⟩ := hj
    · omega
    rw [if_pos habove, wp_bind]
    refine wp_of_total (exit_completes hp hg) fun _ q hq => ?_
    exact enter_loaded hq.1 hq.2 hk
  · rw [if_neg habove]
    exact enter_loaded hp.fit hp.eye hk

theorem Loaded.reported : Loaded j (reported p) := { hp with fit := { hp.fit with } }

theorem load_loaded (hj : Leavable j) (hlo : 1 ≤ k) (hhi : k ≤ 9) :
    wp (load (.tuple [.int k])) (fun _ q => Loaded k q) never p := by
  rw [wp_load_int, if_pos ⟨hlo, hhi⟩]
  exact switch_loaded hp.reported hj (by omega)

theorem load_refused (hk : ¬ (1 ≤ k ∧ k ≤ 9)) :
    wp (load (.tuple [.int k])) (fun _ q => Loaded j q) never p := by
  rw [wp_load_int, if_neg hk]
  exact hp.reported

theorem unload_loaded (hj : Leavable j) : wp unload (fun _ q => Loaded 0 q) never p := by
  have hclose : ∀ {q : Play Switchboard}, q.Fit FourMotors Equipped → q.game.eye ≠ .absent →
      q.game.loaded = .int 0 →
      wp (do closeCamera; return Value.tuple [.bool true, .tuple [.int 0]])
        (fun _ q => Loaded 0 q) never q := by
    intro q hfit heye hload
    rw [wp_bind]
    refine wp_of_total (closeCamera_completes hfit.rig heye) ?_
    rintro _ _ ⟨rig, eye, hrig, heye, rfl⟩
    exact ⟨⟨hrig, hfit.kit⟩, heye, hload, nofun⟩
  unfold unload
  rw [wp_bind, wp_state, hp.loaded, Value.int_same_int]
  obtain rfl | ⟨g, hg⟩ := hj
  · exact hclose hp.fit hp.eye hp.loaded
  · have h0 : j ≠ 0 := by
      have hbounds := number_bounds hg
      omega
    rw [decide_eq_false h0]
    refine (wp_bind ..).mpr ?_
    refine wp_of_total (exit_completes hp hg) fun _ q hq => ?_
    exact hclose ⟨hq.1.rig, hq.1.kit⟩ hq.2 rfl

end

theorem part_keeps_loaded (name : String) {s : Step} (hs : s ≠ .prepare) :
    Keeps (Loaded k) (part name s.of) := by
  refine keeps_iff_wp.mpr fun p hp => ?_
  have hmanned := (part_keeps_manned name hs).wp hp.manned
  have hkept := (part_keeps_number name s.of).wp ⟨hp.eye, hp.loaded⟩
  refine wp_mono (wp_and (fit_part name s p hp.fit) (wp_and hkept hmanned))
    (fun _ q hq => ?_) fun e q hq => ?_
  · exact .of_manned hq.1 hq.2.1.2 hq.2.2
  · exact .of_manned hq.1.2 hq.2.1.2 hq.2.2

instance (name : String) : Safe True (Loaded k) (part name Game.start) :=
  .base (part_keeps_loaded name (s := .start) nofun)

instance (name : String) : Safe True (Loaded k) (part name Game.stop) :=
  .base (part_keeps_loaded name (s := .stop) nofun)

def Jammed (p : Play Switchboard) : Prop := ∃ n, Free n ∧ p.game.loaded = .int n

variable {Q : Unit → Play Switchboard → Prop}

theorem Jammed.wp_part
    (hp : Jammed p) (name : String) (select : Game Arcade → Option (Op (Play Arcade) Unit)) :
    wp (part name select) Q E p ↔ E (.fault (.noAttribute "NoneType" name)) p := by
  obtain ⟨n, hn, hload⟩ := hp
  rw [Switchboard.wp_part, hload, gameAt_int hn.2]

theorem Jammed.wp_switch (hp : Jammed p) (number : Value) : wp (switch number) Q E p ↔ Q () p := by
  have hgt : p.game.loaded.greater (.int 1) = .ok true := by
    obtain ⟨n, hn, hload⟩ := hp
    rw [hload, Value.int_greater_int, decide_eq_true hn.bounds.1]
  unfold switch
  rw [Op.wp_ignoring, wp_bind, wp_state, wp_bind, liftM_except, wp_ofExcept]
  simp only [hgt, if_true]
  rw [wp_bind, hp.wp_part]

theorem Jammed.wp_unload {Q : Value → Play Switchboard → Prop} (hp : Jammed p) :
    wp unload Q E p ↔ E (.fault (.noAttribute "NoneType" "exit")) p := by
  have hsame : p.game.loaded.same (.int 0) = false := by
    obtain ⟨n, hn, hload⟩ := hp
    rw [hload, Value.int_same_int, decide_eq_false]
    have hbounds := hn.bounds
    omega
  unfold unload
  rw [wp_bind, wp_state, hsame]
  exact (wp_bind ..).trans (hp.wp_part ..)

inductive Order where
  | load (number : Int)
  | unload
  | start
  | stop

def Order.request : Order → Request
  | load number => .load (.tuple [.int number])
  | unload => .unload
  | start => .start
  | stop => .stop

def obey (orders : List Order) (p : Play Switchboard) : Play Switchboard :=
  Op.runAll (fun o => o.request.serve) orders p

def Sound (p : Play Switchboard) : Prop := ∃ k, Leavable k ∧ Loaded k p

theorem sound_after {o : Order} (hp : Sound p) (ho : ∀ n, o = .load n → ¬ Free n) :
    Sound (o.request.serve.after p) := by
  obtain ⟨j, hj, hload⟩ := hp
  refine wp_after_iff.mp ?_
  cases o with
  | load n =>
    refine (wp_bind ..).mpr ?_
    by_cases hn : 1 ≤ n ∧ n ≤ 9
    · have hleavable := (leavable_or_free hn.1 hn.2).resolve_right (ho n rfl)
      exact wp_of_total (load_loaded hload hj hn.1 hn.2) fun _ q hq => ⟨n, hleavable, hq⟩
    · exact wp_of_total (load_refused hload hn) fun _ q hq => ⟨j, hj, hq⟩
  | unload =>
    refine (wp_bind ..).mpr ?_
    exact wp_of_total (unload_loaded hload hj) fun _ q hq => ⟨0, .inl rfl, hq⟩
  | start | stop =>
    refine wp_mono (Op.Preserves.wp (I := Loaded j) (c := True) ?_ hload)
      (fun _ q hq => ⟨j, hj, hq⟩) fun _ q hq => ⟨j, hj, hq⟩
    dsimp only [Order.request, Request.serve, start, stop, answerLoaded]
    exact .of_parts

theorem jammed_after_free (hp : Sound p) (hn : Free n) :
    Jammed ((Order.load n).request.serve.after p) := by
  obtain ⟨j, hj, hload⟩ := hp
  have hbounds := hn.bounds
  refine wp_after_iff.mp ?_
  refine (wp_bind ..).mpr ?_
  exact wp_of_total (load_loaded hload hj (by omega) hbounds.2) fun _ q hq => ⟨n, hn, hq.loaded⟩

section
variable (name : String) (select : Game Arcade → Option (Op (Play Arcade) Unit)) (number : Value)

instance (p : Play Switchboard) (due : Value) :
    Leads (Jammed p) (Jammed { p with game := { p.game with due } }) := ⟨id⟩

instance (p : Play Switchboard) (rig : Rig) : Leads (Jammed p) (Jammed { p with rig }) := ⟨id⟩

instance : Safe True Jammed (part name select) :=
  .base (keeps_iff_wp.mpr fun _ hp => (hp.wp_part ..).mpr hp)

instance : Safe True Jammed (switch number) :=
  .base (keeps_iff_wp.mpr fun _ hp => (hp.wp_switch _).mpr hp)

instance : Safe True Jammed unload := .base (keeps_iff_wp.mpr fun _ hp => hp.wp_unload.mpr hp)

end

theorem order_keeps_jammed (o : Order) : Keeps Jammed o.request.serve := .of_parts

theorem obey_sound {orders : List Order} (hp : Sound p)
    (h : ∀ n, .load n ∈ orders → ¬ Free n) : Sound (obey orders p) := by
  refine runAll_of_step (fun o ho _ hp => sound_after hp ?_) hp
  rintro n rfl
  exact h n ho

theorem obey_jammed {orders : List Order} (hp : Sound p) (hn : Free n) (h : .load n ∈ orders) :
    Jammed (obey orders p) := by
  induction orders generalizing p with
  | nil => cases h
  | cons o rest ih =>
    -- the first free number among the orders decides; those behind it change nothing
    by_cases ho : ∀ n, o = .load n → ¬ Free n
    · refine ih (sound_after hp ho) ((List.mem_cons.mp h).resolve_left ?_)
      rintro rfl
      exact ho n rfl hn
    · simp only [Classical.not_forall, Classical.not_not] at ho
      obtain ⟨m, rfl, hm⟩ := ho
      exact runAll_keeps order_keeps_jammed rest (jammed_after_free hp hm)

theorem Sound.load_succeeds (hp : Sound p) (hk : (k, some g) ∈ games) :
    ∃ a t, load (.tuple [.int k]) p = .ok a t ∧ t.game.loaded = .int k := by
  obtain ⟨j, hj, hload⟩ := hp
  have hbounds := number_bounds hk
  rw [← wp_false_iff]
  exact wp_of_total (load_loaded hload hj hbounds.1 hbounds.2) fun _ q hq => hq.loaded

theorem Sound.unload_succeeds (hp : Sound p) :
    ∃ a t, unload p = .ok a t ∧ t.game.loaded = .int 0 := by
  obtain ⟨j, hj, hload⟩ := hp
  rw [← wp_false_iff]
  exact wp_of_total (unload_loaded hload hj) fun _ q hq => hq.loaded

theorem Jammed.load_in_vain (hp : Jammed p) (hk : (k, some g) ∈ games) :
    ¬ ∃ a t, load (.tuple [.int k]) p = .ok a t ∧ t.game.loaded = .int k := by
  rintro ⟨a, t, hload, hloaded⟩
  have hjammed : Jammed t := (wp_of_ok hload).mp (Op.Preserves.wp (c := True) .of_parts hp)
  -- the number that is loaded would be free and the number of a game
  obtain ⟨n, hn, hn'⟩ := hjammed
  cases hloaded.symm.trans hn'
  exact hn.not_leavable (.inr ⟨g, hk⟩)

theorem Jammed.unload_fails (hp : Jammed p) :
    ¬ ∃ a t, unload p = .ok a t ∧ t.game.loaded = .int 0 := by
  rw [← wp_false_iff, hp.wp_unload]
  exact not_false

/-- On a vehicle that works, with a camera whose place is on file and with a sonar, every game can
be loaded and the loaded one can be unloaded, exactly as long as no free number has been loaded. -/
theorem switching_succeeds_iff (p : Play Switchboard) (hfit : p.Fit FourMotors Equipped)
    (heye : p.game.eye ≠ .absent) (hloaded : p.game.loaded = .int 0) (orders : List Order) :
    (∀ k g, (k, some g) ∈ games →
        ((∃ a t, load (.tuple [.int k]) (obey orders p) = .ok a t ∧ t.game.loaded = .int k) ↔
          ∀ n, .load n ∈ orders → ¬ Free n)) ∧
      ((∃ a t, unload (obey orders p) = .ok a t ∧ t.game.loaded = .int 0) ↔
        ∀ n, .load n ∈ orders → ¬ Free n) := by
  have hsound : Sound p := ⟨0, .inl rfl, hfit, heye, hloaded, nofun⟩
  refine ⟨fun k g hk => ⟨fun hload n hmem hn => ?_, fun hfree => ?_⟩,
    fun hunload n hmem hn => ?_, fun hfree => ?_⟩
  · exact (obey_jammed hsound hn hmem).load_in_vain hk hload
  · exact (obey_sound hsound hfree).load_succeeds hk
  · exact (obey_jammed hsound hn hmem).unload_fails hunload
  · exact (obey_sound hsound hfree).unload_succeeds

end

def switchedOn : Play Switchboard := ⟨{}, {}, some {}, {}⟩

theorem switchedOn_fit : switchedOn.Fit FourMotors Equipped :=
  ⟨⟨by decide, rfl, rfl, rfl, rfl, rfl⟩, placed_usualServos, rfl⟩

def chaseOrders : List Order := [.load 3, .start, .load 12, .stop, .start]

theorem switching_succeeds_iff_chase :
    (∃ a t, load (.tuple [.int 6]) (obey chaseOrders switchedOn) = .ok a t ∧
        t.game.loaded = .int 6) ∧
      ∃ a t, unload (obey chaseOrders switchedOn) = .ok a t ∧ t.game.loaded = .int 0 := by
  have hfree : ∀ n, .load n ∈ chaseOrders → ¬ Free n := by
    intro n hn
    simp only [chaseOrders, List.mem_cons, Order.load.injEq, reduceCtorEq, List.not_mem_nil,
      or_false, false_or] at hn
    obtain rfl | rfl := hn
    · decide
    · decide
  have hall := switching_succeeds_iff switchedOn switchedOn_fit nofun rfl chaseOrders
  exact ⟨(hall.1 6 .roaming (by decide)).mpr hfree, hall.2.mpr hfree⟩

/-- After a free number neither a game can be loaded nor anything unloaded. -/
theorem free_number_stays :
    (¬ ∃ a t, load (.tuple [.int 2]) (obey [.load 7] switchedOn) = .ok a t ∧
        t.game.loaded = .int 2) ∧
      ¬ ∃ a t, unload (obey [.load 7] switchedOn) = .ok a t ∧ t.game.loaded = .int 0 := by
  have hsound : Sound switchedOn := ⟨0, .inl rfl, switchedOn_fit, nofun, rfl, nofun⟩
  have hjammed : Jammed (obey [.load 7] switchedOn) :=
    obey_jammed hsound (n := 7) (by decide) List.mem_cons_self
  exact ⟨hjammed.load_in_vain (g := .spotter) (by decide), hjammed.unload_fails⟩

end Rover.Switchboard
