import Rover.Proofs.Games.Watching

/-!
# Votes on colours

Three pictures vote on a colour by its number, and their mean elects, so that a mixture may elect
one that is not the last. The spotter hands an elected colour over to the motion, and until it was
acted on nothing else is elected.
-/

namespace Rover

open Poll List Play ColorSpotter Blob Op

set_option synthInstance.maxSize 1000000000

/-! ## The course of a game -/

inductive Moment where
  | step (s : Step)
  | choice (targets : Value)
  | picture (frame : Option Raster)
  | scene (change : Rig → Rig)
  | turn

section
variable {σ : Type}

def Moment.occur (g : Game σ) (choose : Value → σ → σ) : Moment → Op (Play σ) Unit
  | step s => (s.of g).getD (pure ())
  | choice targets => update (choose targets)
  | picture frame => do let _ ← g.watch frame
  | scene change => modify fun p => { p with rig := change p.rig }
  | turn => g.turn.getD (pure ())

structure Game.Upholds (g : Game σ) (choose : Value → σ → σ) (I : σ → Prop) : Prop where
  step : ∀ s op, Step.of s g = some op → Keeps (fun p => I p.game) op
  choice : ∀ targets s, I s → I (choose targets s)
  picture : ∀ frame, Keeps (fun p => I p.game) (g.watch frame)
  turn : ∀ op, g.turn = some op → Keeps (fun p => I p.game) op

theorem Game.Upholds.runAll {g : Game σ} {choose : Value → σ → σ} {I : σ → Prop}
    (h : g.Upholds choose I) {p : Play σ} (hp : I p.game) (course : List Moment) :
    I (runAll (Moment.occur g choose) course p).game := by
  refine runAll_keeps (I := fun p : Play σ => I p.game) (fun m => ?_) course hp
  cases m with
  | step s =>
    change Keeps _ ((s.of g).getD (pure ()))
    cases hop : s.of g with
    | none => exact .pure _
    | some op => exact h.step s op hop
  | choice targets => exact .modify fun p hp => h.choice targets p.game hp
  | picture frame => exact .map (h.picture frame)
  | scene change => exact .modify fun _ hp => hp
  | turn =>
    change Keeps _ (g.turn.getD (pure ()))
    cases hop : g.turn with
    | none => exact .pure _
    | some op => exact h.turn op hop

end

/-! ## Ballots -/

def Blob.choice (thresholds targets : Value) (frame : Option Raster) : Result (Option Value) := do
  dominantIn thresholds targets (← smooth (← Games.present frame))

theorem Blob.wp_choice {σ α : Type} (thresholds targets : Value) (frame : Option Raster)
    (f : Option Value → Op σ α) {Q : α → σ → Prop} {E : Exit → σ → Prop} {s : σ} : wp (do
      let picture ← smooth (← Games.present frame)
      f (← dominantIn thresholds targets picture)) Q E s ↔
      match choice thresholds targets frame with
      | .ok seen => wp (f seen) Q E s
      | .error e => E (.fault e) s := by
  unfold choice
  simp only [wp_bind, liftM_except, wp_ofExcept]
  cases Games.present frame with
  | error e => rfl
  | ok picture =>
    cases hsmooth : smooth picture with
    | error e => simp only [hsmooth, bind, Except.bind]
    | ok searched =>
      simp only [hsmooth, bind, Except.bind]
      cases dominantIn thresholds targets searched <;> rfl

namespace Poll

structure Counts (counted : List Nat) (p : Poll) : Prop where
  ballots : p.ballots = .list (counted.map fun n : Nat => .int n)
  short : counted.length < size

variable (candidates : List String)

def meant? (total : Nat) : Option String :=
  (candidates.zipIdx.find? fun (_, i) => total = size * (i + 1)).map Prod.fst

theorem mem_of_meant? {candidates : List String} {total : Nat} {c : String}
    (h : meant? candidates total = some c) : c ∈ candidates := by
  obtain ⟨⟨c', i⟩, hfind, rfl⟩ := Option.map_eq_some_iff.mp h
  exact fst_mem_of_mem_zipIdx (mem_of_find?_eq_some hfind)

theorem winner?_eq {counted : List Nat} (h : counted.length = size) :
    winner? candidates (counted.map fun n : Nat => .int n) =
      .ok (meant? candidates counted.sum) := by
  have hints : counted.map (fun n : Nat => Value.int n) =
      (counted.map (fun n : Nat => (n : Int))).map .int := (map_map ..).symm
  have hsum (start : Nat) : (counted.map (fun n : Nat => (n : Int))).foldl (· + ·) (start : Int) =
      ((start + counted.sum : Nat) : Int) := by
    clear h hints
    induction counted generalizing start with
    | nil => rfl
    | cons n rest ih =>
      rw [map_cons, foldl_cons, ← Nat.cast_add, ih, sum_cons, Nat.add_assoc]
  have hmean (n : Nat) : ((counted.map (fun n : Nat => (n : Int))).foldl (· + ·) 0 =
      ((counted.map (fun n : Nat => (n : Int))).length * n : Int)) ↔ counted.sum = size * n := by
    rw [← Nat.cast_zero, hsum, Nat.zero_add, length_map, h]
    exact_mod_cast Iff.rfl
  unfold winner? meant?
  rw [hints, mapM_integer?]
  simp only [hmean, pure, Except.pure, bind, Except.bind]

def decided? (votes : List Nat) : Option (Option String) :=
  if votes.length = size then some (meant? candidates votes.sum) else none

def pending (votes : List Nat) : List Nat := if votes.length = size then [] else votes

def holding (votes : List Nat) (p : Poll) : Poll :=
  { p with ballots := .list ((pending votes).map fun n : Nat => .int n) }

def judged (counted : List Nat) (seen : Option Value) (p : Poll) : Poll :=
  match seen with
  | none => p.vacate
  | some color =>
    let votes := counted ++ [number candidates color]
    match decided? candidates votes with
    | some winner => (p.holding votes).declare winner
    | none => p.holding votes

def counting (counted : List Nat) : Option Value → List Nat
  | none => counted
  | some color => pending (counted ++ [number candidates color])

theorem ballots_declare (p : Poll) (winner : Option String) :
    (p.declare winner).ballots = p.ballots := by
  cases winner <;> rfl

section
variable {counted : List Nat} {p : Poll} (h : p.Counts counted) (candidates : List String)
include h

theorem Counts.wp_cast (color : Value) {Q : Option (Option String) → Poll → Prop}
    {E : Exit → Poll → Prop} :
    wp (cast candidates color) Q E p ↔
      Q (decided? candidates (counted ++ [number candidates color]))
        (p.holding (counted ++ [number candidates color])) := by
  have hext : Games.extend p.ballots (.int (number candidates color)) =
      .ok ((counted ++ [number candidates color]).map fun n : Nat => .int n) := by
    rw [h.ballots, map_append]
    rfl
  unfold cast decided? holding pending
  rw [wp_bind, wp_get, wp_ok_bind hext, wp_bind, wp_modify, length_map]
  by_cases hlast : (counted ++ [number candidates color]).length = size
  · rw [if_pos hlast, if_pos hlast, if_pos hlast, wp_ok_bind (winner?_eq candidates hlast)]
    rfl
  · rw [if_neg hlast, if_neg hlast, if_neg hlast]
    rfl

theorem Counts.holding (n : Nat) :
    (p.holding (counted ++ [n])).Counts (pending (counted ++ [n])) := by
  have hshort := h.short
  refine ⟨rfl, ?_⟩
  unfold pending
  split
  · decide
  · rename_i hmore
    rw [length_append, length_singleton] at hmore ⊢
    omega

theorem Counts.judged (seen : Option Value) :
    (judged candidates counted seen p).Counts (counting candidates counted seen) := by
  cases seen with
  | none => exact ⟨h.ballots, h.short⟩
  | some color =>
    have hholding := h.holding (number candidates color)
    unfold Poll.judged
    dsimp only
    cases decided? candidates (counted ++ [number candidates color]) with
    | none => exact hholding
    | some winner => exact ⟨(ballots_declare _ winner).trans hholding.ballots, hholding.short⟩

end

end Poll

/-! ## The spotter -/

namespace ColorSpotter

open Play (update)

def chosen (targets : Value) (s : ColorSpotter) : ColorSpotter := { s with targets }

def judged (counted : List Nat) (seen : Option Value) (s : ColorSpotter) : ColorSpotter :=
  { s with
    poll := Poll.judged candidates counted seen s.poll
    claimed := match seen.bind fun color =>
        Poll.decided? candidates (counted ++ [Poll.number candidates color]) with
      | some winner => .bool winner.isSome
      | none => s.claimed }

variable {p : Play ColorSpotter} {counted : List Nat}

theorem wp_judge (h : p.game.poll.Counts counted)
    (seen : Option Value) {Q : Unit → Play ColorSpotter → Prop}
    {E : Exit → Play ColorSpotter → Prop} :
    wp (judge seen) Q E p ↔ Q () { p with game := judged counted seen p.game } := by
  cases seen with
  | none => rfl
  | some color =>
    unfold judge vote
    rw [wp_bind, wp_onPart, h.wp_cast]
    unfold judged Poll.judged
    dsimp only [Option.bind_some]
    cases Poll.decided? candidates (counted ++ [Poll.number candidates color]) with
    | none => exact wp_pure ..
    | some winner => exact wp_update ..

def watched (counted : List Nat) (frame : Option Raster) (s : ColorSpotter) : ColorSpotter :=
  if s.running.truth && !s.claimed.truth then
    match choice s.thresholds s.targets frame with
    | .ok seen => judged counted seen s
    | .error _ => s
  else s

theorem after_watch (h : p.game.poll.Counts counted)
    (frame : Option Raster) : ((watch frame).after p).game = watched counted frame p.game := by
  obtain ⟨next, hnext⟩ : ∃ next, watched counted frame p.game = next := ⟨_, rfl⟩
  have hcaption (q : Play ColorSpotter) (hq : q.game = next) : wp (do
      liftM (← state).poll.checkCaption
      return Shown.given : M Shown) (fun _ q => q.game = next) (fun _ q => q.game = next) q := by
    exact wp_except_bind (fun _ _ => hq) fun _ _ => hq
  rw [hnext]
  refine (wp_after_iff (P := fun q : Play ColorSpotter => q.game = next)).mp ?_
  unfold watched at hnext
  unfold watch
  rw [wp_bind, wp_state]
  cases hrun : p.game.running.truth with
  | false =>
    rw [hrun] at hnext
    exact hnext
  | true =>
    rw [hrun] at hnext
    cases hclaimed : p.game.claimed.truth with
    | true =>
      rw [hclaimed] at hnext
      refine wp_except_bind (fun _ _ => ?_) fun _ _ => hnext
      exact wp_except_bind (fun _ _ => hcaption p hnext) fun _ _ => hnext
    | false =>
      rw [hclaimed] at hnext
      refine (wp_choice ..).mpr ?_
      cases hchoice : choice p.game.thresholds p.game.targets frame with
      | error f =>
        rw [hchoice] at hnext
        exact hnext
      | ok seen =>
        rw [hchoice] at hnext
        exact (wp_bind ..).mpr ((wp_judge h seen).mpr (hcaption _ hnext))

/-- The ballots are counted, and a colour that is handed over was elected. -/
structure HandsOver (s : ColorSpotter) : Prop where
  counts : ∃ counted, s.poll.Counts counted
  elected : s.claimed.truth → ∃ c ∈ candidates, s.poll.elected = .str c

theorem HandsOver.watched {s : ColorSpotter} (hs : HandsOver s)
    (h : s.poll.Counts counted) (frame : Option Raster) : HandsOver (watched counted frame s) := by
  unfold ColorSpotter.watched
  split
  · rename_i hlooks
    have hfree : s.claimed.truth = false := by simpa using (Bool.and_eq_true_iff.mp hlooks).2
    split
    · rename_i seen hseen
      refine ⟨⟨_, h.judged candidates seen⟩, fun hclaimed => ?_⟩
      unfold judged at hclaimed ⊢
      cases seen with
      | none => cases hfree.symm.trans hclaimed
      | some color =>
        dsimp only [Option.bind_some] at hclaimed ⊢
        unfold Poll.judged
        dsimp only
        cases hdec : Poll.decided? candidates (counted ++ [Poll.number candidates color]) with
        | none =>
          rw [hdec] at hclaimed
          cases hfree.symm.trans hclaimed
        | some winner =>
          rw [hdec] at hclaimed
          cases winner with
          | none => cases hclaimed
          | some c =>
            refine ⟨c, ?_, rfl⟩
            unfold Poll.decided? at hdec
            split at hdec
            · exact Poll.mem_of_meant? (Option.some.inj hdec)
            · cases hdec
    · exact hs
  · exact hs

instance (s t : ColorSpotter) [hpoll : Same t.poll s.poll] [hclaimed : Same t.claimed s.claimed] :
    Leads s.HandsOver t.HandsOver :=
  ⟨fun hs => ⟨hpoll.eq ▸ hs.1, hpoll.eq ▸ hclaimed.eq ▸ hs.2⟩⟩

theorem upholds : game.Upholds chosen HandsOver := by
  have hcleared (s : ColorSpotter) : Leads s.HandsOver (HandsOver { s with
      unsettled := .bool false, claimed := .bool false, poll := s.poll.clear }) :=
    ⟨fun _ => ⟨⟨[], rfl, by decide⟩, nofun⟩⟩
  have hacted (s : ColorSpotter) : Leads s.HandsOver (HandsOver { s with
      unsettled := .bool true, claimed := .bool false
      poll := { s.poll with elected := .str "None" } }) :=
    ⟨fun hs => ⟨hs.1.imp fun _ h => ⟨h.1, h.2⟩, nofun⟩⟩
  refine ⟨fun s op hop => ?_, fun _ s hs => ⟨hs.1, hs.2⟩, fun frame => ?_, fun op hop => ?_⟩
  · cases s <;> cases hop
    all_goals
      dsimp only [game, prepare, load, reset, aim, start, stop]
      exact .of_parts
  · rw [keeps_iff_wp]
    intro p hp
    obtain ⟨counted, hcnt⟩ := hp.counts
    refine wp_after_iff.mpr ?_
    change HandsOver ((watch frame).after p).game
    rw [after_watch hcnt]
    exact hp.watched hcnt frame
  · cases hop
    dsimp only [game, turn, waggle, aim]
    exact .of_parts

def acts (s : ColorSpotter) : Bool :=
  s.running.truth && (!s.poll.elected.same (.str "None") && s.claimed.truth)

theorem turn_of_acts (hacts : p.game.acts) :
    wp turn (fun _ q => q.game.claimed = .bool false ∧ q.game.poll.elected = .str "None")
      (fun _ _ => True) p := by
  obtain ⟨hrun, hclaimed⟩ := Bool.and_eq_true_iff.mp hacts
  have hdone (q : Play ColorSpotter) : wp (do
      update fun s => { s with
        unsettled := .bool true, claimed := .bool false
        poll := { s.poll with elected := .str "None" } }
      onRig Games.dark : M Unit)
      (fun _ q => q.game.claimed = .bool false ∧ q.game.poll.elected = .str "None")
      (fun _ _ => True) q := by
    rw [wp_bind, wp_update, wp_onRig]
    exact wp_of_forall (fun _ _ => ⟨rfl, rfl⟩) fun _ _ => trivial
  unfold turn
  rw [wp_bind, wp_state, if_pos hrun, if_pos hclaimed]
  refine (wp_bind ..).mpr (wp_of_forall (fun _ q => ?_) fun _ _ => trivial)
  refine (wp_bind ..).mpr (wp_of_forall (fun _ q => ?_) fun _ _ => trivial)
  split
  · exact (wp_bind ..).mpr (wp_of_forall (fun _ q => hdone q) fun _ _ => trivial)
  · exact (wp_bind ..).mpr (wp_of_forall (fun _ q => hdone q) fun _ _ => trivial)

/-- However the game has gone on, a colour that is handed over to the motion is one of the three, no
picture changes it or the ballots as long as it waits, and a turn that acts on it gives it up. -/
theorem handed_over (rig : Rig) (files : ConfigFiles) (sonar : Option Sonar)
    (course : List Moment) :
    let p := runAll (Moment.occur game chosen) course ⟨rig, files, sonar, {}⟩
    (p.game.claimed.truth = true →
      (∃ c ∈ ["red", "green", "blue"], p.game.poll.elected = .str c) ∧
      ∀ frame, ((watch frame).after p).game.poll = p.game.poll) ∧
    (p.game.acts = true → ∀ q, turn p = .ok () q →
      q.game.claimed = .bool false ∧ q.game.poll.elected = .str "None") := by
  intro p
  have hp : HandsOver p.game :=
    upholds.runAll (p := ⟨rig, files, sonar, {}⟩) ⟨⟨[], rfl, by decide⟩, nofun⟩ course
  refine ⟨fun hclaimed => ⟨hp.elected hclaimed, fun frame => ?_⟩, fun hacts q hq => ?_⟩
  · obtain ⟨counted, hcounted⟩ := hp.counts
    rw [after_watch hcounted]
    unfold watched
    rw [hclaimed, Bool.not_true, Bool.and_false, if_neg Bool.false_ne_true]
  · exact (wp_of_ok hq).mp (turn_of_acts hacts)

end ColorSpotter

/-! ## What three votes elect -/

section
variable {σ : Type} {poll : σ → Poll} {candidates : List String}
  {judge : Option Value → Op (Play σ) Unit}

def Games.Votes (poll : σ → Poll) (candidates : List String)
    (judge : Option Value → Op (Play σ) Unit) : Prop :=
  ∀ p counted, (poll p.game).Counts counted → ∀ seen,
    wp (judge seen) (fun _ q => poll q.game = Poll.judged candidates counted seen (poll p.game))
      (fun _ q => (poll q.game).Counts (counting candidates counted seen)) p

theorem Games.Votes.runAll (h : Votes poll candidates judge) (stream : List (Option Value))
    {p : Play σ} {counted : List Nat} (hp : (poll p.game).Counts counted) :
    (poll (runAll judge stream p).game).Counts
      (stream.foldl (counting candidates) counted) := by
  induction stream generalizing p counted with
  | nil => exact hp
  | cons seen rest ih =>
    refine ih ((wp_after_iff (P := fun q : Play σ => (poll q.game).Counts _)).mp ?_)
    refine wp_post (h p counted hp seen) fun _ q hq => ?_
    rw [hq]
    exact hp.judged candidates seen

/-- Of a stream of what is seen in pictures, every third colour elects the one of which the number
is the mean of the last three, and nothing else elects. -/
def Games.ElectsByMean (poll : σ → Poll) (candidates : List String)
    (judge : Option Value → Op (Play σ) Unit) (stream : List (Option Value)) (color : Value) : Prop :=
  ∀ p q : Play σ, (poll p.game).ballots = .list [] →
    judge (some color) (runAll judge stream p) = .ok () q →
    let votes := stream.foldl (counting candidates) [] ++ [Poll.number candidates color]
    (poll q.game).elected =
      if votes.length = 3 then .str ((meant? candidates votes.sum).getD "None")
      else (poll (runAll judge stream p).game).elected

theorem Games.Votes.electsByMean (h : Votes poll candidates judge) (stream : List (Option Value))
    (color : Value) : ElectsByMean poll candidates judge stream color := by
  intro p q hballots hq votes
  have hcounts := h.runAll stream (⟨hballots, by decide⟩ : (poll p.game).Counts [])
  rw [(wp_of_ok hq).mp (h _ _ hcounts (some color))]
  unfold Poll.judged
  dsimp only
  by_cases hlast : votes.length = 3
  · have hdec : Poll.decided? candidates votes = some _ := if_pos hlast
    rw [if_pos hlast, hdec]
    cases meant? candidates votes.sum <;> rfl
  · have hdec : Poll.decided? candidates votes = none := if_neg hlast
    rw [if_neg hlast, hdec]
    rfl

end

theorem ColorSpotter.votes : Games.Votes poll candidates judge :=
  fun _ _ h seen => (wp_judge h seen).mpr rfl

theorem TrackRunner.votes : Games.Votes poll candidates judge := by
  intro p counted h seen
  cases seen with
  | none => rfl
  | some color =>
    unfold judge vote Poll.judged
    rw [wp_bind, wp_onPart, h.wp_cast]
    dsimp only
    cases Poll.decided? candidates (counted ++ [Poll.number candidates color]) with
    | none => rfl
    | some winner => rfl

theorem ColorAlarm.votes : Games.Votes poll candidates judge := by
  intro p counted h seen
  cases seen with
  | none => rfl
  | some color =>
    unfold judge vote Poll.judged
    rw [wp_bind, wp_onPart, h.wp_cast]
    dsimp only
    have hholding := h.holding (Poll.number candidates color)
    cases Poll.decided? candidates (counted ++ [Poll.number candidates color]) with
    | none => rfl
    | some winner =>
      generalize holding (counted ++ [Poll.number candidates color]) p.game.poll = b at *
      have hwarn : Keeps (fun q : Play ColorAlarm => q.game.poll = b) warn := by
        unfold warn
        exact .of_parts
      have hdeclare (q : Play ColorAlarm) (hq : q.game.poll = b) :
          wp (update fun s : ColorAlarm => { s with poll := s.poll.declare winner })
            (fun _ q => q.game.poll = b.declare winner)
            (fun _ q => q.game.poll.Counts
              (pending (counted ++ [Poll.number candidates color]))) q :=
        (wp_update ..).mpr (congrArg (declare · winner) hq)
      rw [wp_ite]
      split
      · refine (wp_bind ..).mpr (wp_mono (hwarn.wp rfl) (fun _ q hq => hdeclare q hq)
          fun _ q hq => ?_)
        rwa [← hq] at hholding
      · exact hdeclare _ rfl

/-- In the three games that vote on colours the mean of three numbers elects. So the last colour
is elected by three votes for it only, and so is the first if all are for colours that have a
number; but a mixture may elect the one in the middle. -/
theorem elected_by_mean (stream : List (Option Value)) (color : Value) :
    Games.ElectsByMean poll ["red", "green", "blue"] judge stream color ∧
    Games.ElectsByMean ColorAlarm.poll ["red", "green", "blue"] ColorAlarm.judge stream color ∧
    Games.ElectsByMean TrackRunner.poll ["red", "green"] TrackRunner.judge stream color ∧
    (∀ a < 4, ∀ b < 4, ∀ c < 4,
      meant? ["red", "green", "blue"] (a + b + c) = some "blue" ↔ [a, b, c] = [3, 3, 3]) ∧
    (∀ a < 3, ∀ b < 3, ∀ c < 3,
      meant? ["red", "green"] (a + b + c) = some "green" ↔ [a, b, c] = [2, 2, 2]) ∧
    (∀ a < 3, ∀ b < 3, ∀ c < 3,
      meant? ["red", "green", "blue"] ((a + 1) + (b + 1) + (c + 1)) = some "red" ↔
        [a, b, c] = [0, 0, 0]) ∧
    (∀ a < 2, ∀ b < 2, ∀ c < 2,
      meant? ["red", "green"] ((a + 1) + (b + 1) + (c + 1)) = some "red" ↔
        [a, b, c] = [0, 0, 0]) :=
  ⟨votes.electsByMean _ _, ColorAlarm.votes.electsByMean _ _,
    TrackRunner.votes.electsByMean _ _, by decide, by decide, by decide, by decide⟩

/-- A picture each with red, green and blue, and green is elected. -/
theorem green_elected_by_three_colors :
    let p := runAll judge (["red", "green", "blue"].map fun c => some (.str c))
      ⟨{}, {}, none, {}⟩
    p.game.poll.elected.same (.str "green") = true ∧ p.game.claimed.truth = true := by
  decide +kernel

/-! ## The alarm -/

namespace ColorAlarm

open Play (update)

/-- The buzzer is switched on and off again. -/
def ring : List Event :=
  [.pin 31 (.int 0), .pin 31 (.int 1), .slept (.float 0.1), .pin 31 (.int 0), .slept (.float 0.1)]

structure Rings (p q : Play ColorAlarm) : Prop where
  due : Value.greater (.float p.rig.clock) p.game.quietUntil = .ok true
  quiet : q.game.quietUntil = .float (p.rig.clock + 3)
  events : q.rig.events.toList = p.rig.events.toList ++ ring

def Silent (p q : Play ColorAlarm) : Prop :=
  q.game.quietUntil = p.game.quietUntil ∧ q.rig.events = p.rig.events

/-- With this colour the third ballot is cast, and the mean elects red. -/
def ElectsRed (p : Play ColorAlarm) (color : Value) : Prop :=
  ∃ counted, p.game.poll.Counts counted ∧
    let votes := counted ++ [Poll.number candidates color]
    votes.length = 3 ∧ meant? candidates votes.sum = some "red"

/-- Either the buzzer is left alone, or it rings because red is elected. -/
def Heard (frame : Option Raster) (p q : Play ColorAlarm) : Prop :=
  Silent p q ∨ Rings p q ∧ ∃ color,
    choice p.game.thresholds p.game.targets frame = .ok (some color) ∧ ElectsRed p color

structure Counting (p : Play ColorAlarm) : Prop where
  limits : p.rig.Unlimited
  counts : ∃ counted, p.game.poll.Counts counted

variable {p : Play ColorAlarm}

theorem warn_spec (hp : p.rig.Unlimited) :
    wp warn (fun _ q => q.rig.Unlimited ∧ (Silent p q ∨ Rings p q)) (fun _ q => q = p) p := by
  unfold warn
  rw [wp_bind, wp_onRig, Rig.wp_now, wp_bind, wp_state, wp_bind]
  cases hdue : Value.greater (.float p.rig.clock) p.game.quietUntil with
  | error f => rfl
  | ok due =>
    cases due with
    | false => exact ⟨hp, .inl ⟨rfl, rfl⟩⟩
    | true =>
      have hsleep : Rig.sleepLength (.float 0.1) = .ok 0.1 :=
        Rig.sleepLength_float rfl (by decide +kernel)
      change wp (update _ >>= _) _ _ _
      rw [wp_bind, wp_update, wp_bind, liftM_rig, wp_onRig]
      unfold Games.beep Board.setBuzzer
      rw [wp_bind, wp_emit, wp_bind, wp_emit, wp_bind]
      refine (Rig.wp_sleep_of_unlimited ?_ hsleep).mpr ?_
      · exact { hp with }
      rw [wp_emit, liftM_rig, wp_onRig]
      refine (Rig.wp_sleep_of_unlimited ?_ hsleep).mpr ?_
      · exact { hp with }
      exact ⟨{ hp with }, .inr ⟨hdue, rfl, by simp [ring]⟩⟩

theorem judge_heard (hp : Counting p) {frame : Option Raster} {seen : Option Value}
    (hseen : choice p.game.thresholds p.game.targets frame = .ok seen) :
    wp (judge seen) (fun _ q => Counting q ∧ Heard frame p q)
      (fun _ q => Counting q ∧ Heard frame p q) p := by
  obtain ⟨hlims, counted, h⟩ := hp
  have hheard : wp (judge seen) (fun _ q => q.rig.Unlimited ∧ Heard frame p q)
      (fun _ q => q.rig.Unlimited ∧ Heard frame p q) p := by
    cases seen with
    | none => exact ⟨hlims, .inl ⟨rfl, rfl⟩⟩
    | some color =>
      unfold judge vote
      rw [wp_bind, wp_onPart, h.wp_cast]
      by_cases hlast : (counted ++ [Poll.number candidates color]).length = 3
      · have hdec : Poll.decided? candidates (counted ++ [Poll.number candidates color]) =
            some _ := if_pos hlast
        rw [hdec, wp_ite]
        split
        · rename_i hred
          refine (wp_bind ..).mpr (wp_mono (warn_spec hlims) (fun _ q hq => ?_) fun _ q hq => ?_)
          · exact ⟨hq.1, hq.2.imp_right fun hrings =>
              ⟨{ hrings with }, color, hseen, counted, h, hlast, hred⟩⟩
          · subst hq
            exact ⟨hlims, .inl ⟨rfl, rfl⟩⟩
        · exact ⟨hlims, .inl ⟨rfl, rfl⟩⟩
      · have hdec : Poll.decided? candidates (counted ++ [Poll.number candidates color]) =
            none := if_neg hlast
        rw [hdec]
        exact ⟨hlims, .inl ⟨rfl, rfl⟩⟩
  refine wp_mono (wp_and (votes p counted h seen) hheard) (fun _ q hq => ?_) fun _ q hq => ?_
  · exact ⟨⟨hq.2.1, _, hq.1 ▸ h.judged candidates seen⟩, hq.2.2⟩
  · exact ⟨⟨hq.2.1, _, hq.1⟩, hq.2.2⟩

theorem watch_heard (hp : Counting p) (frame : Option Raster) :
    wp (watch frame) (fun _ q => Counting q ∧ Heard frame p q)
      (fun _ q => Counting q ∧ Heard frame p q) p := by
  have hsame : Counting p ∧ Heard frame p p := ⟨hp, .inl ⟨rfl, rfl⟩⟩
  unfold watch
  rw [wp_bind, wp_state]
  cases p.game.running.truth with
  | false => exact hsame
  | true =>
    refine (wp_choice ..).mpr ?_
    cases hchoice : choice p.game.thresholds p.game.targets frame with
    | error f => exact hsame
    | ok seen =>
      refine (wp_bind ..).mpr (wp_mono (judge_heard hp hchoice) (fun _ q hq => ?_) fun _ q hq => hq)
      exact wp_except_bind (fun _ _ => hq) fun _ _ => hq

structure Glance where
  clock : Float
  frame : Option Raster

namespace Glance

variable (g : Glance)

def time (p : Play ColorAlarm) : Play ColorAlarm := { p with rig.clock := g.clock }

def occur : M Shown := do
  modify g.time
  watch g.frame

theorem heard (hp : Counting p) :
    Counting (g.occur.after p) ∧ Heard g.frame (g.time p) (g.occur.after p) := by
  have htime : Counting (g.time p) := ⟨{ hp.limits with }, hp.counts⟩
  refine (wp_after_iff (P := fun q => Counting q ∧ Heard g.frame _ q)).mp ?_
  exact (wp_bind ..).mpr (watch_heard htime g.frame)

end Glance

/-- The buzzer has rung at this time, and perhaps again later. -/
def Since (t : Float) (p : Play ColorAlarm) : Prop :=
  ∃ u, u.isFinite ∧ p.game.quietUntil = .float (u + 3) ∧ amount t ≤ amount u

theorem Since.lt {t now : Float} (h : Since t p) (hnow : now.isFinite)
    (hdue : Value.greater (.float now) p.game.quietUntil = .ok true) :
    amount t + 3 < amount now := by
  obtain ⟨u, hu, hquiet, hle⟩ := h
  have hthree : amount 3 = 3 := by decide +kernel
  have hsum := isRounded_add_of_small hu rfl (by rw [hthree]; norm_num)
  rw [hquiet] at hdue
  have hless : Num.less (.float (u + 3)) (.float now) := Except.ok.inj hdue
  rw [Num.less_eq_amount (a := .float _) hsum.isFinite (b := .float now) hnow,
    decide_eq_true_iff] at hless
  -- the sum is rounded, but not beyond a time
  by_contra hsoon
  refine hless.not_ge (hsum.rounds.ge _ (.amount hnow) ?_)
  change amount now ≤ _
  linarith

theorem Since.occur {t : Float} (hp : Counting p) (h : Since t p) {g : Glance}
    (hg : g.clock.isFinite) : Since t (g.occur.after p) := by
  rcases (g.heard hp).2 with hsilent | ⟨hrings, -⟩
  · obtain ⟨u, hu, hquiet, hle⟩ := h
    exact ⟨u, hu, hsilent.1.trans hquiet, hle⟩
  · have hlt := h.lt hg hrings.due
    exact ⟨g.clock, hg, hrings.quiet, by linarith⟩

end ColorAlarm

end Rover
