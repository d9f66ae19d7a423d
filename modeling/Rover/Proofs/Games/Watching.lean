import Rover.Proofs.Games.Blobs
import Rover.Proofs.Games.Hardware
import Rover.Proofs.Games.Measures

/-!
# Games that watch pictures

A game that was started is shown pictures without end, while the colours to look for are chosen anew
and the motion goes on. A picture that a game does not stand ends the service, so for each game it
is said which ones those are.
-/

namespace Rover

open LinePatrol Value List Games

set_option synthInstance.maxSize 1000000000

open Play (wp_onRig wp_update)
open ThresholdTuner (Table)
variable {files : ConfigFiles}

abbrev Picture := { r : Raster // r.Sized }

inductive Sight where
  | choose (colors : List String)
  | look (picture : Picture) (codes : List Barcode)
  | turn

def Sight.chosen (colors : List String) : List Sight → List String
  | [] => colors
  | .choose colors' :: rest => chosen colors' rest
  | _ :: rest => chosen colors rest

section
variable {σ : Type} {p : Play σ}

def Play.withCodes (p : Play σ) (codes : List Barcode) : Play σ :=
  { p with rig := { p.rig with barcodes := codes } }

def Sight.occur (g : Game σ) (choose : Value → Op (Play σ) Value) : Sight → Op (Play σ) Unit
  | .choose colors => do let _ ← choose (.tuple (colors.map .str))
  | .look picture codes => do
    modify (·.withCodes codes)
    let _ ← g.watch (some picture.1)
  | .turn => g.turn.getD (pure ())

def Game.watching (g : Game σ) (choose : Value → Op (Play σ) Value) (course : List Sight)
    (p : Play σ) : Play σ :=
  Op.runAll (Sight.occur g choose) course ((g.start.getD (pure ())).after (g.prepare.after p))

def Game.Shows (g : Game σ) (picture : Picture) (codes : List Barcode) (p : Play σ) : Prop :=
  ∃ q, g.watch (some picture.1) (p.withCodes codes) = .ok .given q

/-- A property of the state that nothing but the choice of colours changes. -/
structure Game.Attends (g : Game σ) (choose : Value → Op (Play σ) Value)
    (I : List String → σ → Prop) : Prop where
  choose : ∀ old new p, I old p.game → I new ((choose (.tuple (new.map .str))).after p).game
  watch : ∀ colors (picture : Picture), Keeps (fun p => I colors p.game) (g.watch (some picture.1))
  turn : ∀ colors, Keeps (fun p => I colors p.game) (g.turn.getD (pure ()))

theorem Game.Attends.runAll {g : Game σ} {choose : Value → Op (Play σ) Value}
    {I : List String → σ → Prop} (h : g.Attends choose I) (course : List Sight)
    (colors : List String) (hp : I colors p.game) :
    I (Sight.chosen colors course) (Op.runAll (Sight.occur g choose) course p).game := by
  -- the colours chosen so far go with the state, as a choice replaces them
  induction course generalizing colors p with
  | nil => exact hp
  | cons s rest ih =>
    cases s with
    | choose new =>
      have hchoose : wp (choose (.tuple (new.map .str))) (fun _ q => I new q.game)
          (fun _ q => I new q.game) p := wp_after_iff.mpr (h.choose colors new p hp)
      have hnext : wp (Sight.occur g choose (.choose new)) (fun _ q => I new q.game)
          (fun _ q => I new q.game) p := (wp_bind ..).mpr hchoose
      exact ih _ (wp_after_iff.mp hnext)
    | look picture codes =>
      have hwatch := (h.watch colors picture).wp (s := p.withCodes codes) hp
      have hnext : wp (Sight.occur g choose (.look picture codes)) (fun _ q => I colors q.game)
          (fun _ q => I colors q.game) p := (wp_bind ..).mpr ((wp_bind ..).mpr hwatch)
      exact ih _ (wp_after_iff.mp hnext)
    | turn => exact ih _ ((h.turn colors).after hp)

theorem Game.shows_iff {g : Game σ} {picture : Picture} {codes : List Barcode} {C : Prop} (h : wp (g.watch (some picture.1)) (fun shown _ => shown = .given ∧ C)
      (fun _ _ => ¬ C) (p.withCodes codes)) : g.Shows picture codes p ↔ C := by
  unfold wp at h
  unfold Shows
  cases hwatch : g.watch (some picture.1) (p.withCodes codes) with
  | ok shown q =>
    rw [hwatch] at h
    obtain ⟨rfl, hC⟩ := h
    exact iff_of_true ⟨q, rfl⟩ hC
  | error e q =>
    rw [hwatch] at h
    refine iff_of_false ?_ h
    rintro ⟨q', hq'⟩
    cases hq'

/-- Where the state has a property the picture is shown exactly under a condition, and the property
lasts in either case. -/
def Game.Decides (g : Game σ) (I : σ → Prop) (picture : Picture) (C : Prop) : Prop :=
  ∀ p, I p.game → wp (g.watch (some picture.1))
    (fun shown q => (shown = .given ∧ C) ∧ I q.game) (fun _ q => ¬ C ∧ I q.game) p

section
variable {g : Game σ} {I : σ → Prop} {picture : Picture} {C : Prop} (h : g.Decides I picture C)
include h

theorem Game.Decides.keeps : Keeps (fun p => I p.game) (g.watch (some picture.1)) :=
  keeps_iff_wp.mpr fun p hp => wp_mono (h p hp) (fun _ _ hq => hq.2) fun _ _ hq => hq.2

theorem Game.Decides.shows_iff (hp : I p.game) (codes : List Barcode) :
    g.Shows picture codes p ↔ C :=
  Game.shows_iff (wp_mono (h _ hp) (fun _ _ hq => hq.1) fun _ _ hq => hq.1)

end

theorem Play.after_start {I J : σ → Prop} {prepare start : Op (Play σ) Unit}
    (hprepare : wp prepare (fun _ q => J q.game) (fun _ q => J q.game) p)
    (hstart : ∀ q, J q.game → wp start (fun _ r => I r.game) never q) :
    I (start.after (prepare.after p)).game :=
  wp_after_iff.mp (wp_of_total (hstart _ (wp_after_iff.mp hprepare)) fun _ _ h => h)

end

def Picture.searched (picture : Picture) : Raster :=
  (picture.1.resize width height).blur

theorem Games.present_some (picture : Raster) : present (some picture) = .ok picture := rfl

theorem Picture.smooth_eq (picture : Picture) : Blob.smooth picture.1 = .ok picture.searched := by
  unfold Blob.smooth
  rw [picture.2.visible]
  rfl

/-! ## Ballots -/

theorem mapM_integer? (ns : List Int) : (ns.map int).mapM integer? = some ns := by
  induction ns with
  | nil => rfl
  | cons n rest ih =>
    rw [map_cons, mapM_cons, ih]
    rfl

/-- What a poll needs to go on: the ballots are whole numbers, and the result can be written. -/
structure Poll.Open (p : Poll) : Prop where
  ballots : ∃ ns : List Int, p.ballots = .list (ns.map .int)
  elected : ∃ name, p.elected = .str name
  ink : Canvas.checkInk p.ink = .ok ()

namespace Poll

variable {p : Poll}

theorem Open.checkCaption (h : p.Open) : p.checkCaption = .ok () := by
  obtain ⟨name, hname⟩ := h.elected
  unfold Poll.checkCaption
  rw [hname, h.ink]
  rfl

theorem Open.vacate (h : p.Open) : p.vacate.Open := ⟨h.ballots, ⟨_, rfl⟩, rfl⟩

theorem Open.declare (h : p.Open) (winner : Option String) : (p.declare winner).Open := by
  cases winner with
  | none => exact h.vacate
  | some name => exact ⟨h.ballots, ⟨name, rfl⟩, checkInk_getD _⟩

theorem winner?_completes (candidates : List String) (ns : List Int) :
    ∃ winner, winner? candidates (ns.map .int) = .ok winner := by
  unfold winner?
  rw [mapM_integer?]
  exact ⟨_, rfl⟩

theorem Open.cast (h : p.Open) (candidates : List String) (color : Value) :
    wp (cast candidates color) (fun _ q => q.Open) never p := by
  obtain ⟨ns, hns⟩ := h.ballots
  have hext : extend p.ballots (.int (number candidates color)) =
      .ok ((ns ++ [(number candidates color : Int)]).map .int) := by
    rw [hns, map_append]
    rfl
  obtain ⟨winner, hwinner⟩ := winner?_completes candidates (ns ++ [(number candidates color : Int)])
  unfold Poll.cast
  rw [wp_bind, wp_get, wp_ok_bind hext, wp_bind, wp_modify]
  split
  · rw [wp_ok_bind hwinner]
    exact ⟨⟨[], rfl⟩, h.elected, h.ink⟩
  · exact ⟨⟨_, rfl⟩, h.elected, h.ink⟩

end Poll

/-! ## Spotting a colour -/

namespace ColorSpotter

structure Attentive (f : Table) (colors : List String) (s : ColorSpotter) : Prop where
  thresholds : s.thresholds = f.value
  targets : s.targets = .tuple (colors.map .str)
  poll : s.poll.Open

variable {f : Table} {colors : List String} {p : Play ColorSpotter}

theorem Attentive.judge (hp : p.game.Attentive f colors) (seen : Option Value) :
    wp (judge seen) (fun _ q => q.game.Attentive f colors) never p := by
  unfold ColorSpotter.judge
  cases seen with
  | none => exact { hp with poll := hp.poll.vacate }
  | some color =>
    unfold vote
    rw [wp_bind, wp_onPart]
    refine wp_of_total (hp.poll.cast candidates color) fun winner poll hpoll => ?_
    cases winner with
    | none => exact { hp with poll := hpoll }
    | some winner => exact { hp with poll := hpoll.declare winner }

theorem decides (hf : f.Usable) (picture : Picture) :
    game.Decides (Attentive f colors) picture True := by
  intro p hp
  obtain ⟨seen, hseen⟩ := Blob.dominantIn_completes hf colors picture.searched
  rw [← hp.thresholds, ← hp.targets] at hseen
  change wp (watch _) _ _ _
  unfold watch
  rw [wp_bind, wp_state]
  cases hrun : p.game.running.truth with
  | false => exact ⟨⟨rfl, trivial⟩, hp⟩
  | true =>
    have hcaption : ∀ q : Play ColorSpotter, q.game.Attentive f colors →
        wp (do
          (← Play.state).poll.checkCaption
          return Shown.given : M Shown)
          (fun shown q => (shown = .given ∧ True) ∧ q.game.Attentive f colors)
          (fun _ q => ¬ True ∧ q.game.Attentive f colors) q := by
      intro q hq
      rw [wp_bind, wp_state, wp_ok_bind hq.poll.checkCaption]
      exact ⟨⟨rfl, trivial⟩, hq⟩
    rw [if_pos rfl, wp_ok_bind (present_some _), wp_ok_bind picture.smooth_eq]
    -- while a colour is claimed, nothing is looked for, and the picture is only captioned
    cases hclaimed : p.game.claimed.truth with
    | true => exact hcaption p hp
    | false =>
      change wp (_ >>= _) _ _ _
      rw [wp_ok_bind hseen, wp_bind]
      exact wp_of_total (hp.judge seen) fun _ q hq => hcaption q hq

theorem keeps_turn : Keeps (fun p => p.game.Attentive f colors) turn := by
  have hacted (s : ColorSpotter) : Leads (s.Attentive f colors) (Attentive f colors { s with
      unsettled := .bool true, claimed := .bool false
      poll := { s.poll with elected := .str "None" } }) :=
    ⟨fun hs => ⟨hs.thresholds, hs.targets, hs.poll.ballots, ⟨_, rfl⟩, hs.poll.ink⟩⟩
  have hsettled (s : ColorSpotter) (v : Value) :
      Leads (s.Attentive f colors) (Attentive f colors { s with unsettled := v }) :=
    ⟨fun hs => { hs with }⟩
  unfold turn waggle aim
  exact .of_parts

theorem attends (hf : f.Usable) : game.Attends setTargets (Attentive f) where
  choose _ _ _ hp := ⟨hp.thresholds, rfl, hp.poll⟩
  watch _ picture := (decides hf picture).keeps
  turn _ := keeps_turn

theorem attentive_start (hsrv : Placed files.servos) (hfiles : files.thresholds = f.value)
    (rig : Rig) (sonar : Option Sonar) : Attentive f ["red", "green", "blue"]
      (start.after (prepare.after ⟨rig, files, sonar, {}⟩)).game := by
  obtain ⟨tilt, pan, htilt, hpan⟩ := hsrv
  refine Play.after_start (I := Attentive f ["red", "green", "blue"])
    (J := fun s => s.Attentive f ["red", "green", "blue"] ∧ s.servos = files.servos) ?_ fun q hq => ?_
  · simp [prepare, load, reset, aim, htilt, hpan]
    refine wp_of_forall ?_ ?_ <;> exact fun _ _ => ⟨hfiles, rfl, ⟨[], rfl⟩, ⟨_, rfl⟩, rfl⟩
  · obtain ⟨hatt, hset⟩ := hq
    rw [← hset] at htilt hpan
    simp [start, reset, htilt, hpan]
    exact ⟨hatt.thresholds, hatt.targets, ⟨[], rfl⟩, ⟨_, rfl⟩, hatt.poll.ink⟩

end ColorSpotter

/-! ## Chasing a colour -/

namespace ColorChase

structure Attentive (f : Table) (colors : List String) (s : ColorChase) : Prop where
  thresholds : s.thresholds = f.value
  targets : s.targets = .tuple (colors.map .str)
  running : s.running = .bool true

def Catches (f : Table) (colors : List String) (picture : Picture) : Prop :=
  ∃ found outline radius,
    Blob.families f.value (.tuple (colors.map .str)) picture.searched = .ok found ∧
    target? found = some outline ∧
    onPicture (Circle.around outline).radius width picture.1.width = .ok radius ∧
    radius ≤ greatestRadius

def Inked (colors : List String) : Prop :=
  ∀ last ∈ colors.getLast?, ∃ c : ThresholdTuner.Color, last = c.name

variable {f : Table} {colors : List String} {p : Play ColorChase}

theorem catches_iff {picture : Picture} {found : List (Value × List Contour)}
    (h : Blob.families f.value (.tuple (colors.map .str)) picture.searched = .ok found) :
    Catches f colors picture ↔ ∃ outline radius, target? found = some outline ∧
      onPicture (Circle.around outline).radius width picture.1.width = .ok radius ∧
      radius ≤ greatestRadius := by
  unfold Catches
  rw [h]
  simp

theorem decides (hf : f.Usable) (picture : Picture) : game.Decides (Attentive f colors) picture
    (Catches f colors picture → Inked colors) := by
  intro p hp
  obtain ⟨found, hfound⟩ := Blob.families_completes hf colors picture.searched
  have hfamilies := hfound
  rw [← hp.thresholds, ← hp.targets] at hfamilies
  rw [catches_iff hfound]
  change wp (watch _) _ _ _
  unfold watch
  rw [wp_ok_bind (present_some _), wp_bind, wp_state, hp.running]
  change wp (_ >>= _) _ _ _
  rw [wp_ok_bind picture.smooth_eq, wp_ok_bind hfamilies]
  cases htarget : target? found with
  | none => exact ⟨⟨rfl, by simp⟩, { hp with }⟩
  | some outline =>
    obtain ⟨radius, hradius⟩ := onPicture_completes (Circle.around outline).radius (.inl rfl)
      picture.2.width_le
    obtain ⟨x, hx⟩ := onPicture_completes (Circle.around outline).x (.inl rfl) picture.2.width_le
    obtain ⟨y, hy⟩ := onPicture_completes (Circle.around outline).y (.inr rfl) picture.2.height_le
    simp only [Option.some.injEq, exists_and_left, exists_eq_left', hradius, Except.ok.injEq]
    rw [wp_ok_bind rfl, wp_ok_bind hx, wp_ok_bind hy]
    -- a circle that is too large is not drawn, and takes no ink
    by_cases hbig : greatestRadius < radius
    · rw [if_pos hbig]
      exact ⟨⟨rfl, fun hle => by omega⟩, { hp with }⟩
    · have hitems : p.game.targets.items = .ok (colors.map .str) := by
        rw [hp.targets]
        rfl
      rw [if_neg hbig, wp_bind, wp_update, wp_ok_bind hitems, getLast?_map]
      unfold Inked
      cases hlast : colors.getLast? with
      | none => exact ⟨⟨rfl, fun _ => nofun⟩, { hp with }⟩
      | some last =>
        have hinked := exists_inkFor_iff (.str last)
        refine wp_except_bind (fun ink hink => ?_) fun e he => ?_
        · refine ⟨⟨rfl, fun _ name hname => ?_⟩, { hp with }⟩
          cases hname
          obtain ⟨c, hc⟩ := hinked.mp ⟨ink, hink⟩
          exact ⟨c, str.inj hc⟩
        · refine ⟨fun hnamed => ?_, { hp with }⟩
          obtain ⟨c, rfl⟩ := hnamed (by omega) last rfl
          obtain ⟨ink, hink⟩ := hinked.mpr ⟨c, rfl⟩
          cases he.symm.trans hink

instance (s t : ColorChase) [hthr : Same t.thresholds s.thresholds]
    [htargets : Same t.targets s.targets] [hrun : Same t.running s.running] :
    Leads (s.Attentive f colors) (t.Attentive f colors) :=
  ⟨fun hs => ⟨hthr.eq.trans hs.1, htargets.eq.trans hs.2, hrun.eq.trans hs.3⟩⟩

theorem keeps_turn : Keeps (fun p => p.game.Attentive f colors) turn := by
  unfold turn rest follow approach
  exact .of_parts

theorem attends (hf : f.Usable) : game.Attends setTargets (Attentive f) where
  choose _ _ _ hp := ⟨hp.thresholds, rfl, hp.running⟩
  watch _ picture := (decides hf picture).keeps
  turn _ := keeps_turn

theorem attentive_start (hsrv : Placed files.servos) (hfiles : files.thresholds = f.value)
    (rig : Rig) (sonar : Option Sonar) :
    Attentive f [] (start.after (prepare.after ⟨rig, files, sonar, {}⟩)).game := by
  obtain ⟨tilt, pan, htilt, hpan⟩ := hsrv
  refine Play.after_start (I := Attentive f [])
    (J := fun s => s.thresholds = f.value ∧ s.servos = files.servos) ?_ fun q hq => ?_
  · simp [prepare, load, reset, lose, aim, htilt, hpan, hfiles]
  · obtain ⟨hthr, hset⟩ := hq
    rw [← hset] at htilt hpan
    simp [start, reset, lose, htilt, hpan]
    exact ⟨hthr, rfl, rfl⟩

end ColorChase

/-! ## Patrolling along a line -/

namespace LinePatrol

structure Attentive (f : Table) (colors : List String) (s : LinePatrol) : Prop where
  thresholds : s.thresholds = f.value
  targets : s.targets = .tuple (colors.map .str)
  running : s.running = .bool true
  center : ∃ n, Canvas.coordinate s.center = .ok n

def Patrols (colors : List String) : Prop :=
  colors ≠ [] → ∃ c : ThresholdTuner.Color, c.name ∈ colors

variable {f : Table} {colors : List String} {p : Play LinePatrol}

theorem coordinate_of_natAbs_le {x : Int} (h : x.natAbs ≤ 48 * (14 * 1048576)) :
    Canvas.coordinate (.int x) = .ok x := by
  have hpow : twoPow 31 = 2147483648 := by decide +kernel
  have hlo : (-(twoPow 31) : Int) ≤ x := by omega
  have hhi : x < twoPow 31 := by omega
  unfold Canvas.coordinate
  simp [hlo, hhi]

theorem wp_strips {boxes : List ColorSpace.Range} (hboxes : boxes ≠ []) (picture : Raster)
    {given : Nat} (hgiven : given ≤ 1048576) :
    wp (strips.mapM fun s => do return (← middle? boxes picture given s, s.weight) : M _)
      (fun middles q => q = p ∧
        ∃ r, weigh middles = .ok r ∧ ∀ x ∈ r, x.natAbs ≤ 48 * (14 * 1048576)) never p := by
  obtain ⟨a, ha, haw⟩ := middle?_completes hboxes picture hgiven ⟨240, 280, 0.1⟩
  obtain ⟨b, hb, hbw⟩ := middle?_completes hboxes picture hgiven ⟨340, 380, 0.3⟩
  obtain ⟨c, hc, hcw⟩ := middle?_completes hboxes picture hgiven ⟨430, 460, 0.6⟩
  obtain ⟨r, hr, hle⟩ := weigh_completes (by omega) haw hbw hcw
  simp only [strips, mapM_cons, mapM_nil, ha, hb, hc, wp_bind, liftM_except,
    wp_ofExcept, wp_pure]
  exact ⟨trivial, r, hr, fun x hx => (hle x hx).trans (by omega)⟩

theorem targets_same_empty (colors : List String) :
    (tuple (colors.map .str)).same (.tuple []) = colors.isEmpty := by
  cases colors <;> simp [same, sameItems]

theorem decides (hf : f.Usable) (picture : Picture) :
    game.Decides (Attentive f colors) picture (Patrols colors) := by
  intro p hp
  obtain ⟨boxes, hboxes, hempty⟩ := Blob.colorBoxes_completes hf colors
  rw [← hp.thresholds, ← hp.targets] at hboxes
  change wp (watch _) _ _ _
  unfold watch
  rw [wp_ok_bind (present_some _), wp_bind, wp_state]
  have hsame : p.game.targets.same (.tuple []) = colors.isEmpty := by
    rw [hp.targets, targets_same_empty]
  rw [hp.running, hsame]
  cases hcols : colors with
  | nil =>
    subst hcols
    exact ⟨⟨rfl, fun h => absurd rfl h⟩, hp⟩
  | cons color rest =>
    rw [← hcols]
    have hnamed : colors ≠ [] := by simp [hcols]
    have hlooking : ((bool true).truth && !colors.isEmpty) := by
      rw [hcols]
      rfl
    rw [if_pos hlooking, wp_ok_bind picture.smooth_eq, wp_ok_bind hboxes, wp_bind]
    -- the mask of a strip is there only if some colour has a box
    by_cases hnone : boxes = []
    · subst hnone
      have hunknown := hempty.mp rfl
      refine ⟨fun h => ?_, hp⟩
      obtain ⟨c, hc⟩ := h hnamed
      exact hunknown c hc
    · have hpatrols : Patrols colors := by
        intro _
        by_contra hnot
        exact hnone (hempty.mpr fun c hc => hnot ⟨c, hc⟩)
      have hsome : boxes.map Prod.snd ≠ [] := fun h => hnone (map_eq_nil_iff.mp h)
      refine wp_of_total (wp_strips hsome picture.searched picture.2.width_le)
        fun middles q hq => ?_
      obtain ⟨rfl, r, hr, hle⟩ := hq
      rw [wp_ok_bind hr]
      cases r with
      | none => exact ⟨⟨rfl, hpatrols⟩, hp.thresholds, hp.targets, hp.running, -1, rfl⟩
      | some x =>
        obtain ⟨n, hn⟩ := hp.center
        rw [wp_ok_bind hn]
        exact ⟨⟨rfl, hpatrols⟩, hp.thresholds, hp.targets, hp.running, x,
          coordinate_of_natAbs_le (hle x rfl)⟩

instance (s t : LinePatrol) [hthr : Same t.thresholds s.thresholds]
    [htargets : Same t.targets s.targets] [hrun : Same t.running s.running]
    [hcenter : Same t.center s.center] : Leads (s.Attentive f colors) (t.Attentive f colors) where
  imp hs := ⟨hthr.eq.trans hs.1, htargets.eq.trans hs.2, hrun.eq.trans hs.3, hcenter.eq ▸ hs.4⟩

theorem keeps_turn : Keeps (fun p => p.game.Attentive f colors) turn := by
  have hcenter (s : LinePatrol) :
      Leads (s.Attentive f colors) (Attentive f colors { s with center := pictureCenter }) :=
    ⟨fun hs => ⟨hs.thresholds, hs.targets, hs.running, 320, rfl⟩⟩
  unfold turn
  exact .of_parts

theorem attends (hf : f.Usable) : game.Attends setTargets (Attentive f) where
  choose _ _ _ hp := ⟨hp.thresholds, rfl, hp.running, hp.center⟩
  watch _ picture := (decides hf picture).keeps
  turn _ := keeps_turn

theorem attentive_start (hsrv : Placed files.servos) (hfiles : files.thresholds = f.value)
    (rig : Rig) (sonar : Option Sonar) :
    Attentive f [] (start.after (prepare.after ⟨rig, files, sonar, {}⟩)).game := by
  obtain ⟨tilt, pan, htilt, hpan⟩ := hsrv
  have hraise : (int tilt).add (.int 350) = .ok (.int (tilt + 350)) := rfl
  refine Play.after_start (I := Attentive f [])
    (J := fun s => s.thresholds = f.value ∧ s.servos = files.servos) ?_ fun q hq => ?_
  · simp [prepare, load, reset, aim, htilt, hraise, hpan, hfiles]
  · obtain ⟨hthr, hset⟩ := hq
    rw [← hset] at htilt hpan
    simp [start, reset, htilt, hraise, hpan]
    exact ⟨hthr, rfl, rfl, -1, rfl⟩

end LinePatrol

/-! ## Reading codes -/

def Barcode.Drawable (code : Barcode) : Prop :=
  code.outline ≠ [] ∧ ∀ v ∈ code.outline,
    ∃ n : Int, v = .int n ∧ -9223372036854775808 ≤ n ∧ n < 9223372036854775808

namespace Tally

def Accepts (counted : List Int) (n : Result Int) : Prop :=
  ∃ k, n = .ok k ∧
    (counted.length + 1 = size → ∃ mean, meanOf ((counted ++ [k]).map .int) = .ok mean)

def added (counted : List Int) (n : Result Int) (t : Tally) : Tally :=
  match n with
  | .error _ => t
  | .ok k =>
    let votes := (counted ++ [k]).map int
    match if counted.length + 1 = size then (meanOf votes).toOption else .none with
    | some mean => ⟨.list [], mean, .bool true⟩
    | .none => { t with results := .list votes }

variable {t : Tally} {counted : List Int} (ht : t.results = .list (counted.map .int))
include ht

theorem results_added (n : Result Int) :
    ∃ counted' : List Int, (added counted n t).results = .list (counted'.map .int) := by
  unfold added
  split
  · exact ⟨counted, ht⟩
  · dsimp only
    split
    · exact ⟨[], rfl⟩
    · exact ⟨_, rfl⟩

theorem wp_add (n : Result Int) :
    wp (add n) (fun _ t' => Accepts counted n ∧ t' = added counted n t)
      (fun _ t' => ¬ Accepts counted n ∧ t' = added counted n t) t := by
  have hext : ∀ v, extend t.results v = .ok (counted.map .int ++ [v]) := by
    intro v
    rw [ht]
    rfl
  unfold add
  rw [wp_bind, wp_get, wp_ok_bind (hext _)]
  cases n with
  | error e =>
    refine ⟨?_, rfl⟩
    rintro ⟨k, hk, -⟩
    cases hk
  | ok k =>
    have hlen : (counted.map int ++ [int k]).length = counted.length + 1 := by simp
    have hres : counted.map int ++ [int k] = (counted ++ [k]).map .int := by simp
    rw [wp_bind, wp_get, wp_ok_bind rfl, wp_ok_bind (hext _), hlen, hres]
    unfold added
    dsimp only
    split
    · rename_i hlast
      refine wp_except_bind (fun mean hmean => ?_) fun e he => ?_
      · exact ⟨⟨k, rfl, fun _ => ⟨mean, hmean⟩⟩, by rw [hmean]; rfl⟩
      · refine ⟨?_, by rw [he]; rfl⟩
        rintro ⟨_, hk, hmean⟩
        cases hk
        obtain ⟨mean, hmean⟩ := hmean hlast
        cases hmean.symm.trans he
    · rename_i hmore
      exact ⟨⟨k, rfl, fun hlast => absurd hlast hmore⟩, rfl⟩

end Tally

namespace CodeReader

structure Attentive (counted : List Int) (s : CodeReader) : Prop where
  running : s.running = .bool true
  results : s.tally.results = .list (counted.map .int)

def Reads (counted : List Int) (codes : List Barcode) : Prop :=
  ∀ code ∈ codes.head?, Tally.Accepts counted (str code.text).toInteger

variable {counted : List Int} {p : Play CodeReader}

theorem forIn_eq_ok {ι : Type} {f : ι → PUnit → Result (ForInStep PUnit)} {is : List ι}
    (h : ∀ i ∈ is, f i ⟨⟩ = .ok (.yield ⟨⟩)) : forIn is ⟨⟩ f = .ok ⟨⟩ := by
  induction is with
  | nil => rfl
  | cons i rest ih =>
    rw [forIn_cons, h i mem_cons_self]
    exact ih fun j hj => h j (mem_cons_of_mem i hj)

theorem checkOutline_of_drawable {code : Barcode} (h : code.Drawable) :
    checkOutline code = .ok () := by
  obtain ⟨hcorners, hvalues⟩ := h
  have hpow : (twoPow 63 : Int) = 9223372036854775808 := by decide +kernel
  have hempty : code.outline.isEmpty = false := by simpa using hcorners
  unfold checkOutline
  rw [forIn_eq_ok, hempty]
  · rfl
  · intro v hv
    obtain ⟨n, rfl, hlo, hhi⟩ := hvalues v hv
    have hn : (int n).toInteger = .ok n := rfl
    rw [hn, hpow]
    simp [hlo, hhi, bind, Except.bind, pure, Except.pure]

instance (s t : CodeReader) [hrun : Same t.running s.running]
    [hres : Same t.tally.results s.tally.results] :
    Leads (∃ counted, s.Attentive counted) (∃ counted, t.Attentive counted) where
  imp := fun ⟨counted, hs⟩ => ⟨counted, hrun.eq.trans hs.1, hres.eq.trans hs.2⟩

instance (code : Barcode) :
    Safe True (fun p => ∃ counted, p.game.Attentive counted) (count code) := by
  refine .base (keeps_iff_wp.mpr ?_)
  rintro p ⟨counted, hp⟩
  unfold count
  rw [wp_onPart]
  obtain ⟨counted', hadded⟩ := Tally.results_added hp.results (str code.text).toInteger
  refine wp_mono (Tally.wp_add hp.results _) ?_ ?_
  all_goals
    rintro _ t ⟨-, rfl⟩
    exact ⟨counted', hp.running, hadded⟩

theorem keeps_watch (picture : Picture) :
    Keeps (fun p => ∃ counted, p.game.Attentive counted) (watch (some picture.1)) := by
  unfold watch
  exact .of_parts

theorem Attentive.watch (hp : p.game.Attentive counted) (picture : Picture)
    (hcodes : ∀ code ∈ p.rig.barcodes, code.Drawable) :
    wp (watch (some picture.1))
      (fun shown _ => shown = .given ∧ (p.game.tally.locked.truth ∨ Reads counted p.rig.barcodes))
      (fun _ _ => ¬ (p.game.tally.locked.truth ∨ Reads counted p.rig.barcodes)) p := by
  unfold CodeReader.watch
  rw [wp_bind, wp_state, hp.running]
  cases hlocked : p.game.tally.locked.truth with
  | true => exact ⟨rfl, .inl rfl⟩
  | false =>
    have hlooking : ((bool true).truth && !false) := rfl
    simp only [Bool.false_eq_true, false_or]
    rw [if_pos hlooking, wp_bind, wp_update,
      wp_ok_bind (present_some _), wp_bind,
      wp_get, wp_bind]
    unfold Reads
    cases hall : p.rig.barcodes with
    | nil => exact ⟨rfl, nofun⟩
    | cons code rest =>
      -- only the first turn of the loop can add to the tally
      rw [hall] at hcodes
      have hfst := checkOutline_of_drawable (hcodes code mem_cons_self)
      rw [zipIdx_cons, forIn_cons, wp_bind]
      rw [wp_ok_bind hfst, wp_ok_bind picture.2.visible, if_pos rfl, wp_bind]
      simp only [head?_cons, Option.mem_some_iff, forall_eq']
      unfold count
      rw [wp_onPart]
      have hres : ({ p.game.tally with number := .int 0 } : Tally).results =
          .list (counted.map .int) := hp.results
      refine wp_mono (Tally.wp_add hres _) (fun _ t ht => ?_) fun _ _ ht => ht.1
      -- the codes after the first are outlined and not counted
      rw [wp_pure]
      refine wp_of_total (Op.wp_forIn (I := fun more _ => ∀ x ∈ more, x.1.Drawable ∧ x.2 ≠ 0)
        ?_ ?_) fun _ _ _ => ⟨rfl, ht.1⟩
      · intro x more q hmore
        obtain ⟨hdrawable, hlater⟩ := hmore x mem_cons_self
        rw [wp_ok_bind (checkOutline_of_drawable hdrawable), wp_ok_bind picture.2.visible,
          if_neg hlater]
        exact ⟨rfl, fun y hy => hmore y (mem_cons_of_mem x hy)⟩
      · intro x hx
        have hlater := le_snd_of_mem_zipIdx hx
        have hmem := fst_mem_of_mem_zipIdx hx
        exact ⟨hcodes x.1 (mem_cons_of_mem code hmem), by omega⟩

theorem shows_iff (hp : p.game.Attentive counted) (picture : Picture) {codes : List Barcode}
    (hcodes : ∀ code ∈ codes, code.Drawable) :
    game.Shows picture codes p ↔ p.game.tally.locked.truth ∨ Reads counted codes := by
  have hread : (p.withCodes codes).game.Attentive counted := hp
  exact Game.shows_iff (hread.watch picture hcodes)

theorem keeps_turn : Keeps (fun p => ∃ counted, p.game.Attentive counted) turn := by
  unfold turn
  exact .of_parts

theorem attends : game.Attends (fun _ => pure .none) fun _ s => ∃ counted, s.Attentive counted where
  choose _ _ _ hp := hp
  watch _ picture := keeps_watch picture
  turn _ := keeps_turn

theorem attentive_start (hsrv : Placed files.servos) (rig : Rig) (sonar : Option Sonar) :
    Attentive [] (start.after (prepare.after ⟨rig, files, sonar, {}⟩)).game := by
  obtain ⟨tilt, pan, htilt, hpan⟩ := hsrv
  have hlower : (int tilt).sub (.int 350) = .ok (.int (tilt - 350)) := rfl
  -- what was counted is not forgotten at the start, but nothing was counted before it
  refine Play.after_start (I := Attentive [])
    (J := fun s => s.tally.results = .list [] ∧ s.servos = files.servos) ?_ fun q hq => ?_
  · simp [prepare, load, reset, Tally.release, aim, htilt, hlower, hpan]
  · obtain ⟨hres, hset⟩ := hq
    rw [← hset] at htilt hpan
    simp [start, reset, htilt, hlower, hpan]
    exact ⟨rfl, hres⟩

end CodeReader

/-! ## Which pictures are shown -/

/-- However the watching has gone on since the start, the spotter shows every picture. The chase
does so unless there is a blob to draw and the colour named last has no ink, the patrol unless
colours are named and none of them is known, and the reader unless the first code that counts is not
a number or gives no mean. -/
theorem picture_shown_iff {f : Table} (hf : f.Usable) {files : ConfigFiles}
    (hservos : Placed files.servos) (hfiles : files.thresholds = f.value) (rig : Rig)
    (sonar : Option Sonar) (course : List Sight) (picture : Picture) {codes : List Barcode}
    (hcodes : ∀ code ∈ codes, code.Drawable) :
    ColorSpotter.game.Shows picture codes
        (ColorSpotter.game.watching ColorSpotter.setTargets course ⟨rig, files, sonar, {}⟩) ∧
      (ColorChase.game.Shows picture codes
          (ColorChase.game.watching ColorChase.setTargets course ⟨rig, files, sonar, {}⟩) ↔
        (ColorChase.Catches f (Sight.chosen [] course) picture →
          ColorChase.Inked (Sight.chosen [] course))) ∧
      (game.Shows picture codes
          (game.watching setTargets course ⟨rig, files, sonar, {}⟩) ↔
        LinePatrol.Patrols (Sight.chosen [] course)) ∧
      ∃ counted : List Int,
        (CodeReader.game.watching (fun _ => pure .none) course
          ⟨rig, files, sonar, {}⟩).game.tally.results = .list (counted.map .int) ∧
        (CodeReader.game.Shows picture codes
            (CodeReader.game.watching (fun _ => pure .none) course ⟨rig, files, sonar, {}⟩) ↔
          (CodeReader.game.watching (fun _ => pure .none) course
              ⟨rig, files, sonar, {}⟩).game.tally.locked.truth = true ∨
            CodeReader.Reads counted codes) := by
  refine ⟨?_, ?_, ?_, ?_⟩
  · have hstart := ColorSpotter.attentive_start hservos hfiles rig sonar
    have hcourse := (ColorSpotter.attends hf).runAll course _ hstart
    exact ((ColorSpotter.decides hf picture).shows_iff hcourse codes).mpr trivial
  · have hstart := ColorChase.attentive_start hservos hfiles rig sonar
    have hcourse := (ColorChase.attends hf).runAll course _ hstart
    exact (ColorChase.decides hf picture).shows_iff hcourse codes
  · have hstart := attentive_start hservos hfiles rig sonar
    have hcourse := (attends hf).runAll course _ hstart
    exact (decides hf picture).shows_iff hcourse codes
  · have hstart := CodeReader.attentive_start hservos rig sonar
    obtain ⟨counted, hcounted⟩ := CodeReader.attends.runAll course [] ⟨[], hstart⟩
    exact ⟨counted, hcounted.results, CodeReader.shows_iff hcounted picture hcodes⟩

def darkDot : Picture := ⟨⟨1, 1, ⟨#[0, 0, 0]⟩⟩, by decide, by decide, by decide, by decide⟩

theorem picture_shown_red_last :
    Table.Usable ThresholdTuner.usual ∧ Placed usualServos ∧
      ColorSpotter.game.Shows darkDot [⟨"7", [.int 0, .int 0]⟩]
        (ColorSpotter.game.watching ColorSpotter.setTargets [.choose ["orange", "red"]]
          ⟨{}, {}, none, {}⟩) ∧
      ColorChase.game.Shows darkDot [⟨"7", [.int 0, .int 0]⟩]
        (ColorChase.game.watching ColorChase.setTargets [.choose ["orange", "red"]]
          ⟨{}, {}, none, {}⟩) ∧
      game.Shows darkDot [⟨"7", [.int 0, .int 0]⟩]
        (game.watching setTargets [.choose ["orange", "red"]]
          ⟨{}, {}, none, {}⟩) ∧
      CodeReader.game.Shows darkDot [⟨"7", [.int 0, .int 0]⟩]
        (CodeReader.game.watching (fun _ => pure .none) [.choose ["orange", "red"]]
          ⟨{}, {}, none, {}⟩) := by
  have hservos : Placed ({} : ConfigFiles).servos := placed_usualServos
  have hfiles : ({} : ConfigFiles).thresholds = Table.value ThresholdTuner.usual := rfl
  have hcodes : ∀ code ∈ ([⟨"7", [.int 0, .int 0]⟩] : List Barcode), code.Drawable := by
    intro code hcode
    obtain rfl := mem_singleton.mp hcode
    refine ⟨nofun, fun v hv => ⟨0, ?_, by decide, by decide⟩⟩
    simpa using hv
  obtain ⟨hspotter, hchase, hpatrol, counted, hcounted, hreader⟩ :=
    picture_shown_iff Blob.usual_usable hservos hfiles {} none [.choose ["orange", "red"]] darkDot
      hcodes
  refine ⟨Blob.usual_usable, placed_usualServos, hspotter, hchase.mpr fun _ => ?_, hpatrol.mpr fun _ => ?_,
    hreader.mpr (.inr ?_)⟩
  · intro last hlast
    obtain rfl : last = "red" := by simpa [Sight.chosen] using hlast.symm
    exact ⟨.red, rfl⟩
  · exact ⟨.red, by decide⟩
  · have hnone := (CodeReader.attentive_start hservos {} none).results.symm.trans hcounted
    obtain rfl : counted = [] := by simpa using hnone
    intro code hcode
    obtain rfl : code = ⟨"7", [.int 0, .int 0]⟩ := by simpa using hcode.symm
    exact ⟨7, rfl, nofun⟩

/-- The patrol does not get over a picture when the only colour named is an unknown one. -/
theorem orange_line_not_shown :
    ¬ game.Shows darkDot []
      (game.watching setTargets [.choose ["orange"]] ⟨{}, {}, none, {}⟩) := by
  have hservos : Placed ({} : ConfigFiles).servos := placed_usualServos
  have hfiles : ({} : ConfigFiles).thresholds = Table.value ThresholdTuner.usual := rfl
  have hstart := attentive_start hservos hfiles {} none
  have hcourse := (attends Blob.usual_usable).runAll [.choose ["orange"]] _ hstart
  intro hshows
  obtain ⟨c, hc⟩ := ((decides Blob.usual_usable darkDot).shows_iff hcourse []).mp hshows nofun
  revert hc
  cases c <;> decide

end Rover
