import Rover.Proofs.Games.Polls

/-!
# What is recognised

The chase follows the largest blob of the colour that was named last. A result of codes or hand
signs is the mean of five numbers, and waits until a turn has acted on it.
-/

namespace Rover

open CodeReader List Moment Games Circle

set_option synthInstance.maxSize 1000000000

namespace ColorChase

def IsLargest (outlines : List Contour) : Option Contour → Prop
  | none => ∀ d ∈ outlines, d.doubleArea ≤ 2000
  | some c => c ∈ outlines ∧ 2000 < c.doubleArea ∧ ∀ d ∈ outlines, d.doubleArea ≤ c.doubleArea

def lastOutlines (found : List (Value × List Contour)) : List Contour :=
  found.getLast?.elim [] Prod.snd

theorem isLargest_target? (found : List (Value × List Contour)) :
    IsLargest (lastOutlines found) (target? found) := by
  unfold lastOutlines target?
  cases found.getLast? with
  | none => exact forall_mem_nil _
  | some family =>
    obtain ⟨color, outlines⟩ := family
    obtain ⟨best, most, hlargest, hhi, hbest⟩ := Blob.largest_spec Contour.doubleArea
      (show 0 < Blob.visible by decide) outlines
    dsimp only [Option.elim_some]
    rw [hlargest]
    split at hbest
    · obtain ⟨c, rfl, harea, hc⟩ := hbest
      change IsLargest outlines (if 2000 < most then some c else none)
      split
      · exact ⟨hc.mem, harea ▸ ‹2000 < most›, fun d hd => harea ▸ hhi d hd⟩
      · exact fun d hd => (hhi d hd).trans (by omega)
    · rename_i hfew
      cases hbest
      exact fun d hd => (hhi d hd).trans (by unfold Blob.visible at hfew; omega)

theorem isLargest_iff {outlines last : List Contour} {c : Option Contour} (h : IsLargest last c)
    (hlast : last ⊆ outlines) :
    IsLargest outlines c ↔
      ∀ d ∈ outlines, 2000 < d.doubleArea → ∃ c ∈ last, d.doubleArea ≤ c.doubleArea := by
  cases c with
  | none =>
    refine ⟨fun hall d hd hbig => absurd (hall d hd) (by omega), fun hall d hd => ?_⟩
    by_contra hbig
    obtain ⟨c, hc, hle⟩ := hall d hd (by omega)
    exact hbig (hle.trans (h c hc))
  | some c =>
    obtain ⟨hc, hbig, hhi⟩ := h
    refine ⟨fun hall d hd _ => ⟨c, hc, hall.2.2 d hd⟩, fun hall => ⟨hlast hc, hbig, fun d hd => ?_⟩⟩
    by_cases hd' : 2000 < d.doubleArea
    · obtain ⟨c', hc', hle⟩ := hall d hd hd'
      exact hle.trans (hhi c' hc')
    · omega

/-- From one state to the other the circle of the outline was taken over, if it is not too large to
be believed, or the target was lost. -/
def Follows (picture : Raster) (s s' : ColorChase) : Option Contour → Prop
  | none => s' = s.lose
  | some outline => ∃ radius x y,
    onPicture (around outline).radius width picture.width = .ok radius ∧
    onPicture (around outline).x width picture.width = .ok x ∧
    onPicture (around outline).y height picture.height = .ok y ∧
    s' = if greatestRadius < radius then s.lose
      else { s with radius := .int radius, centerX := .int x, centerY := .int y }

/-- A picture is decided by the colour that was named last: its largest blob is followed. It is the
largest of all colours exactly if every blob that is large enough to be followed has one of the last
colour that is not smaller. -/
theorem follows_largest_iff {p : Play ColorChase} (hrunning : p.game.running.truth = true)
    (picture : Picture) {found : List (Value × List Contour)}
    (hfound : Blob.families p.game.thresholds p.game.targets picture.searched = .ok found) :
    Follows picture.1 p.game ((watch (some picture.1)).after p).game (target? found) ∧
    (∀ others last, found = others ++ [last] → target? found = target? [last]) ∧
    (IsLargest (found.flatMap Prod.snd) (target? found) ↔
      ∀ d ∈ found.flatMap Prod.snd, 2000 < d.doubleArea →
        ∃ c ∈ lastOutlines found, d.doubleArea ≤ c.doubleArea) := by
  refine ⟨?_, fun others last h => ?_, isLargest_iff (isLargest_target? found) fun c hc => ?_⟩
  · refine (wp_after_iff
      (P := fun q : Play ColorChase => Follows picture.1 p.game q.game (target? found))).mp ?_
    unfold watch
    rw [wp_ok_bind (present_some _), wp_bind,
      wp_state, if_pos hrunning, wp_ok_bind picture.smooth_eq, wp_ok_bind hfound]
    cases target? found with
    | none => rfl
    | some outline =>
      obtain ⟨radius, hradius⟩ := onPicture_completes (around outline).radius (.inl rfl)
        picture.2.width_le
      obtain ⟨x, hx⟩ := onPicture_completes (around outline).x (.inl rfl) picture.2.width_le
      obtain ⟨y, hy⟩ := onPicture_completes (around outline).y (.inr rfl) picture.2.height_le
      rw [wp_ok_bind hradius, wp_ok_bind hx, wp_ok_bind hy]
      by_cases hlarge : greatestRadius < radius
      · rw [if_pos hlarge]
        exact ⟨radius, x, y, hradius, hx, hy, (if_pos hlarge).symm⟩
      · rw [if_neg hlarge, wp_bind, Play.wp_update]
        have hdone : Follows picture.1 p.game { p.game with
            radius := .int radius, centerX := .int x, centerY := .int y } (some outline) :=
          ⟨radius, x, y, hradius, hx, hy, (if_neg hlarge).symm⟩
        refine Op.wp_except_bind (fun colors _ => ?_) fun _ _ => hdone
        cases colors.getLast? with
        | none => exact hdone
        | some color => exact Op.wp_except_bind (fun _ _ => hdone) fun _ _ => hdone
  · rw [h]
    unfold target?
    rw [getLast?_append]
    rfl
  · unfold lastOutlines at hc
    cases hlast : found.getLast? with
    | none =>
      rw [hlast] at hc
      cases hc
    | some family =>
      rw [hlast] at hc
      exact mem_flatMap.mpr ⟨family, mem_of_getLast? hlast, hc⟩

/-- Of red and green the largest green blob is followed. -/
theorem follows_green_after_red :
    let p : Play ColorChase := ⟨{}, {}, none, {
      running := .bool true, targets := .tuple [.str "red", .str "green"]
      thresholds := ThresholdTuner.Table.value ThresholdTuner.usual }⟩
    ∃ red green, Blob.families p.game.thresholds p.game.targets darkDot.searched =
        .ok [(.str "red", red), (.str "green", green)] ∧
      Follows darkDot.1 p.game ((watch (some darkDot.1)).after p).game
        (target? [(.str "green", green)]) := by
  intro p
  obtain ⟨found, hfound⟩ :=
    Blob.families_completes Blob.usual_usable ["red", "green"] darkDot.searched
  obtain ⟨_, hitems, hnames⟩ := Blob.families_colors hfound
  cases hitems
  have hknown : ∀ c ∈ ["red", "green"].map Value.str, Blob.isKnown p.game.thresholds c := by
    decide +kernel
  rw [filter_eq_self.mpr hknown] at hnames
  obtain ⟨⟨_, red⟩, _, rfl, rfl, hgreen⟩ := map_eq_cons_iff.mp hnames
  obtain ⟨⟨_, green⟩, _, rfl, rfl, hnone⟩ := map_eq_cons_iff.mp hgreen
  cases map_eq_nil_iff.mp hnone
  obtain ⟨hfollows, hlast, -⟩ := follows_largest_iff (p := p) rfl darkDot hfound
  exact ⟨red, green, hfound, hlast [(.str "red", red)] _ rfl ▸ hfollows⟩

/-- Of two blobs the smaller one is followed, if its colour was named last. -/
theorem smaller_blob_followed :
    let large : Contour := ⟨#[(0, 0), (199, 0), (199, 199), (0, 199)]⟩
    let small : Contour := ⟨#[(300, 0), (359, 0), (359, 59), (300, 59)]⟩
    target? [(.str "red", [large]), (.str "green", [small])] = some small ∧
      target? [(.str "green", [small]), (.str "red", [large])] = some large ∧
      small.doubleArea < large.doubleArea := by
  decide +kernel

end ColorChase

/-! ## Results that wait -/

/-- Whatever happens but a new start, a result that waits and is zero stays, and nothing else is
recognised. -/
def Game.BlocksAtZero {σ : Type} (g : Game σ) (running : σ → Value) (tally : σ → Tally)
    (course : List Moment) : Prop :=
  ∀ p : Play σ, (tally p.game).locked.truth →
    (∀ turn q, g.turn = some turn → (running p.game).truth → turn p = .ok () q →
      ((tally q.game).locked.truth = false ↔ (tally p.game).number.truth)) ∧
    ((tally p.game).number.truth = false →
      (∀ m ∈ course, m ≠ .step .prepare ∧ m ≠ .step .start) →
        tally (Op.runAll (occur g fun _ s => s) course p).game = tally p.game)

section
variable {σ : Type} {g : Game σ} {running : σ → Value} {tally : σ → Tally}

theorem Game.blocksAtZero {look : Option Raster → Op (Play σ) Shown} {a : Value → Op Rig Unit}
    {halt release : σ → σ} {idle : σ → Op (Play σ) Unit}
    (hstop : g.stop = some (Play.update halt)) (hleave : g.leave = some (Play.update halt))
    (hhalt : ∀ s, tally (halt s) = tally s) (hwatch : ∀ frame, g.watch frame = do
      let s ← Play.state
      if (running s).truth && !(tally s).locked.truth then look frame else return .given)
    (hturn : g.turn = some do
      let s ← Play.state
      if (running s).truth && (tally s).locked.truth && (tally s).number.truth then
        Play.onRig (a (tally s).number)
        Play.update release
      else idle s)
    (hrelease : ∀ s, (tally (release s)).locked = .bool false)
    (hidle : ∀ t s, Keeps (fun p => tally p.game = t) (idle s)) (course : List Moment) :
    g.BlocksAtZero running tally course := by
  have hstuck (t : Tally) (hlocked : t.locked.truth) (h0 : t.number.truth = false)
      (m : Moment) (hm : m ≠ .step .prepare ∧ m ≠ .step .start) :
      Keeps (fun p => tally p.game = t) (m.occur g fun _ s => s) := by
    cases m with
    | step s =>
      cases s with
      | prepare => exact absurd rfl hm.1
      | start => exact absurd rfl hm.2
      | stop =>
        rw [occur, Step.of, hstop]
        exact .modify fun _ hp => (hhalt _).trans hp
      | leave =>
        rw [occur, Step.of, hleave]
        exact .modify fun _ hp => (hhalt _).trans hp
    | choice | scene => exact .modify fun _ hp => hp
    | picture frame =>
      refine .map (keeps_iff_wp.mpr fun p hp => ?_)
      rw [hwatch, wp_bind, wp_state, hp, hlocked, if_neg (by simp)]
      exact hp
    | turn =>
      refine keeps_iff_wp.mpr fun p hp => ?_
      rw [occur, hturn, Option.getD_some, wp_bind, wp_state, hp, h0, Bool.and_false,
        if_neg Bool.false_ne_true]
      exact (hidle t _).wp hp
  intro p hlocked
  refine ⟨fun turn q hop hrun hq => ?_, fun h0 hcourse => ?_⟩
  · cases hturn.symm.trans hop
    cases hnum : (tally p.game).number.truth with
    | true =>
      refine iff_of_true ?_ rfl
      refine (wp_of_ok (Q := fun _ q => (tally q.game).locked.truth = false)
        (E := fun _ _ => True) hq).mp ?_
      rw [wp_bind, wp_state, hrun, hlocked, hnum, if_pos (by decide), wp_bind]
      exact wp_of_forall (fun _ _ => congrArg Value.truth (hrelease _)) fun _ _ => trivial
    | false =>
      have hkept := (hstuck _ hlocked hnum .turn ⟨nofun, nofun⟩).wp (s := p) rfl
      rw [occur, hturn, Option.getD_some, wp_of_ok hq] at hkept
      rw [hkept, hlocked]
      exact iff_of_false nofun nofun
  · exact runAll_of_step (I := fun q : Play σ => tally q.game = tally p.game) (fun m hm _ hq =>
      (hstuck _ hlocked h0 m (hcourse m hm)).after hq) rfl

end

/-- In a game that counts codes or hand signs a turn that comes to its end releases the result that
waits exactly if it is not zero. If it is zero, nothing is recognised until the game is made ready
or started again. -/
theorem result_released_iff (course : List Moment) :
    game.BlocksAtZero running tally course ∧
    HandSigns.game.BlocksAtZero HandSigns.running HandSigns.tally course := by
  refine ⟨Game.blocksAtZero (a := act) rfl rfl (by exact fun _ => rfl)
      (fun _ => rfl) rfl (fun _ => rfl) (fun t s => ?_) course,
    Game.blocksAtZero (a := HandSigns.act) rfl rfl (by exact fun _ => rfl)
      (fun _ => rfl) rfl (fun _ => rfl) (fun t s => ?_) course⟩
  · exact .of_parts
  · unfold HandSigns.aim
    exact .of_parts

/-- Five codes for zero, and the result waits after the turn. -/
theorem zero_not_released :
    let codes (r : Rig) : Rig := { r with barcodes := [⟨"0", replicate 8 (.int 5)⟩] }
    let course : List Moment := [.step .prepare, .step .start, .scene codes] ++
      replicate 5 (.picture (some darkDot.1)) ++ [.turn]
    let p := Op.runAll (occur game fun _ s => s) course ⟨{}, {}, none, {}⟩
    p.game.running.truth = true ∧ p.game.tally.locked.truth = true := by
  decide +kernel

/-! ## Results that are formed -/

end Rover
