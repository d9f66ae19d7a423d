import Rover.Proofs.Games.Thresholds

/-!
# Blobs of known colours

With a table of thresholds for the five colours, blobs of any colours can be looked for: what the
table does not have is passed over. Whatever is found has one of the five colours, and each of them
has an ink.
-/

namespace Rover

open List ThresholdTuner Table

open ThresholdTuner (Side Table)

def ThresholdTuner.Table.Usable (f : Table) : Prop := ∀ c s i, ∃ n, Blob.bound (f c s i) = .ok n

namespace Games

variable (v : Value)

theorem ink?_cases :
    ink? v = none ∧ (∀ c : ThresholdTuner.Color, v ≠ .str c.name) ∨
      ∃ (c : ThresholdTuner.Color) (b g r : Int), v = .str c.name ∧ ink? v = some (ink b g r) := by
  cases hink : ink? v with
  | none =>
    refine .inl ⟨rfl, fun c hc => ?_⟩
    subst hc
    revert hink
    cases c <;> decide +kernel
  | some x =>
    right
    obtain ⟨⟨name, color⟩, hfind, rfl⟩ := Option.map_eq_some_iff.mp hink
    have hmem := mem_of_find?_eq_some hfind
    have hsame : v.same (.str name) := by simpa using find?_some hfind
    rw [(Value.same_str_iff v name).mp hsame]
    simp only [mem_cons, Prod.mk.injEq, not_mem_nil, or_false] at hmem
    obtain ⟨rfl, rfl⟩ | ⟨rfl, rfl⟩ | ⟨rfl, rfl⟩ | ⟨rfl, rfl⟩ | ⟨rfl, rfl⟩ := hmem
    · exact ⟨.red, _, _, _, rfl, rfl⟩
    · exact ⟨.blue, _, _, _, rfl, rfl⟩
    · exact ⟨.green, _, _, _, rfl, rfl⟩
    · exact ⟨.black, _, _, _, rfl, rfl⟩
    · exact ⟨.white, _, _, _, rfl, rfl⟩

theorem exists_inkFor_iff :
    (∃ x, inkFor v = .ok x) ↔ ∃ c : ThresholdTuner.Color, v = .str c.name := by
  unfold inkFor
  obtain ⟨hink, hname⟩ | ⟨c, b, g, r, hname, hink⟩ := ink?_cases v
  · rw [hink]
    refine iff_of_false ?_ fun h => h.elim hname
    rintro ⟨x, hx⟩
    cases hx
  · rw [hink]
    exact iff_of_true ⟨_, rfl⟩ ⟨c, hname⟩

theorem checkInk_getD : Canvas.checkInk ((ink? v).getD (ink 0 0 0)) = .ok () := by
  obtain ⟨hink, -⟩ | ⟨c, b, g, r, -, hink⟩ := ink?_cases v <;> rw [hink] <;> rfl

end Games

namespace Blob

/-! ## The shape that counts -/

section
variable {α : Type} {area : α → Nat} {shapes : List α} {s : α}

/-- No shape is larger, and none that comes before is as large. -/
def IsFirstLargest (area : α → Nat) (shapes : List α) (s : α) : Prop :=
  ∃ before after, shapes = before ++ s :: after ∧
    (∀ t ∈ before, area t < area s) ∧ ∀ t ∈ after, area t ≤ area s

theorem IsFirstLargest.mem (h : IsFirstLargest area shapes s) : s ∈ shapes := by
  obtain ⟨before, after, rfl, -⟩ := h
  simp

theorem IsFirstLargest.le (h : IsFirstLargest area shapes s) : ∀ t ∈ shapes, area t ≤ area s := by
  obtain ⟨before, after, rfl, hbefore, hafter⟩ := h
  exact forall_mem_append.mpr ⟨fun t ht => (hbefore t ht).le,
    forall_mem_cons.mpr ⟨le_rfl, hafter⟩⟩

theorem IsFirstLargest.append (h : IsFirstLargest area shapes s) {earlier later : List α}
    (hearlier : ∀ t ∈ earlier, area t < area s) (hlater : ∀ t ∈ later, area t ≤ area s) :
    IsFirstLargest area (earlier ++ shapes ++ later) s := by
  obtain ⟨before, after, rfl, hbefore, hafter⟩ := h
  exact ⟨earlier ++ before, after ++ later, by simp, forall_mem_append.mpr ⟨hearlier, hbefore⟩,
    forall_mem_append.mpr ⟨hafter, hlater⟩⟩

theorem largest_spec (area : α → Nat) {least : Nat} (hlo : 0 < least) (shapes : List α) :
    ∃ best most, largest area least shapes = (best, most) ∧ (∀ s ∈ shapes, area s ≤ most) ∧
      if least ≤ most then ∃ s, best = some s ∧ area s = most ∧ IsFirstLargest area shapes s
      else best = none := by
  -- the shapes are looked at from the first to the last
  induction shapes using reverseRecOn with
  | nil => exact ⟨none, 0, rfl, forall_mem_nil _, if_neg (c := least ≤ 0) (by omega) ▸ rfl⟩
  | append_singleton shapes s ih =>
    obtain ⟨best, most, hlargest, hhi, hbest⟩ := ih
    have hstep : largest area least (shapes ++ [s]) =
        if most < area s then (if least ≤ area s then some s else best, area s)
        else (best, most) := by
      unfold largest at hlargest ⊢
      rw [foldl_append, hlargest]
      rfl
    simp only [forall_mem_append, forall_mem_singleton]
    by_cases hmore : most < area s
    · rw [if_pos hmore] at hstep
      refine ⟨_, _, hstep, ⟨fun d hd => (hhi d hd).trans hmore.le, le_rfl⟩, ?_⟩
      by_cases henough : least ≤ area s
      · rw [if_pos henough, if_pos henough]
        exact ⟨s, rfl, rfl, shapes, [], rfl, fun t ht => (hhi t ht).trans_lt hmore,
          forall_mem_nil _⟩
      · rw [if_neg henough, if_neg henough]
        rwa [if_neg (by omega)] at hbest
    · rw [if_neg hmore] at hstep
      refine ⟨best, most, hstep, ⟨hhi, not_lt.mp hmore⟩, ?_⟩
      by_cases henough : least ≤ most
      · rw [if_pos henough] at hbest ⊢
        obtain ⟨d, hsome, rfl, hd⟩ := hbest
        refine ⟨d, hsome, rfl, ?_⟩
        exact hd.append (forall_mem_nil _) (forall_mem_singleton.mpr (not_lt.mp hmore))
      · rwa [if_neg henough] at hbest ⊢

def shown (found : List (Value × List α)) : List (Value × α) :=
  found.flatMap fun family => family.2.map (family.1, ·)

/-- What comes first among the largest shapes of all colours, in the order in which they are looked
at, if its area is greater than 300. -/
def IsForemost (area : α → Nat) (found : List (Value × List α)) :
    Option (Value × α × Nat) → Prop
  | none => ∀ t ∈ shown found, area t.2 ≤ 600
  | some (color, s, most) => area s = most ∧ 600 < most ∧
    IsFirstLargest (fun t => area t.2) (shown found) (color, s)

def bar (best : Option (Value × α × Nat)) : Nat := best.elim 600 (·.2.2)

variable {found : List (Value × List α)} {color : Value} {best : Option (Value × α × Nat)}

theorem shown_append (found : List (Value × List α)) (color : Value) (shapes : List α) :
    shown (found ++ [(color, shapes)]) = shown found ++ shapes.map (color, ·) := by
  simp [shown]

theorem IsForemost.append (h : IsForemost area found best) (hle : ∀ s ∈ shapes, area s ≤ bar best) :
    IsForemost area (found ++ [(color, shapes)]) best := by
  have hmap : ∀ t ∈ shapes.map (color, ·), area t.2 ≤ bar best := forall_mem_map.mpr hle
  cases best with
  | none =>
    unfold IsForemost
    rw [shown_append]
    exact forall_mem_append.mpr ⟨h, hmap⟩
  | some best =>
    obtain ⟨color', s, most⟩ := best
    obtain ⟨rfl, hbig, hfst⟩ := h
    refine ⟨rfl, hbig, ?_⟩
    rw [shown_append]
    exact hfst.append (forall_mem_nil _) hmap

theorem IsForemost.outdone (h : IsForemost area found best) (hs : IsFirstLargest area shapes s)
    (hmore : bar best < area s) :
    IsForemost area (found ++ [(color, shapes)]) (some (color, s, area s)) := by
  have hle : 600 ≤ bar best ∧ ∀ t ∈ shown found, area t.2 ≤ bar best := by
    cases best with
    | none => exact ⟨le_rfl, h⟩
    | some best =>
      obtain ⟨color', s, most⟩ := best
      obtain ⟨rfl, hbig, hfst⟩ := h
      exact ⟨hbig.le, hfst.le⟩
  obtain ⟨before, after, rfl, hbefore, hafter⟩ := hs
  refine ⟨rfl, hle.1.trans_lt hmore, shown found ++ before.map (color, ·), after.map (color, ·),
    ?_, forall_mem_append.mpr ⟨fun t ht => (hle.2 t ht).trans_lt hmore, ?_⟩, ?_⟩
  · simp [shown_append]
  · exact forall_mem_map.mpr hbefore
  · exact forall_mem_map.mpr hafter

theorem isForemost_foremost (area : α → Nat) (found : List (Value × List α)) :
    IsForemost area found (foremost area found) := by
  -- the families are looked at from the first to the last
  induction found using reverseRecOn with
  | nil => exact forall_mem_nil _
  | append_singleton found family ih =>
    obtain ⟨color, shapes⟩ := family
    obtain ⟨next, most, hlargest, hhi, hnext⟩ :=
      largest_spec area (show 0 < visible by decide) shapes
    unfold foremost at ih ⊢
    rw [foldl_append]
    generalize foldl _ none found = best at ih ⊢
    dsimp only [foldl_cons, foldl_nil]
    rw [hlargest]
    by_cases hvisible : visible ≤ most
    · rw [if_pos hvisible] at hnext
      obtain ⟨s, rfl, rfl, hs⟩ := hnext
      cases best with
      | none => exact ih.outdone hs hvisible
      | some best =>
        change IsForemost _ _ (if best.2.2 < area s then _ else some best)
        split
        · exact ih.outdone hs ‹_›
        · exact ih.append fun t ht => (hhi t ht).trans (not_lt.mp ‹_›)
    · rw [if_neg hvisible] at hnext
      cases hnext
      refine ih.append fun t ht => (hhi t ht).trans ?_
      cases best with
      | none => exact Nat.le_of_lt_succ (not_le.mp hvisible)
      | some best => exact (Nat.le_of_lt_succ (not_le.mp hvisible)).trans ih.2.1.le

end

/-! ## The colours that are looked for -/

section
variable {f : Table}

theorem corner_eq (f : Table) (c : ThresholdTuner.Color) (s : Side) :
    corner f.value (.str c.name) s.name = .ok [f c s 0, f c s 1, f c s 2] := by
  have hcol : f.value.subscript (.str c.name) = .ok (sides (f c)) :=
    Value.subscript_recordOf ThresholdTuner.Color.name_injective c.mem_all _
  have hside : (sides (f c)).subscript (.str s.name) = .ok (row (f c s)) :=
    Value.subscript_recordOf Side.name_injective s.mem_all _
  unfold corner
  simp only [mapM_cons, mapM_nil, hcol, hside, bind, Except.bind]
  rfl

theorem range_completes (hf : f.Usable) (c : ThresholdTuner.Color) :
    ∃ box, range f.value (.str c.name) = .ok box := by
  have hlo := corner_eq f c .min
  have hhi := corner_eq f c .max
  have hrow : ∀ s, ∃ a b d, [f c s 0, f c s 1, f c s 2].mapM bound = .ok [a, b, d] := by
    intro s
    obtain ⟨a, ha⟩ := hf c s 0
    obtain ⟨b, hb⟩ := hf c s 1
    obtain ⟨d, hd⟩ := hf c s 2
    refine ⟨a, b, d, ?_⟩
    simp only [mapM_cons, mapM_nil, ha, hb, hd]
    rfl
  obtain ⟨a, b, d, hlows⟩ := hrow .min
  obtain ⟨a', b', d', hhighs⟩ := hrow .max
  refine ⟨⟨(a, b, d), (a', b', d')⟩, ?_⟩
  change corner f.value (.str c.name) "min" = _ at hlo
  change corner f.value (.str c.name) "max" = _ at hhi
  unfold range
  simp only [hlo, hhi, hlows, hhighs, bind, Except.bind]
  rfl

def isKnown (thresholds color : Value) : Bool := (thresholds.contains color).toOption.getD false

theorem isKnown_iff (f : Table) (s : String) :
    isKnown f.value (.str s) ↔ ∃ c : ThresholdTuner.Color, s = c.name := by
  change (Value.lookup? (ThresholdTuner.Color.all.map fun c =>
    (.str c.name, (sides ∘ f) c)) (.str s)).isSome ↔ _
  refine ⟨fun h => ?_, ?_⟩
  · obtain ⟨x, hlookup⟩ := Option.isSome_iff_exists.mp h
    have hsub : f.value.subscript (.str s) = .ok x := by
      unfold value Value.recordOf Value.subscript
      simp only [Value.hashable, hlookup]
      rfl
    obtain ⟨c, -, hc⟩ := Value.exists_key_of_subscript hsub
    cases hc
    exact ⟨c, rfl⟩
  · rintro ⟨c, rfl⟩
    rw [Value.lookup?_recordOf ThresholdTuner.Color.name_injective c.mem_all]
    rfl

def addBox (thresholds : Value) (found : List (Value × ColorSpace.Range)) (color : Value) :
    Result (List (Value × ColorSpace.Range)) := do
  if ← thresholds.contains color then return (color, ← range thresholds color) :: found
  else return found

theorem colorBoxes_eq (thresholds : Value) (colors : List Value) :
    colorBoxes thresholds (.tuple colors) = (do
      return (← colors.foldlM (addBox thresholds) []).reverse) := rfl

theorem colors_addBox {thresholds : Value} {colors : List Value}
    {found boxes : List (Value × ColorSpace.Range)}
    (h : colors.foldlM (addBox thresholds) found = .ok boxes) :
    boxes.reverse.map Prod.fst =
      found.reverse.map Prod.fst ++ colors.filter (isKnown thresholds) := by
  induction colors generalizing found with
  | nil =>
    cases h
    rw [filter_nil, append_nil]
  | cons color colors ih =>
    rw [foldlM_cons] at h
    obtain ⟨next, hnext, hrest⟩ := eq_ok_of_bind h
    obtain ⟨known, hknown, hnext⟩ := eq_ok_of_bind hnext
    have hisKnown : isKnown thresholds color = known := by
      unfold isKnown
      rw [hknown]
      rfl
    rw [ih hrest, filter_cons, hisKnown]
    cases known with
    | true =>
      obtain ⟨box, -, hbox⟩ := eq_ok_of_bind hnext
      cases hbox
      simp
    | false =>
      cases hnext
      rfl

theorem foldlM_addBox_completes (hf : f.Usable) (colors : List String)
    (found : List (Value × ColorSpace.Range)) :
    ∃ boxes, (colors.map Value.str).foldlM (addBox f.value) found = .ok boxes := by
  induction colors generalizing found with
  | nil => exact ⟨found, rfl⟩
  | cons s rest ih =>
    have hs : f.value.contains (.str s) = .ok (isKnown f.value (.str s)) := rfl
    rw [map_cons, foldlM_cons]
    cases hknown : isKnown f.value (.str s) with
    | true =>
      obtain ⟨c, rfl⟩ := (isKnown_iff f s).mp hknown
      obtain ⟨box, hbox⟩ := range_completes hf c
      have hstep : addBox f.value found (.str c.name) = .ok ((.str c.name, box) :: found) := by
        simp only [addBox, hs, hknown, hbox, bind, Except.bind]
        rfl
      rw [hstep]
      exact ih _
    | false =>
      have hstep : addBox f.value found (.str s) = .ok found := by
        simp only [addBox, hs, hknown, bind, Except.bind]
        rfl
      rw [hstep]
      exact ih found

theorem colorBoxes_completes (hf : f.Usable) (colors : List String) :
    ∃ boxes, colorBoxes f.value (.tuple (colors.map .str)) = .ok boxes ∧
      (boxes = [] ↔ ∀ c : ThresholdTuner.Color, c.name ∉ colors) := by
  obtain ⟨boxes, hboxes⟩ := foldlM_addBox_completes hf colors []
  refine ⟨boxes.reverse, ?_, ?_⟩
  · rw [colorBoxes_eq, hboxes]
    rfl
  · have hnames := colors_addBox hboxes
    rw [← map_eq_nil_iff, hnames]
    simp only [reverse_nil, map_nil, nil_append, filter_eq_nil_iff,
      forall_mem_map, isKnown_iff]
    refine ⟨fun h c hc => h _ hc ⟨c, rfl⟩, ?_⟩
    rintro h _ hmem ⟨c, rfl⟩
    exact h c hmem

theorem families_completes (hf : f.Usable) (colors : List String) (picture : Raster) :
    ∃ found, families f.value (.tuple (colors.map .str)) picture = .ok found := by
  obtain ⟨boxes, hboxes, -⟩ := colorBoxes_completes hf colors
  unfold families
  rw [hboxes]
  exact ⟨_, rfl⟩

theorem families_colors {thresholds targets : Value} {picture : Raster}
    {found : List (Value × List Contour)} (h : families thresholds targets picture = .ok found) :
    ∃ colors, targets.items = .ok colors ∧
      found.map Prod.fst = colors.filter (isKnown thresholds) := by
  obtain ⟨boxes, hboxes, hmap⟩ := eq_ok_of_bind h
  obtain ⟨colors, hcols, hboxes⟩ := eq_ok_of_bind hboxes
  obtain ⟨entered, hentered, hreverse⟩ := eq_ok_of_bind hboxes
  cases hreverse
  cases hmap
  refine ⟨colors, hcols, ?_⟩
  rw [map_map]
  exact colors_addBox hentered

theorem dominantIn_completes (hf : f.Usable) (colors : List String) (picture : Raster) :
    ∃ seen, dominantIn f.value (.tuple (colors.map .str)) picture = .ok seen := by
  obtain ⟨found, hfound⟩ := families_completes hf colors picture
  unfold dominantIn
  rw [hfound]
  change ∃ seen, dominant found = .ok seen
  unfold dominant
  have hforemost := isForemost_foremost Contour.doubleArea found
  cases hbest : foremost Contour.doubleArea found with
  | none => exact ⟨none, rfl⟩
  | some best =>
    rw [hbest] at hforemost
    -- what is found has one of the colours that were looked for
    obtain ⟨family, hfamily, hshape⟩ := mem_flatMap.mp hforemost.2.2.mem
    obtain ⟨shape, -, hshape⟩ := mem_map.mp hshape
    obtain ⟨_, hitems, hnames⟩ := families_colors hfound
    cases hitems
    have hmem := mem_map_of_mem (f := Prod.fst) hfamily
    rw [hnames, congrArg Prod.fst hshape, mem_filter, mem_map] at hmem
    obtain ⟨⟨name, -, hname⟩, hknown⟩ := hmem
    rw [← hname] at hknown
    obtain ⟨c, hc⟩ := (isKnown_iff f name).mp hknown
    obtain ⟨ink, hink⟩ := (Games.exists_inkFor_iff best.1).mpr ⟨c, by rw [← hname, hc]⟩
    dsimp only
    split
    · rw [hink]
      exact ⟨some best.1, rfl⟩
    · exact ⟨none, rfl⟩

end

/-- Of all the shapes that are looked at, the first of the largest counts if its area, of which the
double is compared, is greater than 300, and nothing counts exactly if no area is. A picture is
searched for those of the targets that the table has, in their order. -/
theorem foremost_first_largest {α : Type} (area : α → Nat) (found : List (Value × List α)) :
    IsForemost area found (foremost area found) ∧
    (foremost area found = none ↔ ∀ family ∈ found, ∀ s ∈ family.2, area s ≤ 600) ∧
    ∀ thresholds targets picture families, Blob.families thresholds targets picture = .ok families →
      dominantIn thresholds targets picture = dominant families ∧
      ∃ colors, targets.items = .ok colors ∧
        families.map Prod.fst = colors.filter (isKnown thresholds) := by
  have hforemost := isForemost_foremost area found
  refine ⟨hforemost, ?_, fun thresholds targets picture families h => ?_⟩
  · have hshown : (∀ family ∈ found, ∀ s ∈ family.2, area s ≤ 600) ↔
        ∀ t ∈ shown found, area t.2 ≤ 600 := by
      simp only [shown, forall_mem_flatMap, forall_mem_map]
    rw [hshown]
    cases hbest : foremost area found with
    | none =>
      rw [hbest] at hforemost
      exact iff_of_true rfl hforemost
    | some best =>
      rw [hbest] at hforemost
      obtain ⟨harea, hlarge, hfirst⟩ := hforemost
      exact iff_of_false (by simp) fun hall => (harea ▸ hlarge).not_ge (hall _ hfirst.mem)
  · refine ⟨?_, families_colors h⟩
    unfold dominantIn
    rw [h]
    rfl

theorem usual_usable : Table.Usable usual := by
  intro c s i
  exact ⟨_, rfl⟩

/-- Of shapes that are equally large the first counts, and an unknown colour is passed over. -/
theorem foremost_first_largest_usual :
    IsForemost id [(.str "red", [700, 900, 900]), (.str "blue", [900])]
        (some (.str "red", 900, 900)) ∧
      ∃ found, families (value usual) (.tuple [.str "pink", .str "red"])
        ⟨0, 0, .empty⟩ = .ok found ∧ found.map Prod.fst = [.str "red"] := by
  obtain ⟨hfirst, -, hcolors⟩ :=
    foremost_first_largest id [(.str "red", [700, 900, 900]), (.str "blue", [900])]
  obtain ⟨found, hfound⟩ := families_completes usual_usable ["pink", "red"] ⟨0, 0, .empty⟩
  obtain ⟨-, colors, hitems, hnames⟩ := hcolors _ _ _ _ hfound
  cases hitems
  have hpink : isKnown (value usual) (.str "pink") = false := by decide +kernel
  have hred := (isKnown_iff usual "red").mpr ⟨.red, rfl⟩
  exact ⟨hfirst, found, hfound, by simpa [hpink, hred] using hnames⟩

end Blob

end Rover
