import Mathlib.Data.Fintype.Basic
import Mathlib.Tactic.FinCases
import Rover.Proofs.Games.Play
import Rover.Proofs.Number

/-!
# The file of the thresholds

The tuner keeps a table of thresholds in memory, changes it place by place, and saves it as it is.
Before the game was made ready for the first time there is no table: saving then leaves a file
without one, from which no table can be had again.
-/

namespace Rover

open List Function

open ConfigFiles (filed filedEntries)
open Function (Injective comp_update update update_eq_self update_idem update_self)

/-! ## Dictionaries with known keys -/

namespace Value

theorem eq_str_of_same {s : String} {v : Value} (h : same (.str s) v) : v = .str s := by
  cases v <;> simp_all [same, num?]

theorem store_cons {v w inner x index next : Value} {path : List Value}
    (hw : v.subscript index = .ok w) (hinner : w.store (next :: path) x = .ok inner) :
    v.store (index :: next :: path) x = v.replace index inner := by
  rw [store]
  · simp only [hw, bind, Except.bind, hinner]
  · exact cons_ne_nil _ _

theorem subscript_of_store {v x t index next : Value} {path : List Value}
    (h : v.store (index :: next :: path) x = .ok t) : ∃ w, v.subscript index = .ok w := by
  rw [store] at h
  · obtain ⟨w, hw, -⟩ := eq_ok_of_bind h
    exact ⟨w, hw⟩
  · exact cons_ne_nil _ _

def recordOf {κ : Type} (name : κ → String) (keys : List κ) (g : κ → Value) : Value :=
  .dict (keys.map fun k => (.str (name k), g k))

theorem filed_recordOf {κ : Type} {name : κ → String} {keys : List κ}
    (hsorted : keys.Pairwise fun k k' => name k ≤ name k') (g : κ → Value) :
    filed (recordOf name keys g) = recordOf name keys fun k => filed (g k) := by
  have hent : filedEntries (keys.map fun k => (.str (name k), g k)) =
      keys.map fun k => (.str (name k), filed (g k)) := by
    clear hsorted
    induction keys with
    | nil => rfl
    | cons k rest ih => rw [map_cons, filedEntries, ih, map_cons]
  -- entries that are in order already stay where they are
  unfold recordOf
  rw [filed, hent, mergeSort_of_pairwise]
  rw [pairwise_map]
  exact hsorted.imp fun h => decide_eq_true h

theorem exists_key_of_subscript {κ : Type} {name : κ → String} {keys : List κ} {g : κ → Value}
    {v x : Value}
    (h : (recordOf name keys g).subscript v = .ok x) : ∃ k ∈ keys, v = .str (name k) := by
  obtain ⟨_, -, hlookup⟩ := eq_ok_of_bind h
  cases hfind : lookup? (keys.map fun k => (.str (name k), g k)) v with
  | none => simp [hfind] at hlookup
  | some y =>
    obtain ⟨e, hfind, -⟩ := Option.map_eq_some_iff.mp hfind
    obtain ⟨k, hk, rfl⟩ := mem_map.mp (mem_of_find?_eq_some hfind)
    -- a text equals nothing but itself
    have hsame := find?_some hfind
    exact ⟨k, hk, eq_str_of_same hsame⟩

section
variable {κ : Type} [DecidableEq κ] {name : κ → String} {keys : List κ} {k : κ}

section

variable (hname : Injective name)
include hname

theorem same_name (k k' : κ) : same (.str (name k)) (.str (name k')) = decide (k = k') := by
  by_cases h : k = k'
  · simp [same, h]
  · simp [same, h, hname.ne h]

theorem lookup?_recordOf (hk : k ∈ keys) (g : κ → Value) :
    lookup? (keys.map fun k => (.str (name k), g k)) (.str (name k)) = some (g k) := by
  unfold lookup?
  induction keys with
  | nil => cases hk
  | cons k' rest ih =>
    by_cases h : k' = k
    · simp [same_name hname, h]
    · rw [map_cons, find?_cons_of_neg (by simp [same_name hname, h])]
      exact ih (mem_of_ne_of_mem (Ne.symm h) hk)

theorem field?_recordOf (hk : k ∈ keys) (g : κ → Value) :
    (recordOf name keys g).field? (name k) = some (g k) := lookup?_recordOf hname hk g

theorem subscript_recordOf (hk : k ∈ keys) (g : κ → Value) :
    (recordOf name keys g).subscript (.str (name k)) = .ok (g k) := by
  unfold recordOf subscript
  simp only [hashable, lookup?_recordOf hname hk]
  rfl

theorem replace_recordOf (hk : k ∈ keys) (g : κ → Value) (x : Value) :
    (recordOf name keys g).replace (.str (name k)) x = .ok (recordOf name keys (update g k x)) := by
  have hany : (keys.map fun k => (Value.str (name k), g k)).any
      (fun e => same e.1 (.str (name k))) := by
    rw [any_map, any_eq_true]
    exact ⟨k, hk, (same_name hname k k).trans (decide_eq_true rfl)⟩
  have hinsert : insert (keys.map fun k => (.str (name k), g k)) (.str (name k)) x =
      keys.map fun k' => (.str (name k'), update g k x k') := by
    -- the key is there, so that no entry is added
    unfold insert
    rw [if_pos hany, map_map]
    refine map_congr_left fun k' _ => ?_
    by_cases h : k' = k
    · simp [same_name hname, h]
    · simp [same_name hname, h]
  simp only [recordOf, replace, hinsert]
  rfl

end

end

end Value

namespace ThresholdTuner

variable {request : Value}

/-! ## The table -/

inductive Color where
  | black | blue | green | red | white
deriving DecidableEq, Repr

inductive Side where
  | max | min
deriving DecidableEq, Repr

namespace Color

def name : Color → String
  | black => "black"
  | blue => "blue"
  | green => "green"
  | red => "red"
  | white => "white"

def all : List Color := [black, blue, green, red, white]

theorem mem_all (c : Color) : c ∈ all := by cases c <;> decide

theorem name_injective : Injective name := by
  intro c c' h
  cases c <;> cases c' <;> first | rfl | simp [name] at h

end Color

namespace Side

def name : Side → String
  | max => "max"
  | min => "min"

def all : List Side := [max, min]

theorem mem_all (s : Side) : s ∈ all := by cases s <;> decide

theorem name_injective : Injective name := by
  intro s s' h
  cases s <;> cases s' <;> first | rfl | simp [name] at h

end Side

abbrev Table := Color → Side → Fin 3 → Value

namespace Table

def row (h : Fin 3 → Value) : Value := .list [h 0, h 1, h 2]

def sides (g : Side → Fin 3 → Value) : Value := .recordOf Side.name Side.all (row ∘ g)

def value (f : Table) : Value := .recordOf Color.name Color.all (sides ∘ f)

def put (f : Table) (c : Color) (s : Side) (i : Fin 3) (x : Value) : Table :=
  update f c (update (f c) s (update (f c s) i x))

theorem store_row (h : Fin 3 → Value) (i : Fin 3) (x : Value) :
    (row h).store [.int i] x = .ok (row (update h i x)) := by
  fin_cases i <;> rfl

theorem store_sides (g : Side → Fin 3 → Value) (s : Side) (i : Fin 3) (x : Value) :
    (sides g).store [.str s.name, .int i] x = .ok (sides (update g s (update (g s) i x))) := by
  have hrow := Value.subscript_recordOf Side.name_injective s.mem_all (row ∘ g)
  unfold sides
  rw [Value.store_cons hrow (store_row (g s) i x),
    Value.replace_recordOf Side.name_injective s.mem_all, comp_update]

theorem store_recordOf {κ : Type} [DecidableEq κ] {name : κ → String}
    (hname : Injective name) {keys : List κ} {k : κ} (hk : k ∈ keys)
    (f : κ → Side → Fin 3 → Value) (s : Side) (i : Fin 3) (x : Value) :
    (Value.recordOf name keys (sides ∘ f)).store [.str (name k), .str s.name, .int i] x =
      .ok (.recordOf name keys (sides ∘ update f k (update (f k) s (update (f k s) i x)))) := by
  have hsides := Value.subscript_recordOf hname hk (sides ∘ f)
  rw [Value.store_cons hsides (store_sides (f k) s i x), Value.replace_recordOf hname hk,
    comp_update]

theorem sides_injective : Injective sides := by
  intro g g' h
  simp only [sides, Side.all, row, Value.recordOf, map_cons, map_nil, comp_apply,
    Value.dict.injEq, cons.injEq, Prod.mk.injEq, Value.list.injEq, true_and, and_true] at h
  funext s i
  cases s <;> fin_cases i <;> simp [h]

theorem filed_value (f : Table) : filed f.value = value fun c s i => filed (f c s i) := by
  have hrow : ∀ h : Fin 3 → Value, filed (row h) = row fun i => filed (h i) := by
    intro h
    simp only [row, filed, ConfigFiles.filedItems]
  have hsides : ∀ g : Side → Fin 3 → Value, filed (sides g) = sides fun s i => filed (g s i) := by
    intro g
    refine (Value.filed_recordOf (by decide) _).trans ?_
    exact congrArg _ (funext fun s => hrow (g s))
  refine (Value.filed_recordOf (by decide) _).trans ?_
  exact congrArg _ (funext fun c => hsides (f c))

end Table

/-! ## Requests -/

def order : List (Side × Fin 3) :=
  [(.min, 0), (.min, 1), (.min, 2), (.max, 0), (.max, 1), (.max, 2)]

theorem places_eq : places = order.map fun place => (place.1.name, (place.2 : Int)) := rfl

def asked (request : Value) (place : Side × Fin 3) : Result Value := do
  (← request.subscript (.str place.1.name)).subscript (.int place.2)

def fill (request : Value) (c : Color) (f : Table) : List (Side × Fin 3) → Table
  | [] => f
  | place :: rest =>
    match asked request place with
    | .ok x => fill request c (f.put c place.1 place.2 x) rest
    | .error _ => f

/-- What becomes of the two rows of a colour: they are overwritten place by place, up to the first
place for which the request has nothing. -/
def overwritten (request : Value) (g : Side → Fin 3 → Value) :
    List (Side × Fin 3) → Side → Fin 3 → Value
  | [] => g
  | place :: rest =>
    match asked request place with
    | .ok x =>
      overwritten request (update g place.1 (update (g place.1) place.2 x)) rest
    | .error _ => g

theorem fill_eq (request : Value) (c : Color) (f : Table) (places : List (Side × Fin 3)) :
    fill request c f places = update f c (overwritten request (f c) places) := by
  induction places generalizing f with
  | nil => exact (update_eq_self c f).symm
  | cons place rest ih =>
    unfold fill overwritten
    cases asked request place with
    | error e => exact (update_eq_self c f).symm
    | ok x =>
      refine (ih _).trans ?_
      unfold Table.put
      rw [update_idem, update_self]

theorem overwritten_eq {given : Side → Fin 3 → Value}
    (h : ∀ place ∈ order, asked request place = .ok (given place.1 place.2))
    (g : Side → Fin 3 → Value) : overwritten request g order = given := by
  simp only [order, forall_mem_cons] at h
  obtain ⟨h₁, h₂, h₃, h₄, h₅, h₆, -⟩ := h
  simp only [order, overwritten, h₁, h₂, h₃, h₄, h₅, h₆]
  funext s i
  cases s <;> fin_cases i <;> simp

def color? : Value → Option Color
  | .str s => Color.all.find? (·.name == s)
  | _ => none

theorem color?_name (c : Color) : color? (.str c.name) = some c := by cases c <;> decide

theorem eq_name_of_color? {v : Value} {c : Color} (h : color? v = some c) : v = .str c.name := by
  unfold color? at h
  split at h
  · have hname := find?_some h
    rw [eq_of_beq hname]
  · cases h

def request? (args : Value) : Option (Value × Color) := do
  let request ← (args.subscript (.int 0)).toOption
  let color ← (request.subscript (.str "color")).toOption
  return (request, ← color? color)

theorem request?_eq_some_iff {args : Value} {c : Color} :
    request? args = some (request, c) ↔ args.subscript (.int 0) = .ok request ∧
      request.subscript (.str "color") = .ok (.str c.name) := by
  constructor
  · intro h
    unfold request? at h
    cases hargs : args.subscript (.int 0) with
    | error f => simp [hargs, Except.toOption] at h
    | ok x =>
      cases hcol : x.subscript (.str "color") with
      | error f => simp [hargs, hcol, Except.toOption] at h
      | ok color =>
        simp only [hargs, hcol, Except.toOption, Option.bind_eq_bind, Option.bind_some,
          Option.bind_eq_some_iff] at h
        obtain ⟨c', hc, h⟩ := h
        cases h
        exact ⟨rfl, by rw [hcol, eq_name_of_color? hc]⟩
  · rintro ⟨hargs, hcol⟩
    simp [request?, hargs, hcol, Except.toOption, color?_name]

def changed (args : Value) (f : Table) : Table :=
  match request? args with
  | some (request, c) => fill request c f order
  | none => f

/-- From one state to another the file has stayed, and the table in memory has become this one. -/
structure Became (m : Value) (p q : Play ThresholdTuner) : Prop where
  file : q.files.thresholds = p.files.thresholds
  memory : q.game.thresholds = m

section
variable {p : Play ThresholdTuner} {args : Value}

def named (args : Value) : Result Value := do
  (← args.subscript (.int 0)).subscript (.str "color")

/-- The colour that a request names is looked for, whatever comes then. -/
def aimed (s : ThresholdTuner) : Result Value → ThresholdTuner
  | .ok color => { s with targets := .tuple [color] }
  | .error _ => s

theorem setThresholds_refused
    (h : ∀ color w, named args = .ok color → p.game.thresholds.subscript color ≠ .ok w) :
    wp (setThresholds args) (fun _ _ => False)
      (fun _ q => q.files = p.files ∧ q.game = aimed p.game (named args)) p := by
  refine wp_except_bind (fun request hreq => ?_) fun e he => ?_
  · have hnamed : named args = request.subscript (.str "color") := by rw [named, hreq]; rfl
    rw [hnamed] at h ⊢
    refine wp_except_bind (fun color hcol => ?_) fun e he => by rw [he]; exact ⟨rfl, rfl⟩
    rw [hcol, wp_bind, Play.wp_update, wp_bind]
    refine wp_post (Op.wp_forIn (I := fun rest (q : Play ThresholdTuner) => rest ≠ [] ∧
      q.files = p.files ∧ q.game = { p.game with targets := .tuple [color] })
      (fun place rest q hq => ?_) ⟨by decide, rfl, rfl⟩) fun _ _ hq => hq.1 rfl
    refine wp_except_bind (fun row _ => ?_) fun _ _ => hq.2
    refine wp_except_bind (fun new _ => ?_) fun _ _ => hq.2
    rw [wp_bind, wp_state, hq.2.2]
    refine wp_except_bind (fun table htable => ?_) fun _ _ => hq.2
    -- already the colour is not found
    obtain ⟨w, hw⟩ := Value.subscript_of_store htable
    exact (h color w hcol hw).elim
  · have hnamed : named args = .error e := by rw [named, he]; rfl
    rw [hnamed]
    exact ⟨rfl, rfl⟩

/-- From one state to another only this colour is looked for, and its rows have become these. -/
def Rewrites {κ : Type} [DecidableEq κ] (name : κ → String) (keys : List κ)
    (f : κ → Side → Fin 3 → Value) (k : κ) (g : Side → Fin 3 → Value)
    (p q : Play ThresholdTuner) : Prop :=
  q.files = p.files ∧ q.game = { p.game with
    targets := .tuple [.str (name k)]
    thresholds := .recordOf name keys (Table.sides ∘ update f k g) }

theorem setThresholds_rewrites {κ : Type} [DecidableEq κ] {name : κ → String}
    (hname : Injective name) {keys : List κ} {f : κ → Side → Fin 3 → Value}
    (hp : p.game.thresholds = .recordOf name keys (Table.sides ∘ f)) {k : κ} (hk : k ∈ keys)
    (hreq : args.subscript (.int 0) = .ok request)
    (hcol : request.subscript (.str "color") = .ok (.str (name k))) :
    wp (setThresholds args)
      (fun _ q => Rewrites name keys f k (overwritten request (f k) order) p q ∧
        ∀ place ∈ order, ∃ x, asked request place = .ok x)
      (fun _ q => Rewrites name keys f k (overwritten request (f k) order) p q) p := by
  unfold setThresholds
  rw [wp_ok_bind hreq, wp_ok_bind hcol, wp_bind, Play.wp_update, wp_bind, places_eq, forIn_map]
  -- what is left to be overwritten leads from the rows so far to those in the end
  refine wp_post (Op.wp_forIn (I := fun rest q => ∃ g done, order = done ++ rest ∧
    (∀ place ∈ done, ∃ x, asked request place = .ok x) ∧
    overwritten request g rest = overwritten request (f k) order ∧ Rewrites name keys f k g p q)
    (fun place rest q hq => ?_) ⟨f k, [], rfl, forall_mem_nil _, rfl, rfl, ?_⟩) ?_
  · obtain ⟨g, done, horder, hdone, hrest, hq⟩ := hq
    have hstopped : ∀ e, asked request place = .error e →
        Rewrites name keys f k (overwritten request (f k) order) p q := by
      intro e he
      rw [← hrest, overwritten, he]
      exact hq
    refine wp_except_bind (fun row hrow => ?_) fun e he => hstopped e (by rw [asked, he]; rfl)
    refine wp_except_bind (fun x hx => ?_) fun e he => hstopped e (by rw [asked, hrow]; exact he)
    have hasked : asked request place = .ok x := by
      rw [asked, hrow]
      exact hx
    rw [wp_bind, wp_state, hq.2, Table.store_recordOf hname hk, update_self, update_idem]
    refine ⟨rfl, overwritten request g [place], done ++ [place], ?_, ?_, ?_, hq.1, ?_⟩
    · rw [horder, append_cons]
    · exact forall_mem_append.mpr ⟨hdone, forall_mem_singleton.mpr ⟨x, hasked⟩⟩
    · rw [← hrest, overwritten, overwritten, hasked]
      rfl
    · rw [overwritten, hasked]
      dsimp only
      rw [hq.2]
      rfl
  · rw [update_eq_self, ← hp]
  · rintro _ q ⟨g, done, horder, hdone, rfl, hq⟩
    rw [append_nil] at horder
    exact ⟨hq, horder ▸ hdone⟩

def kept : Option Table → Value
  | some f => f.value
  | none => .none

theorem setThresholds_became {m : Option Table} (hp : p.game.thresholds = kept m) (args : Value) :
    wp (setThresholds args) (fun _ q => Became (kept (m.map (changed args))) p q)
      (fun _ q => Became (kept (m.map (changed args))) p q) p := by
  have hrefused (h : ∀ color w, named args = .ok color → p.game.thresholds.subscript color ≠ .ok w) :
      wp (setThresholds args) (fun _ q => Became p.game.thresholds p q)
        (fun _ q => Became p.game.thresholds p q) p := by
    refine wp_mono (setThresholds_refused h) (fun _ _ h => h.elim) ?_
    rintro _ q ⟨hfiles, hgame⟩
    refine ⟨congrArg _ hfiles, ?_⟩
    rw [hgame]
    cases named args <;> rfl
  cases m with
  | none =>
    rw [Option.map_none, ← hp]
    refine hrefused fun _ _ _ h => ?_
    rw [hp] at h
    cases h
  | some f =>
    rw [Option.map_some]
    unfold changed
    cases hasked : request? args with
    | none =>
      rw [← hp]
      refine hrefused fun color w hnamed h => ?_
      -- every key of the table is the name of a colour
      rw [hp] at h
      obtain ⟨c, -, rfl⟩ := Value.exists_key_of_subscript h
      obtain ⟨request, hreq, hcol⟩ := eq_ok_of_bind hnamed
      rw [request?_eq_some_iff.mpr ⟨hreq, hcol⟩] at hasked
      cases hasked
    | some x =>
      obtain ⟨hreq, hcol⟩ := request?_eq_some_iff.mp hasked
      have hbecame : ∀ q, Rewrites Color.name Color.all f x.2 (overwritten x.1 (f x.2) order) p q →
          Became (kept (some (fill x.1 x.2 f order))) p q := by
        rintro q ⟨hfiles, hgame⟩
        refine ⟨congrArg _ hfiles, ?_⟩
        rw [hgame, fill_eq]
        rfl
      exact wp_mono (setThresholds_rewrites Color.name_injective hp x.2.mem_all hreq hcol)
        (fun _ q h => hbecame q h.1) fun _ q => hbecame q

/-- A request that is carried out changes the six numbers of the colour that it names, to the first
three of each row that it gives. One that fails has left its colour as the one that is looked for,
and the numbers that it overwrote before it failed: nothing has changed exactly if they were the
same already. -/
theorem setThresholds_changes {names : List String} {f : String → Side → Fin 3 → Value}
    (hp : p.game.thresholds = .recordOf id names (Table.sides ∘ f)) (args : Value) :
    wp (setThresholds args)
      (fun _ q => ∃ request, args.subscript (.int 0) = .ok request ∧
        ∃ name ∈ names, request.subscript (.str "color") = .ok (.str name) ∧
        ∃ given : Side → Fin 3 → Value, (∀ s i, asked request (s, i) = .ok (given s i)) ∧
          q.game = { p.game with
            targets := .tuple [.str name]
            thresholds := .recordOf id names (Table.sides ∘ update f name given) })
      (fun _ q => q.game = p.game ↔ ∀ color, named args = .ok color →
        p.game.targets = .tuple [color] ∧
        ∀ request name, args.subscript (.int 0) = .ok request → name ∈ names →
          color = .str name → overwritten request (f name) order = f name) p := by
  by_cases hknown : ∃ color w, named args = .ok color ∧ p.game.thresholds.subscript color = .ok w
  · obtain ⟨color, w, hnamed, hw⟩ := hknown
    rw [hp] at hw
    obtain ⟨name, hname, rfl⟩ := Value.exists_key_of_subscript hw
    obtain ⟨request, hrequest, hcolor⟩ := eq_ok_of_bind hnamed
    refine wp_mono (setThresholds_rewrites injective_id hp hname hrequest hcolor) ?_ ?_
    · rintro _ q ⟨⟨-, hgame⟩, hgiven⟩
      have hmem (s i) : (s, i) ∈ order := by cases s <;> revert i <;> decide
      choose given hgiven using fun s i => hgiven (s, i) (hmem s i)
      refine ⟨request, hrequest, name, hname, hcolor, given, hgiven, ?_⟩
      rw [hgame, overwritten_eq fun place _ => hgiven place.1 place.2]
      rfl
    · rintro _ q ⟨-, hgame⟩
      rw [hgame]
      constructor
      · intro h color' hcolor'
        cases hnamed.symm.trans hcolor'
        refine ⟨(congrArg targets h).symm, ?_⟩
        rintro _ _ hrequest' - hname'
        cases hrequest.symm.trans hrequest'
        cases hname'
        -- the rows of a colour can be read from the table
        have hrows (g) := Value.subscript_recordOf injective_id hname (Table.sides ∘ g)
        have hsame := (hrows _).symm.trans
          ((congrArg (·.subscript (.str name)) ((congrArg thresholds h).trans hp)).trans (hrows f))
        rw [comp_apply, update_self] at hsame
        exact Table.sides_injective (Except.ok.inj hsame)
      · intro h
        obtain ⟨htargets, hrows⟩ := h _ hnamed
        rw [hrows request name hrequest hname rfl, update_eq_self, ← hp]
        exact congrArg (fun t => { p.game with targets := t }) htargets.symm
  · have hunknown : ∀ color w, named args = .ok color → p.game.thresholds.subscript color ≠ .ok w :=
      fun color w hcolor hw => hknown ⟨color, w, hcolor, hw⟩
    refine wp_mono (setThresholds_refused hunknown) (fun _ _ h => h.elim) ?_
    rintro _ q ⟨-, hgame⟩
    rw [hgame]
    cases hnamed : named args with
    | error e => exact iff_of_true rfl fun color h => by cases h
    | ok color =>
      constructor
      · rintro h _ ⟨⟩
        refine ⟨(congrArg targets h).symm, ?_⟩
        rintro _ name _ hname rfl
        rw [hp] at hunknown
        exact (hunknown _ _ hnamed (Value.subscript_recordOf injective_id hname _)).elim
      · intro h
        exact congrArg (fun t => { p.game with targets := t }) (h color rfl).1.symm

end

/-! ## What is in memory and in the file -/

structure Books where
  memory : Option Table
  file : Option Table

structure Tracks (b : Books) (p : Play ThresholdTuner) : Prop where
  memory : p.game.thresholds = kept b.memory
  file : p.files.thresholds = kept b.file

inductive Order where
  | prepare
  | start
  | stop
  | leave
  | set (args : Value)
  | save

namespace Order

def perform : Order → M Unit
  | prepare => ThresholdTuner.prepare
  | start => ThresholdTuner.start
  | stop => ThresholdTuner.stop
  | leave => ThresholdTuner.leave
  | set args => do let _ ← setThresholds args
  | save => do let _ ← ThresholdTuner.save

end Order

def Books.next (b : Books) : Order → Books
  | .prepare => { b with memory := b.file }
  | .set args => { b with memory := b.memory.map (changed args) }
  | .save => { b with file := b.memory.map fun f c s i => filed (f c s i) }
  | .start | .stop | .leave => b

variable {b : Books} {f : Table} {p : Play ThresholdTuner}

theorem Order.perform_tracks (h : Tracks b p) (o : Order) :
    Tracks (b.next o) (o.perform.after p) := by
  cases o with
  | prepare => exact ⟨h.file, h.file⟩
  | start | stop | leave => exact ⟨h.memory, h.file⟩
  | set args =>
    have hbecame := wp_after_iff.mp
      ((wp_bind (setThresholds args) fun _ => pure ()).mpr (setThresholds_became h.memory args))
    exact ⟨hbecame.memory, hbecame.file.trans h.file⟩
  | save =>
    refine ⟨h.memory, ?_⟩
    change filed p.game.thresholds = kept (b.memory.map fun f c s i => filed (f c s i))
    rw [h.memory]
    cases b.memory with
    | none => simp only [kept, Option.map_none, filed]
    | some f => exact f.filed_value

variable (orders : List Order)

theorem runAll_tracks (h : Tracks b p) :
    Tracks (orders.foldl Books.next b) (Op.runAll Order.perform orders p) := by
  induction orders generalizing b p with
  | nil => exact h
  | cons o rest ih => exact ih (o.perform_tracks h)

/-! ## Tables of numbers -/

/-- Whether a value has a list of three numbers for each side of each colour. A truth value counts
as a number. -/
def intact (v : Value) : Bool :=
  Color.all.all fun c => Side.all.all fun s =>
    match (v.field? c.name).bind (·.field? s.name) with
    | some (.list [x, y, z]) => [x, y, z].all fun v => v.num?.isSome
    | _ => false

def Table.Numeric (f : Table) : Prop := ∀ c s i, (f c s i).num?.isSome

theorem intact_value_iff (f : Table) : intact f.value ↔ f.Numeric := by
  have hrow : ∀ c s, (f.value.field? c.name).bind (·.field? s.name) =
      some (.list [f c s 0, f c s 1, f c s 2]) := by
    intro c s
    rw [Table.value, Value.field?_recordOf Color.name_injective c.mem_all]
    exact Value.field?_recordOf Side.name_injective s.mem_all (Table.row ∘ f c)
  unfold intact Table.Numeric
  simp only [hrow, all_eq_true, forall_mem_cons]
  constructor
  · intro h c s i
    obtain ⟨hfst, hsnd, hthird, -⟩ := h c c.mem_all s s.mem_all
    fin_cases i
    · exact hfst
    · exact hsnd
    · exact hthird
  · intro h c _ s _
    exact ⟨h c s 0, h c s 1, h c s 2, forall_mem_nil _⟩

theorem intact_kept_iff (m : Option Table) : intact (kept m) ↔ ∃ f, m = some f ∧ f.Numeric := by
  cases m with
  | none => exact iff_of_false (by decide +kernel) (by rintro ⟨f, h, -⟩; cases h)
  | some f =>
    refine (intact_value_iff f).trans ⟨fun h => ⟨f, rfl, h⟩, ?_⟩
    rintro ⟨g, h, hg⟩
    cases h
    exact hg

def bringsNumbers (args : Value) : Bool :=
  match request? args with
  | some (request, _) => order.all fun place =>
    match asked request place with
    | .ok x => x.num?.isSome
    | .error _ => true
  | none => true

theorem Table.Numeric.put (hf : f.Numeric) (c : Color) (s : Side) (i : Fin 3)
    {x : Value} (hx : x.num?.isSome) : (f.put c s i x).Numeric := by
  intro c' s' i'
  by_cases hc : c' = c
  · subst hc
    by_cases hs : s' = s
    · subst hs
      by_cases hi : i' = i
      · simp [Table.put, hi, hx]
      · simp [Table.put, hi, hf c' s' i']
    · simp [Table.put, hs, hf c' s' i']
  · simp [Table.put, hc, hf c' s' i']

theorem Table.Numeric.filed (hf : f.Numeric) : Table.Numeric fun c s i => filed (f c s i) := by
  intro c s i
  -- a file changes the order in tables, and no number
  have hnum : ∀ v : Value, (ConfigFiles.filed v).num? = v.num? := by
    intro v
    cases v <;> simp [ConfigFiles.filed, Value.num?]
  rw [hnum]
  exact hf c s i

theorem Table.Numeric.fill (hf : f.Numeric) (request : Value) (c : Color)
    {places : List (Side × Fin 3)}
    (h : ∀ place ∈ places, ∀ x, asked request place = .ok x → x.num?.isSome) :
    (fill request c f places).Numeric := by
  induction places generalizing f with
  | nil => exact hf
  | cons place rest ih =>
    rw [forall_mem_cons] at h
    unfold ThresholdTuner.fill
    cases hasked : asked request place with
    | error e => exact hf
    | ok x => exact ih (hf.put c place.1 place.2 (h.1 x hasked)) h.2

theorem Table.Numeric.changed (hf : f.Numeric) {args : Value}
    (hargs : bringsNumbers args) : (changed args f).Numeric := by
  unfold bringsNumbers at hargs
  unfold ThresholdTuner.changed
  cases hreq : request? args with
  | none => exact hf
  | some x =>
    rw [hreq] at hargs
    simp only [all_eq_true] at hargs
    refine hf.fill x.1 x.2 fun place hplace y hy => ?_
    have hnum := hargs place hplace
    rw [hy] at hnum
    exact hnum

/-! ## Any number of orders -/

/-- The file has a table of numbers, and so has the memory unless it has none. -/
structure Books.Sound (b : Books) : Prop where
  file : ∃ f, b.file = some f ∧ f.Numeric
  memory : ∀ f, b.memory = some f → f.Numeric

theorem Books.Sound.run (hb : b.Sound)
    (hsaves : b.memory = none → ∀ before after, orders = before ++ .save :: after →
      .prepare ∈ before) (hsets : ∀ args, .set args ∈ orders → bringsNumbers args) :
    (orders.foldl Books.next b).Sound := by
  induction orders generalizing b with
  | nil => exact hb
  | cons o rest ih =>
    have hrest : ∀ args, .set args ∈ rest → bringsNumbers args := fun args h =>
      hsets args (mem_cons_of_mem _ h)
    -- an order that does not make the game ready does not count for a later saving
    have hlater : o ≠ .prepare → b.memory = none → ∀ before after, rest = before ++ .save :: after →
        .prepare ∈ before := by
      intro ho hmemory before after h
      have hmem := hsaves hmemory (o :: before) after (by rw [h, cons_append])
      exact (mem_cons.mp hmem).resolve_left (Ne.symm ho)
    cases o with
    | prepare =>
      -- from now on there is a table in memory, the one from the file
      obtain ⟨f, hfile, hf⟩ := hb.file
      refine ih ⟨hb.file, fun g hg => ?_⟩ (fun hmemory => ?_) hrest
      · cases hfile.symm.trans hg
        exact hf
      · cases hfile.symm.trans hmemory
    | start | stop | leave => exact ih hb (hlater (by simp)) hrest
    | set args =>
      refine ih ⟨hb.file, fun g hg => ?_⟩
        (fun hmemory => hlater (by simp) (Option.map_eq_none_iff.mp hmemory)) hrest
      obtain ⟨f, hf, rfl⟩ := Option.map_eq_some_iff.mp hg
      exact (hb.memory f hf).changed (hsets args mem_cons_self)
    | save =>
      cases hmemory : b.memory with
      -- no order has come before this one
      | none => cases hsaves hmemory [] rest rfl
      | some f =>
        have hsaved : (b.next .save).file = some fun c s i => filed (f c s i) :=
          congrArg (Option.map _) hmemory
        refine ih ⟨⟨_, hsaved, (hb.memory f hmemory).filed⟩, hb.memory⟩ (fun h => ?_) hrest
        cases hmemory.symm.trans h

theorem memory_of_unprepared {orders : List Order} (h : .prepare ∉ orders)
    (hb : b.memory = none) : (orders.foldl Books.next b).memory = none := by
  induction orders generalizing b with
  | nil => exact hb
  | cons o rest ih =>
    rw [mem_cons, not_or] at h
    refine ih h.2 ?_
    cases o with
    | prepare => exact (h.1 rfl).elim
    | start | stop | leave | save => exact hb
    | set args => simp [Books.next, hb]

theorem lost_for_good : orders.foldl Books.next ⟨none, none⟩ = ⟨none, none⟩ := by
  induction orders with
  | nil => rfl
  | cons o rest ih => cases o <;> exact ih

/-- From the start of the program with a table of numbers in the file, after any orders, the file
has a table of numbers exactly if there was one in memory when it was saved last. If the table was
saved before the game was ever made ready, it is lost, whatever is done then. If this never happens,
and requests bring numbers only, the file stays intact. -/
theorem file_intact_iff {f : Table} (hf : f.Numeric) {p : Play ThresholdTuner}
    (hfile : p.files.thresholds = f.value) (hmemory : p.game.thresholds = .none)
    (orders : List Order) {q : Play ThresholdTuner}
    (hq : Op.runAll Order.perform orders p = q) :
    (intact q.files.thresholds = true ↔
      ∃ g, (orders.foldl Books.next ⟨none, some f⟩).file = some g ∧ g.Numeric) ∧
    (∀ before after, orders = before ++ .save :: after → .prepare ∉ before →
      q.files.thresholds = .none) ∧
    ((∀ before after, orders = before ++ .save :: after → .prepare ∈ before) →
      (∀ args, .set args ∈ orders → bringsNumbers args = true) →
      intact q.files.thresholds = true) := by
  have htracks := runAll_tracks orders (b := ⟨none, some f⟩) ⟨hmemory, hfile⟩
  rw [hq] at htracks
  rw [htracks.file, intact_kept_iff]
  refine ⟨Iff.rfl, ?_, fun hsaves hsets => ?_⟩
  -- the early saving finds nothing in memory
  · rintro before after rfl hbefore
    have hnone := memory_of_unprepared hbefore (b := ⟨none, some f⟩) rfl
    have hsaved : (before.foldl Books.next ⟨none, some f⟩).next .save = ⟨none, none⟩ := by
      simp only [Books.next, hnone, Option.map_none]
    rw [foldl_append, foldl_cons, hsaved, lost_for_good]
    rfl
  · have hsound : Books.Sound ⟨none, some f⟩ := ⟨⟨f, rfl, hf⟩, fun g hg => by cases hg⟩
    exact (hsound.run orders (fun _ => hsaves) hsets).file

def usual (c : Color) (s : Side) (i : Fin 3) : Value :=
  let row : List Int :=
    match c, s with
    | .black, .max => [115, 135, 135]
    | .blue, .max => [130, 185, 120]
    | .green, .max => [252, 118, 255]
    | .red, .max | .white, .max => [255, 255, 255]
    | .black, .min => [0, 0, 0]
    | .blue, .min => [0, 126, 0]
    | .green, .min => [0, 81, 106]
    | .red, .min => [0, 150, 130]
    | .white, .min => [193, 0, 0]
  .int (row.getD i 0)

def redder : Value := .list [record [("color", .str "red"),
  ("min", .list [.int 0, .int 160, .int 140]), ("max", .list [.int 255, .int 250, .int 250])]]

theorem file_intact_iff_redder :
    intact (Op.runAll Order.perform [.prepare, .set redder, .save]
      { game := {} }).files.thresholds = true := by
  have hnumeric : Table.Numeric usual := fun _ _ _ => rfl
  refine (file_intact_iff hnumeric rfl rfl _ rfl).2.2 (fun before after h => ?_) fun args h => ?_
  · cases before with
    | nil => cases h
    | cons o rest =>
      rw [← (cons.inj h).1]
      exact mem_cons_self
  · obtain rfl : args = redder := by simpa using h
    decide +kernel

def redOnly : Play ThresholdTuner :=
  { game := { thresholds := .recordOf id ["red"] (Table.sides ∘ fun _ _ _ => .int 0) } }

theorem setThresholds_changes_redder :
    (setThresholds redder).completes redOnly = true ∧
      ((setThresholds redder).after redOnly).game.targets = .tuple [.str "red"] := by
  have hdone : (setThresholds redder).completes redOnly = true := by decide +kernel
  refine ⟨hdone, Op.wp_completes
    (P := fun done q => done = true → q.game.targets = .tuple [.str "red"])
    (wp_mono (setThresholds_changes (p := redOnly) rfl redder) ?_ ?_) hdone⟩
  · rintro _ q ⟨_, -, name, hname, -, _, -, hq⟩ -
    rw [hq, mem_singleton.mp hname]
  · rintro _ q - h
    cases h

theorem target_changed_by_failing_request :
    let failing := setThresholds (.list [record [("color", .str "green")]])
    failing.completes redOnly = false ∧
      (failing.after redOnly).game.targets.same redOnly.game.targets = false := by
  decide +kernel

/-- Saving before the game was made ready leaves a file without a table. -/
theorem table_lost_by_early_save :
    intact usualThresholds = true ∧
      intact (Op.runAll Order.perform [.save] { game := {} }).files.thresholds = false := by
  decide +kernel

end ThresholdTuner

end Rover
