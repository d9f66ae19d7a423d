import Rover.Proofs.Link.Operations

/-!
# Receiving

A text that is no JSON goes to the receiver that is registered for the text itself, and what that
one fails with is not caught.
-/

namespace Rover

open Value

theorem Value.kind_of_hashable {v : Value} {f : Fault} : v.hashable = .error f → f.kind = .type := by
  refine hashable.induct
    (fun vs => hashable.hashableItems vs = .error f → f.kind = .type)
    (fun v => v.hashable = .error f → f.kind = .type) ?_ ?_ ?_ ?_ ?_ ?_ ?_ v
  case refine_4 => exact fun _ ih => ih
  case refine_5 =>
    intro v hlist hdict hset htuple h
    cases (hashable.eq_5 v hlist hdict hset htuple).symm.trans h
  case refine_7 =>
    intro v rest ih ihrest h
    cases hv : v.hashable <;> simp only [hashable.hashableItems, hv, bind, Except.bind] at h
    · exact ih (hv.trans h)
    · exact ihrest h
  all_goals
    intros
    rename_i h
    cases h
    try rfl

namespace Link

theorem receiver?_cases (l : Link) (type : Value) :
    (∃ f, l.receiver? type = .error f ∧ f.kind = .type) ∨
      ∃ r?, l.receiver? type = .ok r? ∧ ∀ r, r? = some r → ∃ t, (t, r) ∈ l.receivers := by
  unfold receiver?
  cases htype : type.hashable with
  | error f => exact .inl ⟨f, rfl, kind_of_hashable htype⟩
  | ok =>
    refine .inr ⟨_, rfl, fun r h => ?_⟩
    obtain ⟨h, -⟩ := Option.filter_eq_some_iff.mp h
    obtain ⟨⟨t, _⟩, hfind, rfl⟩ := Option.map_eq_some_iff.mp h
    exact ⟨t, List.mem_of_find?_eq_some hfind⟩

/-- The link, and how often a receiver was called. -/
abbrev Desk := Net × Nat

namespace Desk

def onNet {α : Type} (op : Op Net α) : Op Desk α := Op.onPart Prod.fst (fun d n => (n, d.2)) op

section
variable (act : Receiver → Value → Op Net Unit) (text : String) (n : Net)

def hand (r : Receiver) (message : Value) : Op Desk Unit := do
  modify fun d => (d.1, d.2 + 1)
  onNet (act r message)

def receive : Op Desk Unit := dispatch onNet (hand act) (.str text)

/-- No receiver fails as a text does that is no JSON. -/
def Clear : Prop := ∀ type r, (type, r) ∈ n.link.receivers → ∀ v m f t,
  act r v m = .error (.fault f) t → f.kind ≠ .decoding

/-- The text is no JSON, and the receiver that is registered for it fails. -/
def Unprotected : Prop :=
  (∃ f, Json.parse text = .error f ∧ f.kind = .decoding) ∧
  ∃ r f t, n.link.receiver? (.str text) = .ok (some r) ∧ act r (record [("type", .str text)])
    { n with rig.log := n.rig.log.push ⟨.warning, "收到非JSON消息: " ++ text⟩ } = .error (.fault f) t

end

variable {act : Receiver → Value → Op Net Unit} {text : String} {n : Net} {d : Desk}
  {E : Exit → Desk → Prop}

theorem wp_registered {Q : Option Receiver → Desk → Prop} (type : Value) :
    wp (registered onNet type) Q E d ↔ match d.1.link.receiver? type with
      | .ok r => Q r d
      | .error f => E (.fault f) d := by
  unfold registered
  change wp (Op.ofExcept (d.1.link.receiver? type)) Q E d ↔ _
  cases d.1.link.receiver? type <;> rfl

theorem wp_hand {Q : Unit → Desk → Prop} (r : Receiver) (message : Value) :
    wp (hand act r message) Q E d ↔ wp (act r message) (fun _ net => Q () (net, d.2 + 1))
      (fun e net => E e (net, d.2 + 1)) d.1 := by
  unfold hand
  exact Op.wp_onPart ..

theorem receive_spec (hact : Clear act n) :
    wp (receive act text) (fun _ d => d.2 ≤ 1 ∧ ¬ Unprotected act text n)
      (fun e d => d.2 ≤ 1 ∧ ((∃ f, e = .fault f) ↔ Unprotected act text n)) (n, 0) := by
  unfold receive dispatch
  rw [wp_guarded]
  cases hread : Json.parse text with
  | error f =>
    simp only [readMessage, hread]
    rw [wp_bind, liftM_except, wp_ofExcept]
    dsimp only
    split
    · next hkind =>
      rw [wp_bind]
      change wp (registered onNet _ >>= _) _ _ _
      rw [wp_bind, wp_registered]
      split
      · next r? hr =>
        cases r? with
        | none =>
          refine ⟨Nat.zero_le 1, ?_⟩
          rintro ⟨-, r, _, _, hr', -⟩
          cases hr.symm.trans hr'
        | some r =>
          rw [wp_hand]
          unfold wp
          split
          · next hres =>
            refine ⟨le_rfl, ?_⟩
            rintro ⟨-, r', f', t, hr', hfails⟩
            cases hr.symm.trans hr'
            cases hres.symm.trans hfails
          · next e t hres =>
            refine ⟨le_rfl, ?_, ?_⟩
            · rintro ⟨f', rfl⟩
              exact ⟨⟨f, hread, hkind⟩, r, f', t, hr, hres⟩
            · rintro ⟨-, r', f', t', hr', hfails⟩
              cases hr.symm.trans hr'
              cases hres.symm.trans hfails
              exact ⟨f', rfl⟩
      · next hf => cases hf
    · next hkind =>
      refine ⟨Nat.zero_le 1, ?_⟩
      rintro ⟨⟨f', hf, hkind'⟩, -⟩
      cases hread.symm.trans hf
      exact hkind hkind'
  | ok v =>
    have hsafe : ¬ Unprotected act text n := by
      rintro ⟨⟨f, hf, -⟩, -⟩
      cases hread.symm.trans hf
    simp only [readMessage, hread]
    change wp (registered onNet _ >>= _) _ _ _
    rw [wp_bind, wp_registered]
    have hcases := n.link.receiver?_cases (typed (.str text) v).1
    split
    · next r? hr =>
      cases r? with
      | none =>
        rw [wp_ite]
        split <;> exact ⟨Nat.zero_le 1, hsafe⟩
      | some r =>
        rw [wp_hand]
        unfold wp
        split
        · exact ⟨le_rfl, hsafe⟩
        · next e t hres =>
          cases e with
          | fault f =>
            obtain ⟨_, hf, -⟩ | ⟨_, hr', hmem⟩ := hcases
            · cases hr.symm.trans hf
            · cases hr.symm.trans hr'
              obtain ⟨type, hmem⟩ := hmem r rfl
              dsimp only
              rw [if_neg (hact type r hmem _ _ _ _ hres)]
              exact ⟨le_rfl, hsafe⟩
          | ended => exact ⟨le_rfl, iff_of_false nofun hsafe⟩
    · next f hf =>
      obtain ⟨_, hf', hkind⟩ | ⟨_, hr, -⟩ := hcases
      · cases hf.symm.trans hf'
        dsimp only
        rw [if_neg (by rw [hkind]; decide)]
        exact ⟨Nat.zero_le 1, hsafe⟩
      · cases hf.symm.trans hr

theorem unprotected_iff (hact : Clear act n) : Unprotected act text n ↔
    ∃ f d, receive act text (n, 0) = .error (.fault f) d := by
  have hspec : wp (receive act text) _ _ (n, 0) := receive_spec hact
  unfold wp at hspec
  split at hspec
  · next hres =>
    refine iff_of_false hspec.2 ?_
    rintro ⟨f, d, hfails⟩
    cases hres.symm.trans hfails
  · next e d hres =>
    rw [← hspec.2]
    constructor
    · rintro ⟨f, rfl⟩
      exact ⟨f, d, hres⟩
    · rintro ⟨f, d', hfails⟩
      cases hres.symm.trans hfails
      exact ⟨f, rfl⟩

/-- Receiving a text calls one receiver at most, and it fails exactly if the text is unprotected. -/
theorem receive_fails_iff (hact : Clear act n) :
    ((∃ f d, receive act text (n, 0) = .error (.fault f) d) ↔ Unprotected act text n) ∧
      wp (receive act text) (fun _ d => d.2 ≤ 1) (fun _ d => d.2 ≤ 1) (n, 0) :=
  ⟨(unprotected_iff hact).symm, wp_mono (receive_spec hact) (fun _ _ h => h.1) fun _ _ h => h.1⟩

def refuse (_ : Receiver) (_ : Value) : Op Net Unit := Op.fail (.unfit "handler failed")

def attended (text : String) : Net where
  link := { address := .ofUrl "", vehicleId := .none, receivers := [(.str text, .service)] }

theorem clear_refuse : Clear refuse n := by
  rintro _ _ - _ _ _ _ ⟨⟩
  decide

/-- What a receiver of JSON fails with is caught. -/
theorem refused_null_caught :
    ¬ ∃ f d, receive refuse "null" (attended "null", 0) = .error (.fault f) d := by
  rw [(receive_fails_iff clear_refuse).1]
  rintro ⟨⟨f, hf, -⟩, -⟩
  cases (show Json.parse "null" = .ok .none by rfl).symm.trans hf

theorem refused_hello_uncaught :
    ∃ f d, receive refuse "hello" (attended "hello", 0) = .error (.fault f) d := by
  refine (unprotected_iff clear_refuse).mp
    ⟨⟨.notJson "Expecting value" 1 1 0, rfl, rfl⟩, .service, _, _, ?_, rfl⟩
  simp [receiver?, attended, hashable, same, Receiver.counts]

end Desk

end Link

end Rover
