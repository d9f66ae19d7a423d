import Rover.Op

/-!
# Reasoning about operations

`Op.wp` is what has to hold before an operation so that something holds after it, with one
postcondition for an operation that comes to its end and one for an operation that stops early.
`Op.Keeps` says that a property survives an operation however it ends, `Op.Uncut` that it is not cut
short besides, and `Op.runAll` lifts that to every sequence of operations.
-/

namespace Rover.Op

variable {σ τ α β ι : Type}
variable {c : Prop}

def after (op : Op σ α) (s : σ) : σ :=
  match op s with
  | .ok _ t | .error _ t => t

def wp (op : Op σ α) (Q : α → σ → Prop) (E : Exit → σ → Prop) (s : σ) : Prop :=
  match op s with
  | .ok a t => Q a t
  | .error e t => E e t

/-- A condition for an end that does not occur. -/
abbrev never : α → σ → Prop := fun _ _ => False

/-! ## The building blocks -/

section
variable {Q : α → σ → Prop} {E : Exit → σ → Prop} {s : σ} {e : Except Fault β}

@[simp] theorem wp_pure (a : α) : wp (pure a) Q E s ↔ Q a s := Iff.rfl

@[simp] theorem wp_bind (op : Op σ β) (f : β → Op σ α) :
    wp (op >>= f) Q E s ↔ wp op (fun b t => wp (f b) Q E t) E s := by
  unfold wp
  change (match EStateM.bind op f s with
    | .ok a t => Q a t
    | .error e t => E e t) ↔ _
  unfold EStateM.bind
  cases op s <;> rfl

@[simp] theorem wp_map (f : β → α) (op : Op σ β) :
    wp (f <$> op) Q E s ↔ wp op (fun b t => Q (f b) t) E s := by
  unfold wp
  change (match EStateM.map f op s with
    | .ok a t => Q a t
    | .error e t => E e t) ↔ _
  unfold EStateM.map
  cases op s <;> rfl

@[simp] theorem wp_ite {c : Prop} [Decidable c] (op op' : Op σ α) :
    wp (if c then op else op') Q E s ↔ if c then wp op Q E s else wp op' Q E s := by
  split <;> rfl

@[simp] theorem wp_get {Q : σ → σ → Prop} : wp get Q E s ↔ Q s s := Iff.rfl

@[simp] theorem wp_modify {Q : PUnit → σ → Prop} (f : σ → σ) :
    wp (modify f) Q E s ↔ Q ⟨⟩ (f s) := Iff.rfl

@[simp] theorem wp_fail (f : Fault) : wp (fail f) Q E s ↔ E (.fault f) s := Iff.rfl

@[simp] theorem liftM_except (e : Result α) : (liftM e : Op σ α) = ofExcept e := rfl

@[simp] theorem wp_ofExcept (e : Result α) : wp (ofExcept e) Q E s ↔ match e with
      | .ok a => Q a s
      | .error f => E (.fault f) s := by
  cases e <;> rfl

theorem wp_except_bind {f : β → Op σ α}
    (hok : ∀ b, e = .ok b → wp (f b) Q E s) (herror : ∀ f, e = .error f → E (.fault f) s) :
    wp ((liftM e : Op σ β) >>= f) Q E s := by
  cases e with
  | ok b => exact hok b rfl
  | error f => exact herror f rfl

theorem wp_ok_bind {b : β} (h : e = .ok b) (f : β → Op σ α) :
    wp ((liftM e : Op σ β) >>= f) Q E s ↔ wp (f b) Q E s := by
  rw [h]
  rfl

/-- The operation is one of those with the property, unless it refuses and changes nothing. -/
def RefusedOr (P : Op σ α → Prop) (op : Op σ α) : Prop := (∃ f, op = fail f) ∨ P op

theorem RefusedOr.bind {P : Op σ α → Prop} {f : β → Op σ α}
    (h : ∀ b, e = .ok b → RefusedOr P (f b)) : RefusedOr P (liftM e >>= f) := by
  cases e with
  | error g => exact .inl ⟨g, rfl⟩
  | ok b => exact h b rfl

@[simp] theorem wp_guarded (body : Op σ α) (handler : Fault → Op σ α) :
    wp (guarded body handler) Q E s ↔ wp body Q (fun e t => match e with
      | .fault f => wp (handler f) Q E t
      | .ended => E .ended t) s := by
  unfold wp guarded
  rcases body s with _ | ⟨_ | _, _⟩ <;> rfl

@[simp] theorem wp_ignoring {Q : Unit → σ → Prop} (body : Op σ Unit) :
    wp (ignoring body) Q E s ↔ wp body Q (fun e t => match e with
      | .fault _ => Q () t
      | .ended => E .ended t) s :=
  wp_guarded body _

@[simp] theorem wp_attempt {Q : Result α → σ → Prop} (body : Op σ α) :
    wp (attempt body) Q E s ↔ wp body (fun a t => Q (.ok a) t) (fun e t => match e with
      | .fault f => Q (.error f) t
      | .ended => E .ended t) s := by
  unfold attempt
  rw [wp_guarded, wp_bind]
  rfl

@[simp] theorem wp_onPart {Q : α → τ → Prop} {E : Exit → τ → Prop} {t : τ} (read : τ → σ)
    (write : τ → σ → τ) (body : Op σ α) :
    wp (onPart read write body) Q E t ↔
      wp body (fun a s => Q a (write t s)) (fun e s => E e (write t s)) (read t) := by
  unfold wp onPart
  cases body (read t) <;> rfl

theorem onPart_onPart {υ : Type} (read : υ → τ) (write : υ → τ → υ) (read' : τ → σ)
    (write' : τ → σ → τ) (body : Op σ α) :
    onPart read write (onPart read' write' body) =
      onPart (fun u => read' (read u)) (fun u s => write u (write' (read u) s)) body := by
  funext u
  unfold onPart
  cases body (read' (read u)) <;> rfl

structure IsPart (read : τ → σ) (write : τ → σ → τ) : Prop where
  read_write : ∀ t s, read (write t s) = s
  write_write : ∀ t s s', write (write t s) s' = write t s'
  write_read : ∀ t, write t (read t) = t

section
variable {read : τ → σ} {write : τ → σ → τ} (h : IsPart read write)
include h

theorem IsPart.onPart_pure (a : α) : onPart read write (pure a) = pure a := by
  funext t
  exact congrArg (EStateM.Result.ok a) (h.write_read t)

theorem IsPart.onPart_ofExcept (e : Result α) : onPart read write (ofExcept e) = ofExcept e := by
  cases e with
  | ok a => exact h.onPart_pure a
  | error f =>
    funext t
    exact congrArg (EStateM.Result.error (Exit.fault f)) (h.write_read t)

theorem IsPart.onPart_bind (op : Op σ β) (f : β → Op σ α) :
    onPart read write (op >>= f) = onPart read write op >>= fun b => onPart read write (f b) := by
  funext t
  change onPart read write (EStateM.bind op f) t =
    EStateM.bind (onPart read write op) (fun b => onPart read write (f b)) t
  simp only [EStateM.bind, onPart]
  cases op (read t) with
  | ok b s => simp only [h.read_write, h.write_write]
  | error e s => rfl

theorem IsPart.onPart_guarded (body : Op σ α) (handler : Fault → Op σ α) :
    onPart read write (guarded body handler) =
      guarded (onPart read write body) fun f => onPart read write (handler f) := by
  funext t
  simp only [guarded, onPart]
  cases body (read t) with
  | ok a s => rfl
  | error e s =>
    cases e with
    | fault f => simp only [h.read_write, h.write_write]
    | ended => rfl

end

/-! ## Consequences -/

variable {op : Op σ α} {Q' : α → σ → Prop} {t : σ} {f : β → Op σ α} {a : α} {E' : Exit → σ → Prop}

theorem wp_mono (h : wp op Q E s)
    (hQ : ∀ a t, Q a t → Q' a t) (hE : ∀ e t, E e t → E' e t) : wp op Q' E' s := by
  unfold wp at h ⊢
  split at h
  · exact hQ _ _ h
  · exact hE _ _ h

theorem wp_post (h : wp op Q E s) (hQ : ∀ a t, Q a t → Q' a t) : wp op Q' E s :=
  wp_mono h hQ fun _ _ ht => ht

theorem wp_forIn {ι : Type} {I : List ι → σ → Prop} {f : ι → PUnit → Op σ (ForInStep PUnit)}
    (hstep : ∀ i rest s, I (i :: rest) s →
      wp (f i ⟨⟩) (fun step t => step = .yield ⟨⟩ ∧ I rest t) E s)
    {is : List ι} (hs : I is s) : wp (forIn is ⟨⟩ f) (fun _ t => I [] t) E s := by
  induction is generalizing s with
  | nil => exact hs
  | cons i rest ih =>
    rw [List.forIn_cons, wp_bind]
    refine wp_post (hstep i rest s hs) ?_
    rintro _ t ⟨rfl, ht⟩
    exact ih ht

theorem wp_of_total (h : wp op Q never s) (hQ : ∀ a t, Q a t → Q' a t) : wp op Q' E s :=
  wp_mono h hQ fun _ _ hfalse => hfalse.elim

theorem wp_and (h : wp op Q E s)
    (h' : wp op Q' E' s) : wp op (fun a t => Q a t ∧ Q' a t) (fun e t => E e t ∧ E' e t) s := by
  unfold wp at h h' ⊢
  split at h
  · rename_i heq
    rw [heq] at h'
    exact ⟨h, h'⟩
  · rename_i heq
    rw [heq] at h'
    exact ⟨h, h'⟩

theorem wp_of_forall (hQ : ∀ a t, Q a t) (hE : ∀ e t, E e t) : wp op Q E s := by
  unfold wp
  split
  · exact hQ _ _
  · exact hE _ _

@[simp] theorem wp_true (op : Op σ α) : wp op (fun _ _ => True) (fun _ _ => True) s :=
  wp_of_forall (fun _ _ => trivial) fun _ _ => trivial

theorem wp_after_iff {P : σ → Prop} :
    wp op (fun _ t => P t) (fun _ t => P t) s ↔ P (op.after s) := by
  unfold wp after
  cases op s <;> rfl

theorem wp_outcome_iff {R : EStateM.Result Exit σ α → Prop} :
    wp op (fun a t => R (.ok a t)) (fun e t => R (.error e t)) s ↔ R (op s) := by
  unfold wp
  cases op s <;> rfl

theorem wp_false_iff : wp op Q never s ↔ ∃ a t, op s = .ok a t ∧ Q a t := by
  unfold wp
  cases op s with
  | ok a t =>
    refine ⟨fun h => ⟨a, t, rfl, h⟩, ?_⟩
    rintro ⟨_, _, heq, h⟩
    cases heq
    exact h
  | error e t => simp

theorem wp_of_ok (h : op s = .ok a t) : wp op Q E s ↔ Q a t := by
  unfold wp
  rw [h]

theorem wp_of_error {e : Exit} (h : op s = .error e t) : wp op Q E s ↔ E e t := by
  unfold wp
  rw [h]

theorem after_of_ok (h : op s = .ok a t) : op.after s = t := by
  unfold after
  rw [h]

theorem after_of_error {e : Exit} (h : op s = .error e t) : op.after s = t := by
  unfold after
  rw [h]

variable {op : Op σ β}

theorem bind_of_ok {b : β} (h : op s = .ok b t) : (op >>= f) s = f b t := by
  change EStateM.bind op f s = _
  unfold EStateM.bind
  rw [h]

theorem after_bind_of_ok {b : β} (h : op s = .ok b t) : (op >>= f).after s = (f b).after t := by
  unfold after
  rw [bind_of_ok h]

theorem after_bind_of_error {e : Exit} (h : op s = .error e t) : (op >>= f).after s = t := by
  have hbind : (op >>= f) s = .error e t := by
    change EStateM.bind op f s = _
    unfold EStateM.bind
    rw [h]
  exact after_of_error hbind

variable {handler : Fault → Op σ α}

theorem after_guarded_of_fault {body : Op σ α} {f : Fault}
    (h : body s = .error (.fault f) t) : (guarded body handler).after s = (handler f).after t := by
  unfold after guarded
  rw [h]

theorem after_guarded_of_not_fault {body : Op σ α}
    (h : ∀ f t, body s ≠ .error (.fault f) t) : (guarded body handler).after s = body.after s := by
  unfold after guarded
  cases hbody : body s with
  | ok a t => rfl
  | error e t =>
    cases e with
    | fault f => exact absurd hbody (h f t)
    | ended => rfl

theorem exists_of_except_bind {e : Result β}
    (h : ((liftM e : Op σ β) >>= f) s = .ok a t) : ∃ b, e = .ok b ∧ f b s = .ok a t := by
  cases e with
  | ok b => exact ⟨b, rfl, h⟩
  | error f => cases h

def completes (op : Op σ α) (s : σ) : Bool :=
  match op s with
  | .ok _ _ => true
  | .error _ _ => false

def exit? (op : Op σ α) (s : σ) : Option Exit :=
  match op s with
  | .ok _ _ => none
  | .error e _ => some e

theorem exists_result_of_completes (h : op.completes s) : ∃ a t, op s = .ok a t := by
  unfold completes at h
  split at h
  · rename_i a t heq
    exact ⟨a, t, heq⟩
  · cases h

theorem exists_error_of_not_completes (h : op.completes s = false) : ∃ e t, op s = .error e t := by
  unfold completes at h
  split at h
  · cases h
  · rename_i e t heq
    exact ⟨e, t, heq⟩

theorem exists_ok_of_completes {op : Op σ Unit} (h : op.completes s) : ∃ t, op s = .ok () t :=
  let ⟨_, t, heq⟩ := exists_result_of_completes h
  ⟨t, heq⟩

theorem wp_completes {P : Bool → σ → Prop}
    (h : wp op (fun _ => P true) (fun _ => P false) s) : P (op.completes s) (op.after s) := by
  unfold wp at h
  unfold completes after
  cases hop : op s <;> rwa [hop] at h

end

/-! ## What an operation keeps -/

/-- The property survives the operation, however it ends; and the operation is cut short only if
`cut` holds. -/
def Preserves (cut : Prop) (I : σ → Prop) (op : Op σ α) : Prop :=
  ∀ s, I s → wp op (fun _ t => I t) (fun e t => (e = .ended → cut) ∧ I t) s

abbrev Keeps (I : σ → Prop) (op : Op σ α) : Prop := Preserves True I op

abbrev Uncut (I : σ → Prop) (op : Op σ α) : Prop := Preserves False I op

namespace Preserves

variable {I : σ → Prop} {cut : Prop} {op : Op σ α} {body : Op σ α}

theorem wp (h : Preserves c I op) {s : σ} (hs : I s) :
    Op.wp op (fun _ t => I t) (fun _ t => I t) s :=
  wp_mono (h s hs) (fun _ _ ht => ht) fun _ _ ht => ht.2

theorem after (h : Keeps I op) {s : σ} (hs : I s) : I (op.after s) := wp_after_iff.mp (h.wp hs)

theorem keeps (h : Preserves cut I op) : Keeps I op := fun s hs =>
  wp_mono (h s hs) (fun _ _ ht => ht) fun _ _ ht => ⟨fun _ => trivial, ht.2⟩

theorem pure (a : α) : Preserves cut I (Pure.pure a : Op σ α) := fun _ hs => hs

theorem get : Preserves cut I (MonadState.get : Op σ σ) := fun _ hs => hs

theorem fail (f : Fault) : Preserves cut I (Op.fail f : Op σ α) := fun _ hs => ⟨nofun, hs⟩

theorem ofExcept (e : Result α) : Preserves cut I (Op.ofExcept e : Op σ α) := by
  intro s hs
  rw [wp_ofExcept]
  split
  · exact hs
  · exact ⟨nofun, hs⟩

theorem modify {f : σ → σ} (h : ∀ s, I s → I (f s)) : Preserves cut I (modify f : Op σ PUnit) := h

theorem bind {f : α → Op σ β} (hop : Preserves cut I op)
    (hf : ∀ a, Preserves cut I (f a)) : Preserves cut I (op >>= f) := by
  intro s hs
  rw [wp_bind]
  exact wp_post (hop s hs) fun a t ht => hf a t ht

theorem except {e : Result α} {f : α → Op σ β} (hf : ∀ a, Preserves cut I (f a)) :
    Preserves cut I ((liftM e : Op σ α) >>= f) := bind (ofExcept e) hf

theorem map {f : α → β} (hop : Preserves cut I op) :
    Preserves cut I (op >>= fun a => Pure.pure (f a)) := bind hop fun _ => pure _

theorem ite [Decidable c] {op op' : Op σ α} (h : Preserves cut I op) (h' : Preserves cut I op') :
    Preserves cut I (if c then op else op') := by
  split
  · exact h
  · exact h'

theorem when [Decidable c] {op : Op σ Unit} {rest : Unit → Op σ α} (hop : Preserves cut I op)
    (hrest : Preserves cut I (rest ())) :
    Preserves cut I (if c then op >>= rest else rest ()) := ite (bind hop fun _ => hrest) hrest

theorem and {J : σ → Prop} (h : Preserves cut I op) (h' : Keeps J op) :
    Preserves cut (fun s => I s ∧ J s) op := fun s hs =>
  wp_mono (wp_and (h s hs.1) (h' s hs.2)) (fun _ _ ht => ht) fun _ _ ht => ⟨ht.1.1, ht.1.2, ht.2.2⟩

theorem guarded {handler : Fault → Op σ α} (hbody : Preserves cut I body)
    (hhandler : ∀ f, Preserves cut I (handler f)) : Preserves cut I (Op.guarded body handler) := by
  intro s hs
  rw [wp_guarded]
  refine wp_mono (hbody s hs) (fun _ _ ht => ht) fun e t ht => ?_
  cases e with
  | fault f => exact hhandler f t ht.2
  | ended => exact ht

theorem attempt (hbody : Preserves cut I body) : Preserves cut I (Op.attempt body) :=
  guarded (bind hbody fun _ => pure _) fun _ => pure _

theorem onPart {J : τ → Prop} {read : τ → σ} {write : τ → σ → τ}
    (hread : ∀ t, J t → I (read t)) (hwrite : ∀ t s, J t → I s → J (write t s))
    (hbody : Preserves cut I body) : Preserves cut J (Op.onPart read write body) := by
  intro t ht
  rw [wp_onPart]
  exact wp_mono (hbody (read t) (hread t ht)) (fun _ s hs => hwrite t s ht hs)
    fun _ s hs => ⟨hs.1, hwrite t s ht hs.2⟩

end Preserves

variable {I : σ → Prop}

theorem keeps_iff_wp {op : Op σ α} :
    Keeps I op ↔ ∀ s, I s → wp op (fun _ t => I t) (fun _ t => I t) s := by
  refine ⟨fun h s hs => h.wp hs, fun h s hs => ?_⟩
  exact wp_mono (h s hs) (fun _ _ ht => ht) fun _ _ ht => ⟨fun _ => trivial, ht⟩

section
variable {I : σ → Prop} {Q : β → σ → Prop} {op op' : Op σ α} {f : α → Op σ β} {s : σ}
  (h : Keeps I op) (h' : Keeps I op') (hs : I s)
  (hf : ∀ a t, I t → wp (f a) Q (fun _ t => I t) t)

include h hs hf in
theorem wp_bind_of_keeps : wp (op >>= f) Q (fun _ t => I t) s := by
  rw [wp_bind]
  exact wp_post (h.wp hs) hf

include h h' hs hf in
theorem wp_ite_bind_of_keeps [Decidable c] :
    wp (if c then op >>= f else op' >>= f) Q (fun _ t => I t) s := by
  split
  · exact wp_bind_of_keeps h hs hf
  · exact wp_bind_of_keeps h' hs hf

end

theorem keeps_true (op : Op σ α) : Keeps (fun _ => True) op := fun _ _ =>
  wp_of_forall (fun _ _ => trivial) fun _ _ => ⟨fun _ => trivial, trivial⟩

theorem guarded_completes {body : Op σ α} {s : σ}
    (h : wp body (fun _ t => I t) (fun e t => (e = .ended → False) ∧ I t) s) (a : Fault → α) :
    wp (guarded body fun f => pure (a f)) (fun _ t => I t) never s := by
  rw [wp_guarded]
  refine wp_mono h (fun _ _ ht => ht) fun e t ht => ?_
  cases e with
  | fault f => exact ht.2
  | ended => exact ht.1 rfl

/-! ## What an operation gives -/

def Gives (P : α → Prop) (op : Op σ α) : Prop := ∀ s, wp op (fun a _ => P a) (fun _ _ => True) s

theorem Gives.pure {P : α → Prop} {a : α} (h : P a) : Gives P (Pure.pure a : Op σ α) := fun _ => h

theorem Gives.bind {P : α → Prop} {op : Op σ β} {f : β → Op σ α} (h : ∀ b, Gives P (f b)) :
    Gives P (op >>= f) := by
  intro s
  rw [wp_bind]
  exact wp_of_forall (fun b t => h b t) fun _ _ => trivial

/-- Where `I` holds, the operation comes to its end with the result `a`, and then `J` holds. -/
def Returns (I : σ → Prop) (a : α) (J : σ → Prop) (op : Op σ α) : Prop :=
  ∀ s, I s → wp op (fun b t => b = a ∧ J t) never s

namespace Returns

variable {I J K : σ → Prop} {a : α} {b : β}

theorem pure (a : α) : Returns I a I (Pure.pure a : Op σ α) := fun _ hs => ⟨rfl, hs⟩

theorem ofExcept {e : Result α} (he : e = .ok a) : Returns I a I (Op.ofExcept e : Op σ α) := by
  rw [he]
  exact pure a

theorem modify {f : σ → σ} (h : ∀ s, I s → J (f s)) : Returns I () J (modify f : Op σ PUnit) :=
  fun s hs => ⟨rfl, h s hs⟩

theorem bind {op : Op σ β} {f : β → Op σ α} (hop : Returns I b J op) (hf : Returns J a K (f b)) :
    Returns I a K (op >>= f) := by
  intro s hs
  rw [wp_bind]
  refine wp_post (hop s hs) ?_
  rintro _ t ⟨rfl, ht⟩
  exact hf t ht

theorem except_bind {e : Result β} {f : β → Op σ α} (he : e = .ok b)
    (hf : Returns I a J (f b)) : Returns I a J ((liftM e : Op σ β) >>= f) := by
  rw [he]
  exact hf

end Returns

/-! ## Two runs -/

def SameOutcome (R : σ → σ → Prop) : EStateM.Result Exit σ α → EStateM.Result Exit σ α → Prop
  | .ok a s, .ok b t => a = b ∧ R s t
  | .error e s, .error f t => e = f ∧ R s t
  | _, _ => False

variable {x y : EStateM.Result Exit σ α}

theorem SameOutcome.cases {R : σ → σ → Prop} (h : SameOutcome R x y) :
    (∃ a s t, x = .ok a s ∧ y = .ok a t ∧ R s t) ∨
      ∃ e s t, x = .error e s ∧ y = .error e t ∧ R s t := by
  match x, y, h with
  | .ok a s, .ok _ t, ⟨rfl, h⟩ => exact .inl ⟨a, s, t, rfl, rfl, h⟩
  | .error e s, .error _ t, ⟨rfl, h⟩ => exact .inr ⟨e, s, t, rfl, rfl, h⟩

theorem SameOutcome.mono {R S : σ → σ → Prop}
    (h : SameOutcome R x y) (hRS : ∀ s t, R s t → S s t) : SameOutcome S x y := by
  rcases h.cases with ⟨a, s, t, rfl, rfl, hst⟩ | ⟨e, s, t, rfl, rfl, hst⟩
  · exact ⟨rfl, hRS s t hst⟩
  · exact ⟨rfl, hRS s t hst⟩

def Matches (R : σ → σ → Prop) (op op' : Op σ α) : Prop :=
  ∀ s t, R s t → SameOutcome R (op s) (op' t)

abbrev Alike (R : σ → σ → Prop) (op : Op σ α) : Prop := Matches R op op

namespace Matches

variable {R : σ → σ → Prop}

theorem bind {op op' : Op σ α} {f f' : α → Op σ β} (hop : Matches R op op')
    (hf : ∀ a, Matches R (f a) (f' a)) : Matches R (op >>= f) (op' >>= f') := by
  intro s t h
  change SameOutcome R (EStateM.bind op f s) (EStateM.bind op' f' t)
  unfold EStateM.bind
  rcases (hop s t h).cases with ⟨a, s', t', hs, ht, hnext⟩ | ⟨e, s', t', hs, ht, hnext⟩
  · rw [hs, ht]
    exact hf a s' t' hnext
  · rw [hs, ht]
    exact ⟨rfl, hnext⟩

variable {body body' : Op σ α}

theorem guarded {handler handler' : Fault → Op σ α}
    (hbody : Matches R body body') (hhandler : ∀ f, Matches R (handler f) (handler' f)) :
    Matches R (Op.guarded body handler) (Op.guarded body' handler') := by
  intro s t h
  unfold Op.guarded
  rcases (hbody s t h).cases with ⟨a, s', t', hs, ht, hnext⟩ | ⟨e, s', t', hs, ht, hnext⟩
  · rw [hs, ht]
    exact ⟨rfl, hnext⟩
  · rw [hs, ht]
    cases e with
    | fault f => exact hhandler f s' t' hnext
    | ended => exact ⟨rfl, hnext⟩

theorem ite [Decidable c] {op₁ op₂ op₁' op₂' : Op σ α} (h : Matches R op₁ op₁')
    (h' : Matches R op₂ op₂') : Matches R (if c then op₁ else op₂) (if c then op₁' else op₂') := by
  split
  · exact h
  · exact h'

theorem onPart {S : τ → τ → Prop} {read : τ → σ} {write : τ → σ → τ}
    (hread : ∀ s t, S s t → R (read s) (read t))
    (hwrite : ∀ s t a b, S s t → R a b → S (write s a) (write t b)) (hbody : Matches R body body') :
    Matches S (Op.onPart read write body) (Op.onPart read write body') := by
  intro s t h
  unfold Op.onPart
  have hout := hbody _ _ (hread s t h)
  rcases hout.cases with ⟨a, s', t', hs, ht, hnext⟩ | ⟨e, s', t', hs, ht, hnext⟩
  · rw [hs, ht]
    exact ⟨rfl, hwrite s t s' t' h hnext⟩
  · rw [hs, ht]
    exact ⟨rfl, hwrite s t s' t' h hnext⟩

theorem outcome {op : Op σ Unit} {op' : Op σ α} (h : Matches R op (op' >>= fun _ => Pure.pure ()))
    {s t : σ} (hst : R s t) : op'.exit? t = op.exit? s ∧ R (op.after s) (op'.after t) := by
  have hnext : SameOutcome R (op s) (EStateM.bind op' (fun _ => Pure.pure ()) t) := h s t hst
  unfold exit? after
  unfold EStateM.bind at hnext
  cases hop : op s <;> cases hop' : op' t <;> rw [hop, hop'] at hnext
  · exact ⟨rfl, hnext.2⟩
  · exact hnext.elim
  · exact hnext.elim
  · exact ⟨congrArg some hnext.1.symm, hnext.2⟩

theorem pure (a : α) : Alike R (Pure.pure a : Op σ α) := fun _ _ h => ⟨rfl, h⟩

theorem fail (f : Fault) : Alike R (Op.fail f : Op σ α) := fun _ _ h => ⟨rfl, h⟩

theorem ofExcept (e : Result α) : Alike R (Op.ofExcept e : Op σ α) := by
  cases e with
  | ok a => exact pure a
  | error f => exact fail f

theorem modify {f : σ → σ} (h : ∀ s t, R s t → R (f s) (f t)) :
    Alike R (modify f : Op σ PUnit) := fun s t hst => ⟨rfl, h s t hst⟩

theorem except {e : Result α} {f : α → Op σ β} (hf : ∀ a, Alike R (f a)) :
    Alike R ((liftM e : Op σ α) >>= f) := bind (ofExcept e) hf

theorem map {op : Op σ α} {f : α → β} (hop : Alike R op) :
    Alike R (op >>= fun a => Pure.pure (f a)) := bind hop fun _ => pure _

end Matches

namespace Alike

variable {R : σ → σ → Prop}

theorem onPart {R : τ → τ → Prop} {read : τ → σ} {write : τ → σ → τ} (body : Op σ α)
    (hread : ∀ s t, R s t → read s = read t) (hwrite : ∀ s t a, R s t → R (write s a) (write t a)) :
    Alike R (Op.onPart read write body) := by
  intro s t h
  unfold Op.onPart
  rw [hread s t h]
  cases body (read t) with
  | ok a p => exact ⟨rfl, hwrite s t p h⟩
  | error e p => exact ⟨rfl, hwrite s t p h⟩

theorem eq (op : Op σ α) : Alike Eq op := by
  rintro s _ rfl
  cases op s <;> exact ⟨rfl, rfl⟩

theorem and_keeps {I : σ → Prop} {op : Op σ α} (h : Alike R op) (hI : Keeps I op) :
    Alike (fun s t => R s t ∧ I s) op := by
  rintro s t ⟨hst, hs⟩
  have hafter := hI.wp hs
  unfold Op.wp at hafter
  rcases (h s t hst).cases with ⟨a, s', t', heq, heq', hnext⟩ | ⟨e, s', t', heq, heq', hnext⟩
  · rw [heq] at hafter
    rw [heq, heq']
    exact ⟨rfl, hnext, hafter⟩
  · rw [heq] at hafter
    rw [heq, heq']
    exact ⟨rfl, hnext, hafter⟩

end Alike

/-! ## Operations put together from others -/

/-- Operations put together from given ones, from calculations and from attempts. How a program is
put together is found by instances. -/
class inductive Composed (base : (α : Type) → Op σ α → Prop) : {α : Type} → Op σ α → Prop where
  | base {α : Type} {op : Op σ α} (h : base α op) : Composed base op
  | pure {α : Type} (a : α) : Composed base (Pure.pure a)
  | ofExcept {α : Type} (e : Except Fault α) : Composed base (Op.ofExcept e)
  | bind {α β : Type} {op : Op σ β} {f : β → Op σ α} (hop : Composed base op)
      (hf : ∀ b, Composed base (f b)) : Composed base (op >>= f)
  | guarded {α : Type} {body : Op σ α} {handler : Fault → Op σ α} (hbody : Composed base body)
      (hhandler : ∀ f, Composed base (handler f)) : Composed base (Op.guarded body handler)

namespace Composed

variable {base : (α : Type) → Op σ α → Prop}

theorem fail (f : Fault) : Composed base (Op.fail f : Op σ α) := ofExcept (.error f)

theorem except {e : Result α} {f : α → Op σ β} (hf : ∀ a, Composed base (f a)) :
    Composed base ((liftM e : Op σ α) >>= f) := bind (ofExcept e) hf

variable {op : Op σ α}

theorem map {f : α → β} (hop : Composed base op) :
    Composed base (op >>= fun a => Pure.pure (f a)) := bind hop fun _ => pure _

theorem ite [Decidable c] {op op' : Op σ α} (h : Composed base op) (h' : Composed base op') :
    Composed base (if c then op else op') := by
  split
  · exact h
  · exact h'

theorem forIn {γ : Type} {f : ι → γ → Op σ (ForInStep γ)} (h : ∀ i c, Composed base (f i c))
    (is : List ι) (c : γ) : Composed base (ForIn.forIn is c f) := by
  induction is generalizing c with
  | nil => exact pure _
  | cons i rest ih =>
    rw [List.forIn_cons]
    refine bind (h i c) fun step => ?_
    cases step with
    | done c => exact pure _
    | yield c => exact ih c

section
variable {op' : Op σ α} {f : α → Op σ β}

instance (a : α) : Composed base (Pure.pure a : Op σ α) := .pure a

instance (e : Result α) : Composed base (Op.ofExcept e : Op σ α) := .ofExcept e

instance (e : Result α) : Composed base (liftM e : Op σ α) := .ofExcept e

instance (f : Fault) : Composed base (Op.fail f : Op σ α) := .fail f

instance [hop : Composed base op] [hf : ∀ a, Composed base (f a)] : Composed base (op >>= f) :=
  .bind hop hf

instance {c : Prop} [Decidable c] [h : Composed base op] [h' : Composed base op'] :
    Composed base (if c then op else op') := .ite h h'

instance {handler : Fault → Op σ α} [h : Composed base op] [h' : ∀ f, Composed base (handler f)] :
    Composed base (Op.guarded op handler) := .guarded h h'

instance {body : Op σ Unit} [h : Composed base body] : Composed base (ignoring body) :=
  .guarded h fun _ => .pure _

instance {γ : Type} {f : ι → γ → Op σ (ForInStep γ)} [h : ∀ i c, Composed base (f i c)]
    (is : List ι) (c : γ) : Composed base (ForIn.forIn is c f) := .forIn h is c

instance {γ : Type} {f : Nat → γ → Op σ (ForInStep γ)} [∀ i c, Composed base (f i c)]
    (range : Std.Legacy.Range) (c : γ) : Composed base (ForIn.forIn range c f) := by
  rw [Std.Legacy.Range.forIn_eq_forIn_range']
  infer_instance

end

theorem mono {base' : (α : Type) → Op σ α → Prop} (hop : Composed base op)
    (h : ∀ (α : Type) (op : Op σ α), base α op → base' α op) : Composed base' op := by
  induction hop with
  | base hbase => exact .base (h _ _ hbase)
  | pure a => exact .pure a
  | ofExcept e => exact .ofExcept e
  | bind hop hf ihop ihf => exact .bind ihop ihf
  | guarded hbody hhandler ihbody ihhandler => exact .guarded ihbody ihhandler

theorem preserves {cut : Prop} {I : σ → Prop} (hop : Composed base op)
    (hbase : ∀ (α : Type) (op : Op σ α), base α op → Preserves cut I op) : Preserves cut I op := by
  induction hop with
  | base h => exact hbase _ _ h
  | pure a => exact .pure a
  | ofExcept e => exact .ofExcept e
  | bind hop hf ihop ihf => exact .bind ihop ihf
  | guarded hbody hhandler ihbody ihhandler => exact .guarded ihbody ihhandler

theorem alike {R : σ → σ → Prop} (hop : Composed base op)
    (hbase : ∀ (α : Type) (op : Op σ α), base α op → Alike R op) : Alike R op := by
  induction hop with
  | base h => exact hbase _ _ h
  | pure a => exact .pure a
  | ofExcept e => exact .ofExcept e
  | bind hop hf ihop ihf => exact .bind ihop ihf
  | guarded hbody hhandler ihbody ihhandler => exact .guarded ihbody ihhandler

theorem onPart {base' : (α : Type) → Op τ α → Prop} {read : τ → σ} {write : τ → σ → τ}
    (hlens : IsPart read write) (hop : Composed base op)
    (hbase : ∀ (α : Type) (op : Op σ α), base α op → Composed base' (Op.onPart read write op)) :
    Composed base' (Op.onPart read write op) := by
  induction hop with
  | base h => exact hbase _ _ h
  | pure a =>
    rw [hlens.onPart_pure]
    exact .pure a
  | ofExcept e =>
    rw [hlens.onPart_ofExcept]
    exact .ofExcept e
  | bind hop hf ihop ihf =>
    rw [hlens.onPart_bind]
    exact .bind ihop ihf
  | guarded hbody hhandler ihbody ihhandler =>
    rw [hlens.onPart_guarded]
    exact .guarded ihbody ihhandler

end Composed

/-- Operations put together from such as preserve the property. -/
abbrev Safe (cut : Prop) (I : σ → Prop) (op : Op σ α) : Prop :=
  Composed (fun _ => Preserves cut I) op

/-- One statement leads to another; instances find it where the two are the same. -/
class Leads (a b : Prop) : Prop where
  imp : a → b

instance (a : Prop) : Leads a a := ⟨id⟩

/-- Two things are the same; instances find it. -/
class Same {γ : Type} (a b : γ) : Prop where
  eq : a = b

instance {γ : Type} (a : γ) : Same a a := ⟨rfl⟩

/-- Operations put together from such as treat related states alike. -/
abbrev Even (R : σ → σ → Prop) (op : Op σ α) : Prop := Composed (fun _ => Alike R) op

theorem Matches.of_parts {R : σ → σ → Prop} {op : Op σ α} [h : Even R op] : Alike R op :=
  h.alike fun _ _ h => h

section
variable {cut : Prop}

theorem Preserves.of_parts {p : Op σ α} [h : Safe c I p] : Preserves c I p :=
  h.preserves fun _ _ h => h

theorem Preserves.safe {op : Op σ α} (h : Uncut I op) : Safe cut I op :=
  .base fun s hs => wp_mono (h s hs) (fun _ _ ht => ht) fun _ _ ht => ⟨fun he => (ht.1 he).elim, ht.2⟩

instance : Safe cut I (get : Op σ σ) := .base .get

instance {f : σ → σ} [h : ∀ s, Leads (I s) (I (f s))] : Safe cut I (modify f : Op σ PUnit) :=
  .base (.modify fun s => (h s).imp)

theorem Preserves.forIn {γ : Type} {f : ι → γ → Op σ (ForInStep γ)}
    (h : ∀ i c, Preserves cut I (f i c)) (is : List ι) (c : γ) :
    Preserves cut I (ForIn.forIn is c f) := by
  have hloop : Safe cut I (ForIn.forIn is c f) := .forIn (fun i c => .base (h i c)) is c
  exact .of_parts

end

/-! ## Sequences of operations -/

def runAll (act : ι → Op σ α) : List ι → σ → σ
  | [], s => s
  | i :: rest, s => runAll act rest ((act i).after s)

variable {act : ι → Op σ α}

theorem runAll_of_step {is : List ι}
    (h : ∀ i ∈ is, ∀ s, I s → I ((act i).after s)) {s : σ} (hs : I s) : I (runAll act is s) := by
  induction is generalizing s with
  | nil => exact hs
  | cons i rest ih =>
    rw [List.forall_mem_cons] at h
    exact ih h.2 (h.1 s hs)

theorem runAll_keeps (h : ∀ i, Keeps I (act i)) (is : List ι)
    {s : σ} (hs : I s) : I (runAll act is s) :=
  runAll_of_step (fun i _ _ hs => (h i).after hs) hs

end Rover.Op

namespace Rover

export Op (Alike Composed Even Keeps Leads Matches Preserves Returns Safe Same SameOutcome Uncut
  after_of_ok keeps_iff_wp keeps_true liftM_except never runAll_keeps runAll_of_step wp
  wp_after_iff wp_and wp_bind wp_bind_of_keeps wp_except_bind wp_false_iff wp_get wp_guarded wp_ite
  wp_modify wp_mono wp_ofExcept wp_of_error wp_of_forall wp_of_ok wp_of_total wp_ok_bind wp_onPart
  wp_outcome_iff wp_post wp_pure)

end Rover
