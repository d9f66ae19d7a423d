import Rover.Proofs.Executor.Idle
import Rover.Proofs.Link.Sending
import Rover.Station

/-!
# Operations of the station

How operations of the parts of the station act on the whole, and what the station sends to the cloud
in the course of an operation.
-/

namespace Rover.Station

variable {message : Value}

theorem CloudRequest.ofType?_eq_some_iff {v : Value} {r : CloudRequest} :
    ofType? v = some r ↔ v = .str r.type := by
  unfold ofType?
  constructor
  · intro h
    have hsame := List.find?_some h
    exact (Value.same_str_iff v r.type).mp hsame
  · rintro rfl
    cases r <;> simp [all, Value.same, type]

theorem handle_of_entry {type : Value} (htype : entry message "type" .none = .ok type) :
    handle message = (CloudRequest.ofType? type).elim (pure ()) (fulfil · message) := by
  unfold handle
  rw [htype]
  have hbind : ∀ f : Value → Op Station Unit,
      (liftM (.ok type : Result Value) >>= f) = f type := fun _ => rfl
  rw [hbind]
  cases CloudRequest.ofType? type with
  | none => rfl
  | some r => rfl

theorem handle_of_type {r : CloudRequest} (htype : entry message "type" .none = .ok (.str r.type)) :
    handle message = fulfil r message := by
  rw [handle_of_entry htype, CloudRequest.ofType?_eq_some_iff.mpr rfl]
  rfl

section
variable {α : Type} {Q : α → Station → Prop} {E : Exit → Station → Prop} {s : Station}

def onRunner (op : Op Runner α) : Op Station α :=
  Op.onPart Station.runner (fun s r => { s with runner := r }) op

@[simp] theorem wp_onRig (op : Op Rig α) :
    wp (onRig op) Q E s ↔ wp op (fun a rig => Q a { s with runner.vehicle.rig := rig })
      (fun e rig => E e { s with runner.vehicle.rig := rig }) s.runner.vehicle.rig :=
  wp_onPart ..

theorem liftM_runner (op : Op Runner α) : (liftM op : Op Station α) = onRunner op := rfl

@[simp] theorem wp_onRunner (op : Op Runner α) :
    wp (onRunner op) Q E s ↔ wp op (fun a r => Q a { s with runner := r })
      (fun e r => E e { s with runner := r }) s.runner :=
  wp_onPart ..

@[simp] theorem wp_onNet (op : Op Net α) :
    wp (onNet op) Q E s ↔
      wp op (fun a n => Q a { s with link := n.link, runner.vehicle.rig := n.rig })
        (fun e n => E e { s with link := n.link, runner.vehicle.rig := n.rig })
        ⟨s.runner.vehicle.rig, s.link⟩ :=
  wp_onPart ..

end

def asked (entries : Entries) (key : String) (usual : Value) : Value :=
  (Value.lookup? entries (.str key)).getD usual

theorem fulfil_execute {entries : Entries}
    (hdata : entry message "data" (.dict []) = .ok (.dict entries)) : fulfil .execute message = (do
      let s ← get
      onRig (Rig.info ("收到代码执行请求: " ++ (asked entries "execution_id" .none).text))
      if (asked entries "code" .none).truth then
        let _ ← runProgram (asked entries "code" .none) (asked entries "execution_id" .none)
          (asked entries "timeout" s.settings.timeLimit) ⟨pure (), fun _ => pure ()⟩
      else onNet (Link.sendFinished (asked entries "execution_id" .none) (.bool false) .none
        (.str "代码为空"))) := by
  unfold fulfil
  rw [hdata]
  rfl

def sent (s : Station) : List String := s.runner.vehicle.rig.sent

def Says (s : Station) (a : Announcement) (text : String) : Prop :=
  ∃ now : Int, Json.write true (a.signed s.link.vehicleId now) = .ok text

def Sends {α : Type} (op : Op Station α) (s : Station) (announcements : List Announcement) : Prop :=
  ∃ texts, (op.after s).sent = s.sent ++ texts ∧ List.Forall₂ s.Says announcements texts

variable {s : Station}

theorem sends_nil {α : Type} {op : Op Station α} (h : (op.after s).sent = s.sent) : Sends op s [] :=
  ⟨[], h.trans (List.append_nil _).symm, .nil⟩

theorem Sends.length_eq {α : Type} {op : Op Station α} {as bs : List Announcement}
    (h : Sends op s as) (h' : Sends op s bs) : as.length = bs.length := by
  obtain ⟨texts, hsent, hsaid⟩ := h
  obtain ⟨texts', hsent', hsaid'⟩ := h'
  have heq : texts = texts' := List.append_cancel_left (hsent.symm.trans hsent')
  rw [hsaid.length_eq, hsaid'.length_eq, heq]

theorem sent_after_bind {α β : Type} (op : Op Station α) {f : α → Op Station β}
    (hf : ∀ a t, ((f a).after t).sent = t.sent) (s : Station) :
    ((op >>= f).after s).sent = (op.after s).sent := by
  refine (wp_after_iff (P := fun u : Station => u.sent = _)).mp ?_
  rw [wp_bind]
  refine wp_mono ((wp_after_iff (P := fun t => t = op.after s)).mpr rfl)
    (fun a t ht => ?_) fun _ t ht => ?_
  · rw [← ht]
    exact (wp_after_iff (P := fun u : Station => u.sent = t.sent)).mpr (hf a t)
  · rw [ht]

/-- The cloud can be reached: the link is open, the name of the vehicle has a text, and the clock
shows a time. -/
structure Online (s : Station) : Prop where
  link : s.link.isConnected
  named : Writable s.link.vehicleId
  clock : s.runner.vehicle.rig.clock.isFinite

theorem Online.of_link {s t : Station} (h : s.Online) (hlink : t.link = s.link)
    (hclock : t.runner.vehicle.rig.clock.isFinite) : t.Online :=
  ⟨hlink ▸ h.link, hlink ▸ h.named, hclock⟩

theorem Online.exists_announced (h : s.Online) {a : Announcement} (ha : Writable a.data) :
    ∃ text, s.Says a text ∧ ∀ (Q : Unit → Station → Prop) (E : Exit → Station → Prop),
      wp (onNet (Link.send a.message)) Q E s ↔ Q () { s with
        runner.vehicle.rig := if 0 < s.runner.vehicle.rig.pendingFaults
          then s.runner.vehicle.rig.unsent else s.runner.vehicle.rig.posted a.type text } := by
  obtain ⟨now, hnow, hwritable⟩ := Json.toInteger_of_isFinite h.clock
  obtain ⟨text, htext⟩ := Announcement.writable_signed h.named hwritable ha
  refine ⟨text, ⟨now, htext⟩, fun Q E => ?_⟩
  rw [wp_onNet, Link.wp_send (n := ⟨s.runner.vehicle.rig, s.link⟩) h.link hnow htext]

end Rover.Station
