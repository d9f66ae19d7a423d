import Rover.Link
import Rover.Proofs.Json
import Rover.Proofs.Rig

/-!
# Sending messages

A message to the cloud carries the name of the vehicle and the time besides its type and its data.
Over an open link it is sent if no fault is pending; otherwise it is lost, and only the log shows
it.
-/

namespace Rover

open Json

open Value (lookup? same toInteger)
variable (l : Link) {now : Int}

@[reducible] def Event.sentText? : Event → Option String
  | .sent text => some text
  | _ => none

namespace Rig

variable (r : Rig)

def sent : List String := r.events.toList.filterMap Event.sentText?

theorem sent_push (e : Event) :
    sent { r with events := r.events.push e } = r.sent ++ e.sentText?.toList := by
  unfold sent
  cases h : e.sentText? <;> simp [h]

theorem sent_push_of_none {e : Event} (he : e.sentText? = none) :
    sent { r with events := r.events.push e } = r.sent := by
  rw [sent_push, he]
  exact List.append_nil _

theorem sent_failed : r.failed.sent = r.sent := sent_push_of_none _ rfl

def posted (type text : String) : Rig :=
  { r with
    events := r.events.push (.sent text)
    log := r.log.push ⟨.debug, "发送消息: " ++ type⟩ }

def unsent : Rig :=
  { r.failed with log := r.log.push ⟨.error, "发送消息失败: " ++ Fault.bus.message⟩ }

/-- The hardware after a message was sent, or lost because a transfer failed or there is no text for
it. -/
def dispatched (type : String) : Result String → Rig
  | .ok text => if 0 < r.pendingFaults then r.unsent else r.posted type text
  | .error f => { r with log := r.log.push ⟨.error, "发送消息失败: " ++ f.message⟩ }

theorem dispatched_time (type : String) (written : Result String) :
    (r.dispatched type written).clock = r.clock ∧
      (r.dispatched type written).deadline = r.deadline ∧
      (r.dispatched type written).sleepsLeft = r.sleepsLeft := by
  cases written with
  | error f => exact ⟨rfl, rfl, rfl⟩
  | ok text =>
    by_cases hfault : 0 < r.pendingFaults
    · simp only [dispatched, if_pos hfault]
      exact ⟨rfl, rfl, rfl⟩
    · simp only [dispatched, if_neg hfault]
      exact ⟨rfl, rfl, rfl⟩

theorem sent_posted (type text : String) : (r.posted type text).sent = r.sent ++ [text] :=
  sent_push ..

theorem sent_unsent : r.unsent.sent = r.sent := r.sent_failed

theorem sent_dispatched (type : String) (written : Result String) :
    (r.dispatched type written).sent =
      r.sent ++ if 0 < r.pendingFaults then [] else written.toOption.toList := by
  cases written with
  | error f =>
    have hnothing : (r.dispatched type (.error f)).sent = r.sent := rfl
    rw [hnothing]
    simp [Except.toOption]
  | ok text =>
    unfold dispatched
    by_cases hfault : 0 < r.pendingFaults
    · simp only [if_pos hfault, sent_unsent, List.append_nil]
    · simp only [if_neg hfault, sent_posted]
      rfl

end Rig

theorem Value.lookup?_append (entries more : Entries) (key : Value) :
    lookup? (entries ++ more) key = (lookup? entries key).or (lookup? more key) := by
  unfold lookup?
  rw [List.find?_append, Option.map_or]

namespace Link

variable (key : String) (v : Value) (entries : Entries)

theorem lookup?_withLabel_self :
    lookup? (withLabel key v entries) (.str key) = some ((lookup? entries (.str key)).getD v) := by
  unfold withLabel
  cases hkey : lookup? entries (.str key) with
  | some old => exact hkey
  | none =>
    rw [if_neg (by simp), Value.lookup?_append, hkey]
    simp [lookup?, same]

theorem lookup?_withLabel_of_not_same {other : Value} (h : same (.str key) other = false) :
    lookup? (withLabel key v entries) other = lookup? entries other := by
  unfold withLabel
  split
  · rfl
  · simp [lookup?, h]

theorem lookup?_timestamp_withLabel :
    lookup? (withLabel "vehicle_id" v entries) (.str "timestamp") =
      lookup? entries (.str "timestamp") :=
  lookup?_withLabel_of_not_same _ _ _ (by simp [same])

theorem complete_dict (now : Int) :
    complete l (.ok now) (.dict entries) = .ok (.dict (labelled l now entries)) := by
  simp only [complete]
  split
  · rename_i htime
    have hadd := withLabel.eq_1 "timestamp" (.int now) (withLabel "vehicle_id" l.vehicleId entries)
    rw [lookup?_timestamp_withLabel, if_pos htime] at hadd
    rw [labelled, hadd]
    rfl
  · rfl

end Link

structure Announcement where
  type : String
  data : Value

namespace Announcement

variable (a : Announcement)

def entries : Entries :=
  [(.str "type", .str a.type), (.str "data", a.data)]

def message : Value := .dict a.entries

def signed (vehicleId : Value) (now : Int) : Value :=
  record [("type", .str a.type), ("data", a.data), ("vehicle_id", vehicleId),
    ("timestamp", .int now)]

theorem writable_signed {a : Announcement} {vehicleId : Value} (hid : Writable vehicleId)
    (hnow : Writable (.int now)) (hdata : Writable a.data) : Writable (a.signed vehicleId now) := by
  refine (writable_record_iff _).mpr ?_
  simp [hid, hnow, hdata, writable_str]

theorem labelled_entries (now : Int) :
    Value.dict (l.labelled now a.entries) = a.signed l.vehicleId now := by
  simp [Link.labelled, Link.withLabel, lookup?, same, record, signed, entries]

theorem type_labelled (now : Int) :
    lookup? (l.labelled now a.entries) (.str "type") = some (.str a.type) := by
  simp [Link.labelled, Link.withLabel, lookup?, same, entries]

theorem complete_of_error (f : Fault) : l.complete (.error f) a.message = .error f := by
  have htime : lookup? a.entries (.str "timestamp") = none := by
    simp [lookup?, same, entries]
  unfold Link.complete message
  simp only [htime]
  rfl

end Announcement

theorem Net.wp_liftM {α : Type} {Q : α → Net → Prop} {E : Exit → Net → Prop} {n : Net}
    (op : Op Rig α) :
    wp (liftM op : Op Net α) Q E n ↔
      wp op (fun a r => Q a { n with rig := r }) (fun e r => E e { n with rig := r }) n.rig :=
  wp_onPart ..

namespace Link

variable {Q : Unit → Net → Prop} {E : Exit → Net → Prop} {n : Net}

theorem wp_send_complete {entries sent : Entries} (hlink : n.link.isConnected)
    (hsent : n.link.complete (toInteger (.float n.rig.clock)) (.dict entries) =
      .ok (.dict sent)) : wp (send (.dict entries)) Q E n ↔ Q () { n with
      rig := n.rig.dispatched ((lookup? sent (.str "type")).getD .none).text
        (write true (.dict sent)) } := by
  unfold send
  rw [wp_bind, wp_get, wp_ite, if_pos hlink, wp_bind, wp_get, wp_bind,
    liftM_except, hsent, wp_ofExcept]
  change wp (Op.guarded (do
      let text ← write true (.dict sent)
      liftM Rig.meetFault
      liftM (Rig.emit (.sent text))
      liftM (Rig.debug ("发送消息: " ++ ((lookup? sent (.str "type")).getD .none).text)))
    fun f => liftM (Rig.error ("发送消息失败: " ++ f.message))) Q E n ↔ _
  cases write true (.dict sent) with
  | error f => exact Iff.rfl
  | ok text =>
    simp only [wp_guarded, wp_bind, liftM_except, wp_ofExcept, Net.wp_liftM,
      Rig.wp_meetFault_iff, wp_emit, Rig.wp_error, Rig.dispatched]
    by_cases hfault : 0 < n.rig.pendingFaults
    · rw [if_pos hfault, if_pos hfault]
      rfl
    · rw [if_neg hfault, if_neg hfault]
      rfl

theorem wp_send_dict (hlink : n.link.isConnected) (hnow : toInteger (.float n.rig.clock) = .ok now)
    (entries : Entries) :
    wp (send (.dict entries)) Q E n ↔ Q () { n with
      rig := n.rig.dispatched
        ((lookup? (n.link.labelled now entries) (.str "type")).getD .none).text
        (write true (.dict (n.link.labelled now entries))) } := by
  refine wp_send_complete hlink ?_
  rw [hnow, complete_dict]

theorem wp_send_incomplete {f : Fault} {message : Value} (hlink : n.link.isConnected)
    (hfail : n.link.complete (toInteger (.float n.rig.clock)) message = .error f) :
    wp (send message) Q E n ↔ E (.fault f) n := by
  unfold send
  rw [wp_bind, wp_get, wp_ite, if_pos hlink, wp_bind, wp_get, hfail]
  exact Iff.rfl

theorem wp_send_closed (hlink : ¬ n.link.isConnected) (message : Value) :
    wp (send message) Q E n ↔ Q () { n with
      rig.log := n.rig.log.push ⟨.warning, "未连接到云端，无法发送消息"⟩ } := by
  unfold send
  rw [wp_bind, wp_get, wp_ite, if_neg hlink, Net.wp_liftM, wp_warn]

theorem wp_send {a : Announcement} {text : String} (hlink : n.link.isConnected)
    (hnow : toInteger (.float n.rig.clock) = .ok now)
    (htext : write true (a.signed n.link.vehicleId now) = .ok text) :
    wp (send a.message) Q E n ↔ Q () { n with
      rig := if 0 < n.rig.pendingFaults then n.rig.unsent else n.rig.posted a.type text } := by
  unfold Announcement.message
  rw [wp_send_dict hlink hnow, a.labelled_entries, a.type_labelled, htext]
  rfl

theorem send_lost {a : Announcement} (h : n.link.isConnected → n.rig.clock.isFinite →
      ∀ now text, write true (a.signed n.link.vehicleId now) ≠ .ok text) :
    wp (send a.message) (fun _ m => ∃ log, m = { n with rig.log := log })
      (fun _ m => ∃ log, m = { n with rig.log := log }) n := by
  by_cases hlink : n.link.isConnected
  · cases hnow : toInteger (.float n.rig.clock) with
    | ok now =>
      have htext := h hlink (isFinite_of_toInteger hnow) now
      unfold Announcement.message
      rw [wp_send_dict hlink hnow, a.labelled_entries]
      cases hwritten : write true (a.signed n.link.vehicleId now) with
      | ok text => exact absurd hwritten (htext text)
      | error f => exact ⟨_, rfl⟩
    | error f =>
      rw [wp_send_incomplete hlink (by rw [hnow, a.complete_of_error])]
      exact ⟨_, rfl⟩
  · rw [wp_send_closed hlink]
    exact ⟨_, rfl⟩

end Link

end Rover
