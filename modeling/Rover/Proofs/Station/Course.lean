import Rover.Proofs.Link.Operations
import Rover.Proofs.Station.Exchange

/-!
# The course of events

What can happen to the link of a station: the vehicle uses it, its sockets report, time passes, and
browsers and the cloud ask for something. Only few of these events change the link, and the
requests are not among them, whatever they make the vehicle do.
-/

namespace Rover

open Link Sensors Rig

set_option synthInstance.maxSize 1000000000

instance : Composed Rig.Elementary all := by
  unfold all distanceCm onLine lineLeft lineRight
    crossing lost lowBattery
  infer_instance

/-! ## What the link does without a message -/

namespace Net

def Sent (texts : List String) (n : Net) : Prop := n.rig.Sent texts

variable (texts : List String)

instance : Reticent (Sent texts) where
  logged _ _ h := h
  recorded n _ he h := (n.rig.sent_push_of_none he).trans h
  failed n h := n.rig.sent_failed.trans h
  notices _ _ h := h

instance (f : Link → Link) : Safe True (Sent texts) (update f) := .base (.modify fun _ hn => hn)

instance (t : Value) : Safe True (Sent texts) (liftM (sleep t) : Op Net Unit) :=
  .base (.onPart (fun _ hn => hn) (fun _ _ _ hr => hr) (.of_parts (p := sleep t)))

instance : Safe True (Sent texts) startHeartbeat := by
  unfold startHeartbeat stopHeartbeat startTimer
  infer_instance

instance : Safe True (Sent texts) Link.connect := by
  unfold Link.connect info warn
  infer_instance

instance : Safe True (Sent texts) opened := by
  unfold opened startTimer info
  infer_instance

instance (code reason : Value) : Safe True (Sent texts) (closed code reason) := by
  unfold closed stopHeartbeat info warn error
  infer_instance

instance : Safe True (Sent texts) Link.disconnect := by
  unfold Link.disconnect stopHeartbeat
  infer_instance

end Net

def Net.Over (P : Link → Prop) (n : Net) : Prop := P n.link ∧ n.rig.Unlimited

namespace Station

open Rig (Hardy)

def Holds (P : Link → Prop) (s : Station) : Prop := P s.link ∧ s.runner.vehicle.rig.Unlimited

section
variable {α : Type} {P : Link → Prop} {op : Op Runner α}

theorem keeps_onNet {op : Op Net α} (h : Keeps (Net.Over P) op) : Keeps (Holds P) (onNet op) :=
  .onPart (fun _ hs => hs) (fun _ _ _ hn => hn) h

theorem keeps_onRig {op : Op Rig α} (h : Keeps Unlimited op) : Keeps (Holds P) (onRig op) :=
  .onPart (fun _ hs => hs.2) (fun _ _ hs hr => ⟨hs.1, hr⟩) h

theorem keeps_onRunner (h : Keeps (Runner.Holds Unlimited) op) : Keeps (Holds P) (onRunner op) :=
  .onPart (fun _ hs => hs.2) (fun _ _ hs hr => ⟨hs.1, hr⟩) h

theorem keeps_emit (e : Event) : Keeps (Holds P) (onRig (emit e)) :=
  keeps_onRig (.modify fun _ hr => { hr with })

class Unminding (P : Link → Prop) : Prop where
  imp : ∀ (l : Link) notices receivers, P l → P { l with notices, receivers }

class Untimed (P : Link → Prop) : Prop extends Unminding P where
  timers : ∀ (l : Link) timers nextTimer heartbeat, P l → P { l with timers, nextTimer, heartbeat }

/-! ## What requests are made of -/

def Silent (op : Op Station α) : Prop := ∀ texts, Keeps (fun s => s.sent = texts) op

theorem silent_onRig {op : Op Rig α} (h : ∀ texts, Keeps (Rig.Sent texts) op) : Silent (onRig op) :=
  fun texts => .onPart (fun _ hs => hs) (fun _ _ _ hr => hr) (h texts)

theorem silent_onRunner
    (h : ∀ texts, Keeps (Runner.Holds (Rig.Sent texts)) op) : Silent (onRunner op) :=
  fun texts => .onPart (fun _ hs => hs) (fun _ _ _ hr => hr) (h texts)

theorem silent_onNet {op : Op Net α} (h : ∀ texts, Keeps (Net.Sent texts) op) : Silent (onNet op) :=
  fun texts => .onPart (fun _ hs => hs) (fun _ _ _ hn => hn) (h texts)

/-- An object is sent, or something is done that sends nothing and does not change what is known of
the link. -/
inductive Deed (P : Link → Prop) : (α : Type) → Op Station α → Prop where
  | send (entries : Entries) : Deed P Unit (onNet (send (.dict entries)))
  | silent {α : Type} {op : Op Station α} (hkeeps : Keeps (Holds P) op) (hsilent : Silent op) :
      Deed P α op

instance : Composed (Deed P) (get : Op Station Station) := .base (.silent .get fun _ => .get)

instance {op : Op Rig α} [h : Composed Rig.Elementary op] : Composed (Deed P) (onRig op) :=
  .base (.silent (keeps_onRig (h.preserves Hardy.keeps))
    (silent_onRig fun _ => h.preserves Hardy.keeps))

instance {op : Op Rig α} [Composed Rig.Elementary op] :
    Composed (Deed P) (liftM op : Op Station α) :=
  inferInstanceAs (Composed _ (onRig op))

instance (name : String) (data : Record) : Composed (Deed P) (tellBrowsers name data) :=
  .base (.silent (keeps_emit _) (silent_onRig fun _ => Rig.Aloof.keeps_emit rfl))

theorem composed_runner (hlims : Keeps (Runner.Holds Unlimited) op)
    (hsent : ∀ texts, Keeps (Runner.Holds (Rig.Sent texts)) op) :
    Composed (Deed P) (liftM op : Op Station α) :=
  .base (.silent (keeps_onRunner hlims) (silent_onRunner hsent))

instance (code execution limit : Value) :
    Composed (Deed P) (liftM (Runner.start Runner.undisturbed code execution limit)) :=
  composed_runner (Runner.keeps_unlimited_start _ _ _) fun _ =>
    Runner.keeps_start (fun _ _ hr => hr) (fun _ => none) _ _ _

instance : Composed (Deed P) (liftM Runner.stop) := composed_runner .of_parts fun _ => .of_parts

instance : Composed (Deed P) (liftM Runner.emergencyStop) :=
  composed_runner .of_parts fun _ => .of_parts

theorem composed_send (entries : Entries) : Composed (Deed P) (onNet (send (.dict entries))) :=
  .base (.send entries)

instance (fields : Record) : Composed (Deed P) (liftM (send (record fields))) :=
  composed_send _

theorem composed_link {op : Op Net α} (hkeeps : Keeps (Net.Over P) op)
    (hsent : ∀ texts, Keeps (Net.Sent texts) op) : Composed (Deed P) (onNet op) :=
  .base (.silent (keeps_onNet hkeeps) (silent_onNet hsent))

instance {op : Op Rig α} [h : Composed Rig.Elementary op] :
    Composed (Deed P) (onNet (liftM op)) :=
  composed_link (.onPart (fun _ hn => hn.2) (fun _ _ hn hr => ⟨hn.1, hr⟩)
      (h.preserves Hardy.keeps))
    fun _ => .onPart (fun _ hn => hn) (fun _ _ _ hr => hr) (h.preserves Hardy.keeps)

/-! ## Requests -/

instance (code execution limit : Value) (a : Audience) [Composed (Deed P) a.started]
    [∀ report, Composed (Deed P) (a.finished report)] :
    Composed (Deed P) (runProgram code execution limit a) := by
  unfold runProgram sendStarted sendFinished sendData
  infer_instance

instance : Composed (Deed P) picture := by
  refine .bind inferInstance fun s => ?_
  cases s.runner.vehicle.vision.frame <;> infer_instance

instance (withLink : Bool) : Composed (Deed P) (selfReport withLink) := by
  unfold selfReport
  infer_instance

instance (id : Value) : Composed (Deed P) (sendSnapshot id) := by
  unfold sendSnapshot sendPicture sendData
  refine .guarded (.bind inferInstance fun raster => ?_) inferInstance
  cases raster <;> infer_instance

instance (request : CloudRequest) (message : Value) :
    Composed (Deed P) (fulfil request message) := by
  unfold fulfil sendFinished sendStopped sendEmergencyStop sendData
  cases request <;> infer_instance

theorem composed_handle (message : Value) : Composed (Deed P) (handle message) := by
  refine .except fun type => ?_
  cases CloudRequest.ofType? type <;> infer_instance

theorem composed_execute (request : Value) : Composed (Deed P) (execute request) := by
  unfold execute
  infer_instance

theorem composed_stop (request : Value) : Composed (Deed P) (stop request) := by
  unfold stop sendStopped sendData
  infer_instance

theorem composed_emergencyStop : Composed (Deed P) emergencyStop := by
  unfold emergencyStop sendEmergencyStop sendData
  infer_instance

/-! ## What the link keeps -/

variable [hP : Unminding P]

instance : Net.Quiet (Net.Over P) where
  rig _ _ _ hdue hleft hn := ⟨hn.1, hdue.trans hn.2.deadline, hleft.trans hn.2.sleepsLeft⟩
  notices n notices hn := ⟨hP.imp _ notices n.link.receivers hn.1, hn.2⟩

instance {P : Link → Prop} [hP : Untimed P] : Net.Timeless (Net.Over P) where
  clock _ _ hn := ⟨hn.1, hn.2.deadline, hn.2.sleepsLeft⟩
  timers n timers nextTimer heartbeat hn := ⟨hP.timers n.link timers nextTimer heartbeat hn.1, hn.2⟩

theorem Deed.keeps (α : Type) (op : Op Station α) (h : Deed P α op) : Keeps (Holds P) op := by
  cases h with
  | send entries => exact keeps_onNet .of_parts
  | silent hkeeps hsilent => exact hkeeps

theorem composed_give (r : Receiver) (message : Value) :
    Composed (Deed P) (give onNet handle r message) := by
  have hnotices := (inferInstance : Net.Quiet (Net.Over P)).notices
  cases r with
  | service => exact composed_handle message
  | journal type refusal =>
    cases refusal with
    | none =>
      exact composed_link (.bind (.modify fun n hn => hnotices n _ hn) fun _ => .pure _)
        fun _ => .bind (.modify fun _ hn => hn) fun _ => .pure _
    | some f =>
      exact composed_link (.bind (.modify fun n hn => hnotices n _ hn) fun _ => .fail f)
        fun _ => .bind (.modify fun _ hn => hn) fun _ => .fail f
  | inert v => exact .fail _

theorem composed_receive (text : Value) : Composed (Deed P) (receive onNet handle text) := by
  have hgive := composed_give (P := P)
  have hget : Composed (Deed P) (onNet do return (← get).link) :=
    composed_link (.map .get) fun _ => .map .get
  unfold receive dispatch registered
  refine .guarded (.bind inferInstance fun message => .bind inferInstance fun _ => ?_) fun f => ?_
  · refine .bind inferInstance fun r => ?_
    cases r <;> infer_instance
  · refine .ite (.bind inferInstance fun _ => .bind inferInstance fun r => ?_) inferInstance
    cases r <;> infer_instance

end

/-! ## Events -/

inductive Happening where
  | connect
  | disconnect
  | heard (socket : Nat) (event : Link.SocketEvent)
  | served
  | elapsed (duration : Value)
  | fired (target : Float) (most : Nat)
  | sent (message : Value)
  | disturbed (faults : Int)
  | listened (onConnect onDisconnect onError : Option Listener)
  | registered (type : Value) (receiver : Receiver)
  | addressed (message : Value)
  | execute (request : Value)
  | stop (request : Value)
  | emergencyStop

namespace Happening

def op : Happening → Op Station Unit
  | connect => onNet Link.connect
  | disconnect => onNet Link.disconnect
  | heard socket event => hear onNet handle socket event
  | served => onNet runSocket
  | elapsed duration => onNet (elapse duration)
  | fired target most => onNet (fireUntil target most)
  | sent message => onNet (send message)
  | disturbed faults => modify fun s => { s with runner.vehicle.rig.pendingFaults := faults }
  | listened onConnect onDisconnect onError =>
    onNet (setListeners onConnect onDisconnect onError)
  | registered type receiver => onNet (register type receiver)
  | addressed message => handle message
  | execute request => do let _ ← Station.execute request
  | stop request => do let _ ← Station.stop request
  | emergencyStop => do let _ ← Station.emergencyStop

def isAside : Happening → Bool
  | heard _ (.received _) | heard _ (.errored _) | served | sent _ | disturbed _ | registered ..
  | addressed _ | execute _ | stop _ | emergencyStop => true
  | _ => false

theorem composed_of_isAside {P : Link → Prop} [hP : Unminding P] {h : Happening}
    (haside : h.isAside)
    (hobject : ∀ message, h = .sent message → ∃ entries, message = .dict entries) :
    Composed (Deed P) h.op := by
  cases h with
  | heard socket event =>
    cases event with
    | received text => exact composed_receive text
    | errored error => exact composed_link .of_parts fun _ => .of_parts
    | opened => cases haside
    | closed code reason => cases haside
  | served => exact composed_link .of_parts fun _ => .of_parts
  | sent message =>
    obtain ⟨entries, rfl⟩ := hobject message rfl
    exact composed_send entries
  | disturbed faults =>
    refine .base (.silent (.modify fun s hs => ?_) fun _ => .modify fun s hs => hs)
    exact ⟨hs.1, hs.2.deadline, hs.2.sleepsLeft⟩
  | registered type receiver =>
    refine composed_link (.except fun _ => .modify fun n hn => ?_)
      fun _ => .except fun _ => .modify fun n hn => hn
    exact ⟨hP.imp n.link n.link.notices _ hn.1, hn.2⟩
  | addressed message => exact composed_handle message
  | execute request => exact .map (composed_execute request)
  | stop request => exact .map (composed_stop request)
  | emergencyStop => exact .map composed_emergencyStop
  | _ => cases haside

theorem keeps_of_isAside {P : Link → Prop} [Unminding P] {h : Happening}
    (haside : h.isAside) : Keeps (Holds P) h.op := by
  by_cases hsent : ∃ message, h = .sent message
  · obtain ⟨message, rfl⟩ := hsent
    exact keeps_onNet .of_parts
  · have hop := composed_of_isAside (P := P) haside fun message hm => absurd ⟨message, hm⟩ hsent
    exact hop.preserves Deed.keeps

end Happening

/-- The station when it starts: its link has just been made, and nothing cuts sleeps short. -/
structure Fresh (s : Station) : Prop where
  link : ∃ url vehicleId trusting, Link.new url vehicleId trusting = .ok s.link
  limits : s.runner.vehicle.rig.Unlimited

theorem Fresh.exists_link {s : Station} (h : s.Fresh) :
    ∃ address vehicleId trusting, s.link = { address, vehicleId, trusting } := by
  obtain ⟨url, vehicleId, trusting, hnew⟩ := h.link
  cases url with
  | str text => exact ⟨_, _, _, (Except.ok.inj hnew).symm⟩
  | _ => cases hnew

def unlinked : Station where
  link := { address := .ofUrl "http://lanser.fun", vehicleId := .str "vehicle-001" }

theorem fresh_unlinked : unlinked.Fresh where
  link := ⟨.str "http://lanser.fun", .str "vehicle-001", false, rfl⟩
  limits := ⟨rfl, rfl⟩

def Becomes (l : Link) (t : Station) : Prop :=
  Holds (fun l' => ∃ notices, l' = { l with notices }) t

theorem Becomes.holds {P : Link → Prop} [hP : Unminding P] {l : Link} {t : Station}
    (h : Becomes l t) (hl : P l) : Holds P t := by
  obtain ⟨⟨notices, hlink⟩, hlims⟩ := h
  refine ⟨?_, hlims⟩
  rw [hlink]
  exact hP.imp l notices l.receivers hl

theorem becomes_of_told {s : Station} {op : Op Net Unit} {n : Net} (hn : n.rig.Unlimited)
    (h : wp op (fun _ m => n.Told m) (fun _ m => n.Told m) ⟨s.runner.vehicle.rig, s.link⟩) :
    Becomes n.link ((onNet op).after s) := by
  refine wp_after_iff.mp ?_
  rw [wp_onNet]
  refine wp_mono h (fun _ m hm => ?_) fun _ m hm => ?_
  all_goals
    obtain ⟨_, notices, rfl⟩ := hm
    exact ⟨⟨notices, rfl⟩, hn.deadline, hn.sleepsLeft⟩

section
variable {s : Station} (hs : s.runner.vehicle.rig.Unlimited)
include hs

theorem connect_becomes : Becomes s.link.connected (Happening.connect.op.after s) :=
  becomes_of_told { hs with } (wp_of_total Link.connect_spec fun _ _ h => h)

theorem opened_becomes (socket : Nat) :
    Becomes (s.link.up s.runner.vehicle.rig.clock) ((Happening.heard socket .opened).op.after s) :=
  becomes_of_told hs opened_spec

theorem disconnect_becomes :
    Becomes (if s.link.socket.isSome then s.link.down else s.link.silenced)
      (Happening.disconnect.op.after s) := by
  refine wp_after_iff.mp ?_
  change wp (onNet Link.disconnect) _ _ s
  rw [wp_onNet, wp_disconnect]
  by_cases hsock : s.link.socket.isSome
  · rw [if_pos hsock, if_pos hsock]
    exact ⟨⟨_, rfl⟩, hs.deadline, hs.sleepsLeft⟩
  · rw [if_neg hsock, if_neg hsock]
    exact ⟨⟨_, rfl⟩, hs⟩

theorem closed_becomes (socket : Nat) (code reason : Value) :
    let t := (Happening.heard socket (.closed code reason)).op.after s
    if s.link.tries then
      Becomes (connected { s.link.down with reconnects := s.link.reconnects + 1 }) t ∧
        t.runner.vehicle.rig.events = (s.runner.vehicle.rig.events.push
          (.slept (.int (reconnectDelay (s.link.reconnects + 1))))).push s.link.making
    else Becomes s.link.down t ∧ t.runner.vehicle.rig.events = s.runner.vehicle.rig.events := by
  intro t
  have hcloses : Link.Closes ⟨s.runner.vehicle.rig, s.link⟩ ⟨t.runner.vehicle.rig, t.link⟩ := by
    refine (wp_after_iff
      (P := fun t : Station => Link.Closes _ ⟨t.runner.vehicle.rig, t.link⟩)).mp ?_
    change wp (onNet (closed code reason)) _ _ s
    rw [wp_onNet]
    exact closed_spec hs code reason
  unfold Link.Closes at hcloses
  by_cases htries : s.link.tries
  · rw [if_pos htries] at hcloses ⊢
    exact ⟨⟨hcloses.link, hcloses.unlimited⟩, hcloses.events⟩
  · rw [if_neg htries] at hcloses ⊢
    obtain ⟨log, notices, ht⟩ := hcloses
    have hlink : t.link = { s.link.down with notices } := congrArg Net.link ht
    have hrig : t.runner.vehicle.rig = { s.runner.vehicle.rig with log } :=
      congrArg Net.rig ht
    refine ⟨⟨⟨notices, hlink⟩, ?_⟩, ?_⟩
    · rw [hrig]
      exact { hs with }
    · rw [hrig]

theorem closed_holds {P : Link → Prop} [Unminding P] (socket : Nat) (code reason : Value)
    (hagain : s.link.tries →
      P (connected { s.link.down with reconnects := s.link.reconnects + 1 }))
    (hdown : ¬ s.link.tries → P s.link.down) :
    Holds P ((Happening.heard socket (.closed code reason)).op.after s) := by
  have hclosed := closed_becomes hs socket code reason
  by_cases htries : s.link.tries
  · rw [if_pos htries] at hclosed
    exact hclosed.1.holds (hagain htries)
  · rw [if_neg htries] at hclosed
    exact hclosed.1.holds (hdown htries)

end

end Station

end Rover
