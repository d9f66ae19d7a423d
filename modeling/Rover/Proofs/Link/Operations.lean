import Rover.Proofs.Link.Sending

/-!
# The operations of the link

Each operation of the link is described once: what becomes of the link, as a function of what it was,
and what is recorded. Whoever listens may be told something along the way, which shows in the log
or in the journal only.
-/

namespace Rover

namespace Link

variable (l : Link)

def timed (due : Float) (task : TimerTask) : Link :=
  { l with timers := l.timers ++ [⟨l.nextTimer, due, task⟩], nextTimer := l.nextTimer + 1 }

def silenced : Link :=
  { l with timers := l.timers.filter (some ·.id != l.heartbeat), heartbeat := none }

def beating (now : Float) : Link :=
  { l.silenced.timed (now + heartbeatInterval) .heartbeat with
    heartbeat := some l.silenced.nextTimer }

def up (now : Float) : Link :=
  (timed { l with running := true, reconnects := 0 } (now + 0.1) .register).beating now

def down : Link := { l.silenced with running := false }

def connected : Link := { l with socket := some l.sockets, sockets := l.sockets + 1 }

def deaf : Option Listener → Bool
  | some (.inert _) => true
  | _ => false

/-- Whether a new socket is made when this one closes: whoever listens can be told, and attempts are
left. -/
def tries : Bool := !deaf l.onDisconnect && decide (l.reconnects < mostReconnects)

def making : Event :=
  .socket l.address.socketUrl (record [("X-Vehicle-ID", l.vehicleId)])

end Link

namespace Net

def connected (n : Net) : Net where
  rig := { n.rig with events := n.rig.events.push n.link.making }
  link := n.link.connected

def hungUp (n : Net) : Net := { n with link := n.link.down }

def Told (n m : Net) : Prop :=
  ∃ log notices, m = { rig := { n.rig with log }, link := { n.link with notices } }

theorem told_refl (n : Net) : n.Told n := ⟨_, _, rfl⟩

theorem told_logged (n : Net) (log : Array LogRecord) : n.Told { n with rig.log := log } :=
  ⟨log, _, rfl⟩

theorem Told.trans {n m p : Net} (h : n.Told m) (h' : m.Told p) : n.Told p := by
  obtain ⟨_, _, rfl⟩ := h
  obtain ⟨_, _, rfl⟩ := h'
  exact ⟨_, _, rfl⟩

theorem Told.unlimited {n m : Net} (h : n.Told m) (hn : n.rig.Unlimited) : m.rig.Unlimited := by
  obtain ⟨_, _, rfl⟩ := h
  exact { hn with }

section
variable {Q : Unit → Net → Prop} {E : Exit → Net → Prop} {n : Net}

@[simp] theorem wp_update (f : Link → Link) :
    wp (update f) Q E n ↔ Q () { n with link := f n.link } := Iff.rfl

end

end Net

namespace Link

/-- Without a noted timer none is cancelled. -/
theorem silenced_of_none {l : Link} (h : l.heartbeat = none) : l.silenced = l := by
  have hall : l.timers.filter (fun t => some t.id != none) = l.timers :=
    List.filter_eq_self.mpr fun _ _ => rfl
  unfold silenced
  rw [h, hall, ← h]

section
variable {Q : Unit → Net → Prop} {E : Exit → Net → Prop} {n : Net}

theorem wp_startTimer {Q : Nat → Net → Prop} (delay : Float) (task : TimerTask) :
    wp (startTimer delay task) Q E n ↔
      Q n.link.nextTimer { n with link := n.link.timed (n.rig.clock + delay) task } := Iff.rfl

theorem wp_stopHeartbeat : wp stopHeartbeat Q E n ↔ Q () { n with link := n.link.silenced } := by
  unfold stopHeartbeat
  rw [Net.wp_update]
  cases hbeat : n.link.heartbeat with
  | none => rw [silenced_of_none hbeat]
  | some id =>
    unfold silenced
    rw [hbeat]
    rfl

theorem wp_startHeartbeat :
    wp startHeartbeat Q E n ↔ Q () { n with link := n.link.beating n.rig.clock } := by
  unfold startHeartbeat
  rw [wp_bind, wp_stopHeartbeat, wp_bind, wp_startTimer, Net.wp_update]
  rfl

theorem tell_spec (listener : Option Listener) (level : Level) (text : String) (notice : Notice) :
    wp (tell listener (Rig.note level text) notice) (fun _ m => deaf listener = false ∧ n.Told m)
      (fun _ m => deaf listener ∧ n.Told m) n := by
  unfold tell
  split
  · exact ⟨rfl, n.told_refl⟩
  · exact ⟨rfl, _, _, rfl⟩
  · exact ⟨rfl, _, _, rfl⟩
  · exact ⟨rfl, n.told_refl⟩

theorem connect_spec : wp connect (fun _ m => n.connected.Told m) never n := by
  unfold connect
  rw [wp_bind, wp_get]
  simp only [wp_bind, Net.wp_liftM, wp_info, wp_ite, wp_warn, wp_emit, Net.wp_update]
  split
  · exact ⟨_, _, rfl⟩
  · exact ⟨_, _, rfl⟩

theorem opened_spec :
    wp opened (fun _ m => Net.Told { n with link := n.link.up n.rig.clock } m)
      (fun _ m => Net.Told { n with link := n.link.up n.rig.clock } m) n := by
  unfold opened
  rw [wp_bind, wp_get, wp_bind, Net.wp_liftM, wp_info, wp_bind, Net.wp_update,
    wp_bind, wp_startTimer, wp_bind, wp_startHeartbeat, wp_bind, wp_get]
  have htold := Net.told_logged { n with link := n.link.up n.rig.clock }
    (n.rig.log.push ⟨.info, "WebSocket连接已建立 (vehicle_id: " ++ n.link.vehicleId.text ++ ")"⟩)
  exact wp_mono (tell_spec _ .info _ _) (fun _ _ h => htold.trans h.2) fun _ _ h => htold.trans h.2

theorem exists_sleepLength_reconnectDelay {attempt : Nat} (h : attempt ≤ mostReconnects) :
    ∃ seconds, Rig.sleepLength (.int (reconnectDelay attempt)) = .ok seconds := by
  have hall : ∀ k ≤ mostReconnects, (Rig.sleepLength (.int (reconnectDelay k))).isOk := by
    decide +kernel
  exact exists_ok_of_isOk (hall attempt h)

structure Reconnected (n m : Net) : Prop where
  link : ∃ notices, m.link =
    { connected { n.link with reconnects := n.link.reconnects + 1 } with notices }
  events : m.rig.events =
    (n.rig.events.push (.slept (.int (reconnectDelay (n.link.reconnects + 1))))).push n.link.making
  unlimited : m.rig.Unlimited

theorem Reconnected.of_told {m p : Net} (h : n.Told m) (hp : Reconnected m p) :
    Reconnected n p := by
  obtain ⟨_, _, rfl⟩ := h
  exact { hp with }

def retry : Op Net Unit := do
  let attempts := (← get).link.reconnects
  let most := natText mostReconnects
  if attempts < mostReconnects then
    let attempt := attempts + 1
    Net.update fun l => { l with reconnects := attempt }
    let delay := reconnectDelay attempt
    Rig.info ("将在 " ++ natText delay ++ " 秒后尝试重连 (" ++ natText attempt ++ "/" ++ most ++ ")...")
    Rig.sleep (.int delay)
    connect
  else Rig.error ("已达到最大重连次数 (" ++ most ++ ")，停止重连")

theorem retry_spec (hn : n.rig.Unlimited) :
    wp retry (fun _ m => if n.link.reconnects < mostReconnects then Reconnected n m else n.Told m)
      never n := by
  unfold retry
  rw [wp_bind, wp_get, wp_ite]
  by_cases hfew : n.link.reconnects < mostReconnects
  · obtain ⟨seconds, hsec⟩ :
        ∃ seconds, Rig.sleepLength (.int (reconnectDelay (n.link.reconnects + 1))) = .ok seconds :=
      exists_sleepLength_reconnectDelay (Nat.succ_le_of_lt hfew)
    simp only [if_pos hfew]
    rw [wp_bind, Net.wp_update, wp_bind, Net.wp_liftM, wp_info, wp_bind, Net.wp_liftM]
    refine (Rig.wp_sleep_of_unlimited ?_ hsec).mpr ?_
    · exact { hn with }
    · refine wp_of_total connect_spec fun _ m hm => ?_
      obtain ⟨_, _, rfl⟩ := hm
      exact ⟨⟨_, rfl⟩, rfl, hn.deadline, hn.sleepsLeft⟩
  · simp only [if_neg hfew]
    exact n.told_logged _

def Closes (n m : Net) : Prop :=
  if n.link.tries then Reconnected n.hungUp m else n.hungUp.Told m

theorem closed_eq (code reason : Value) : closed code reason = (do
    liftM (Rig.info ("WebSocket连接已关闭: " ++ code.text ++ " - " ++ reason.text))
    Net.update fun l => { l with running := false }
    stopHeartbeat
    tell (← get).link.onDisconnect (Rig.warn "与云端断开连接") .disconnected
    retry) := rfl

theorem closed_spec (hn : n.rig.Unlimited) (code reason : Value) :
    wp (closed code reason) (fun _ m => Closes n m) (fun _ m => Closes n m) n := by
  rw [closed_eq, wp_bind, Net.wp_liftM, wp_info, wp_bind, Net.wp_update, wp_bind,
    wp_stopHeartbeat, wp_bind, wp_get, wp_bind]
  have htold := n.hungUp.told_logged
    (n.rig.log.push ⟨.info, "WebSocket连接已关闭: " ++ code.text ++ " - " ++ reason.text⟩)
  refine wp_mono (tell_spec _ .warning _ _) (fun _ m hm => ?_) fun _ m hm => ?_
  · -- whoever listens has been told, and the attempts made so far decide
    have hheard : deaf n.link.onDisconnect = false := hm.1
    have htold := htold.trans hm.2
    have hcnt : m.link.reconnects = n.link.reconnects := by
      obtain ⟨_, _, rfl⟩ := htold
      rfl
    refine wp_of_total (retry_spec (htold.unlimited hn)) fun _ p hp => ?_
    rw [hcnt] at hp
    unfold Closes tries
    by_cases hfew : n.link.reconnects < mostReconnects
    · rw [if_pos hfew] at hp
      rw [if_pos (by simp [hheard, hfew])]
      exact hp.of_told htold
    · rw [if_neg hfew] at hp
      rw [if_neg (by simp [hfew])]
      exact htold.trans hp
  · -- who cannot be told keeps the next attempt from being made
    have hdeaf : deaf n.link.onDisconnect := hm.1
    unfold Closes tries
    rw [if_neg (by simp [hdeaf])]
    exact htold.trans hm.2

theorem wp_disconnect : wp disconnect Q E n ↔ if n.link.socket.isSome then
      Q () { rig := { n.rig with events := n.rig.events.push .socketClosed }, link := n.link.down }
    else Q () { n with link := n.link.silenced } := by
  unfold disconnect
  rw [wp_bind, wp_stopHeartbeat, wp_bind, wp_get, wp_ite]
  rfl

end

end Link

namespace Net

/-- Properties that depend neither on what is logged or in the journal nor on failures, and of what
is recorded only on messages. -/
class Reticent (I : Net → Prop) : Prop where
  logged : ∀ (n : Net) log, I n → I { n with rig.log := log }
  recorded : ∀ (n : Net) (e : Event), e.sentText? = none → I n →
    I { n with rig.events := n.rig.events.push e }
  failed : ∀ n : Net, I n → I { n with rig := n.rig.failed }
  notices : ∀ (n : Net) notices, I n → I { n with link.notices := notices }

/-- Properties that depend on the hardware only through the clock and the limits of sleeps, and not
on what is in the journal. -/
class Quiet (I : Net → Prop) : Prop where
  rig : ∀ (n : Net) (r : Rig), r.clock = n.rig.clock → r.deadline = n.rig.deadline →
    r.sleepsLeft = n.rig.sleepsLeft → I n → I { n with rig := r }
  notices : ∀ (n : Net) notices, I n → I { n with link.notices := notices }

class Timeless (I : Net → Prop) : Prop extends Quiet I where
  clock : ∀ (n : Net) (now : Float), I n → I { n with rig.clock := now }
  timers : ∀ (n : Net) timers nextTimer heartbeat, I n → I { n with link := { n.link with
    timers, nextTimer, heartbeat } }

instance {I : Net → Prop} [hI : Quiet I] : Reticent I where
  logged n _ := hI.rig n _ rfl rfl rfl
  recorded n _ _ := hI.rig n _ rfl rfl rfl
  failed n := hI.rig n _ rfl rfl rfl
  notices := hI.notices

section
variable {I : Net → Prop} [hI : Reticent I]

theorem Reticent.of_told {n m : Net} (h : n.Told m) (hn : I n) : I m := by
  obtain ⟨log, notices, rfl⟩ := h
  exact hI.notices { n with rig.log := log } notices (hI.logged n log hn)

instance (level : Level) (text : String) :
    Safe True I (liftM (Rig.note level text) : Op Net Unit) := .base (.modify fun n => hI.logged n _)

instance (e : Event) [he : Same e.sentText? none] : Safe True I (liftM (Rig.emit e) : Op Net Unit) :=
  .base (.modify fun n => hI.recorded n e he.eq)

instance : Safe True I (liftM Rig.meetFault : Op Net Unit) := by
  refine .base (keeps_iff_wp.mpr fun n hn => ?_)
  rw [wp_liftM, Rig.wp_meetFault_iff]
  split
  · exact hI.failed n hn
  · exact hn

instance (listener : Option Listener) (level : Level) (text : String) (notice : Notice) :
    Safe True I (Link.tell listener (Rig.note level text) notice) := by
  refine .base (keeps_iff_wp.mpr fun n hn => ?_)
  exact wp_mono (Link.tell_spec listener level text notice) (fun _ _ hm => hI.of_told hm.2 hn)
    fun _ _ hm => hI.of_told hm.2 hn

instance (error : Value) : Safe True I (Link.errored error) := by
  unfold Link.errored Link.tellError Rig.error
  infer_instance

instance : Safe True I Link.runSocket := by
  unfold Link.runSocket Link.tellError Rig.error
  infer_instance

end

section
variable {I : Net → Prop} [hI : Quiet I]

instance (message : Value) : Safe True I (Link.send message) := by
  have (text : String) : Safe True I (liftM (Rig.emit (.sent text)) : Op Net Unit) :=
    .base (.modify fun n => hI.rig n _ rfl rfl rfl)
  unfold Link.send Rig.debug Rig.warn Rig.error
  infer_instance

instance : Safe True I Link.sendRegister := by
  unfold Link.sendRegister Link.sendData Rig.info
  infer_instance

end

section
variable {I : Net → Prop} (hwithout : ∀ (n : Net) (t : LinkTimer), I n →
    I { n with link.timers := n.link.timers.filter (·.id != t.id) })
  (hclock : ∀ (n : Net) (now : Float), I n → I { n with rig.clock := now })
  (htask : ∀ task, Keeps I (Link.runTask task))
include hwithout hclock htask

theorem keeps_fireUntil_of (target : Float) (fuel : Nat) :
    Keeps I (Link.fireUntil target fuel) := by
  induction fuel with
  | zero => exact .pure _
  | succ fuel ih =>
    refine .bind .get fun n => ?_
    cases Link.nextDue n.link.timers with
    | none => exact .pure _
    | some t =>
      refine .ite (.pure _) (.bind (.modify fun n hn => hwithout n t hn) fun _ => ?_)
      refine .bind (.modify fun n hn => hclock n _ hn) fun _ => ?_
      exact .bind (htask t.task) fun _ => ih

theorem keeps_elapse_of (duration : Value) : Keeps I (Link.elapse duration) := by
  refine .bind .get fun n => .except fun sum => .except fun target => ?_
  refine .bind .get fun n => .bind .get fun n => ?_
  refine .bind (keeps_fireUntil_of hwithout hclock htask _ _) fun _ => ?_
  exact .modify fun n hn => hclock n _ hn

end

section
variable {I : Net → Prop} [hI : Timeless I]

instance : Safe True I Link.startHeartbeat := by
  refine .base fun n hn => ?_
  rw [Link.wp_startHeartbeat]
  exact hI.timers n _ _ _ hn

theorem keeps_runTask (task : TimerTask) : Keeps I (Link.runTask task) := by
  unfold Link.runTask Link.beat Link.sendHeartbeat Link.sendData Rig.error
  cases task <;> exact .of_parts

instance (target : Float) (fuel : Nat) : Safe True I (Link.fireUntil target fuel) :=
  .base (keeps_fireUntil_of (fun n _ hn => hI.timers n _ n.link.nextTimer n.link.heartbeat hn)
    hI.clock keeps_runTask target fuel)

instance (duration : Value) : Safe True I (Link.elapse duration) :=
  .base (keeps_elapse_of (fun n _ hn => hI.timers n _ n.link.nextTimer n.link.heartbeat hn)
    hI.clock keeps_runTask duration)

end

end Net

end Rover
