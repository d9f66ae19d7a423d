import Rover.Proofs.Station.Course

/-!
# Heartbeats

As long as the link is up there is exactly one timer for the next heartbeat, and otherwise there is
none. The timer that fires starts the next one itself, so between the two the link is up without a
timer; sending the heartbeat may fail, but it comes to its end.
-/

namespace Rover

namespace Link

def beats (l : Link) : List LinkTimer := l.timers.filter (·.task = .heartbeat)

/-- Timers with one number do the same, the next number is above all that are taken, each timer is
due at some time, and once there has been a socket there always is one. -/
structure Orderly (l : Link) : Prop where
  same : ∀ t ∈ l.timers, ∀ t' ∈ l.timers, t.id = t'.id → t.task = t'.task
  below : ∀ t ∈ l.timers, t.id < l.nextTimer
  due : ∀ t ∈ l.timers, t.due.isFinite
  socket : 0 < l.sockets → l.socket.isSome

structure Pulse (l : Link) : Prop extends Orderly l where
  beats : l.beats.map LinkTimer.id = l.heartbeat.toList
  running : l.running = l.heartbeat.isSome
  linked : l.running → l.socket.isSome

structure Skipping (l : Link) : Prop extends Orderly l where
  beats : l.beats = []
  running : l.running
  linked : l.socket.isSome

theorem mem_beats {l : Link} {t : LinkTimer} :
    t ∈ l.beats ↔ t ∈ l.timers ∧ t.task = .heartbeat := by
  simp [Link.beats]

section
variable {l : Link} {t : LinkTimer}

theorem Orderly.filter (h : Orderly l) (p : LinkTimer → Bool) :
    Orderly { l with timers := l.timers.filter p } where
  same t ht t' ht' := h.same t (List.mem_of_mem_filter ht) t' (List.mem_of_mem_filter ht')
  below t ht := h.below t (List.mem_of_mem_filter ht)
  due t ht := h.due t (List.mem_of_mem_filter ht)
  socket := h.socket

theorem Orderly.timed (h : Orderly l) {due : Float} (hdue : due.isFinite)
    (task : TimerTask) : Orderly (l.timed due task) := by
  have hmem : ∀ {t}, t ∈ (l.timed due task).timers ↔ t ∈ l.timers ∨ t = ⟨l.nextTimer, due, task⟩ := by
    intro t
    simp [Link.timed]
  refine ⟨fun t ht t' ht' hid => ?_, fun t ht => ?_, fun t ht => ?_, h.socket⟩
  · -- the number of the new timer is above all others
    obtain ht | rfl := hmem.mp ht
    · obtain ht' | rfl := hmem.mp ht'
      · exact h.same t ht t' ht' hid
      · exact absurd hid (Nat.ne_of_lt (h.below t ht))
    · obtain ht' | rfl := hmem.mp ht'
      · exact absurd hid (Nat.ne_of_gt (h.below t' ht'))
      · rfl
  · obtain ht | rfl := hmem.mp ht
    · exact Nat.lt_succ_of_lt (h.below t ht)
    · exact Nat.lt_succ_self _
  · obtain ht | rfl := hmem.mp ht
    · exact h.due t ht
    · exact hdue

theorem beats_timed (due : Float) (task : TimerTask) :
    (l.timed due task).beats = l.beats ++ [⟨l.nextTimer, due, task⟩].filter (·.task = .heartbeat) :=
  List.filter_append ..

theorem beats_filter (p : LinkTimer → Bool) :
    beats { l with timers := l.timers.filter p } = l.beats.filter p := by
  simp only [Link.beats, List.filter_filter, Bool.and_comm]

theorem heartbeat_of_mem_beats (h : l.beats.map LinkTimer.id = l.heartbeat.toList)
    (ht : t ∈ l.beats) : l.heartbeat = some t.id := by
  have hid : t.id ∈ l.heartbeat.toList := h ▸ List.mem_map_of_mem ht
  exact Option.mem_toList.mp hid

theorem beats_silenced (h : l.beats.map LinkTimer.id = l.heartbeat.toList) :
    l.silenced.beats = [] := by
  refine (beats_filter _).trans (List.filter_eq_nil_iff.mpr fun t ht => ?_)
  rw [heartbeat_of_mem_beats h ht]
  simp

theorem Skipping.pulse (h : Skipping l.silenced) {now : Float} (hnow : now.isFinite) :
    Pulse (l.beating now) := by
  have hinterval := isRounded_add_of_small hnow (y := heartbeatInterval) (by decide +kernel)
    (by decide +kernel)
  have htimed := h.toOrderly.timed hinterval.isFinite .heartbeat
  refine ⟨{ htimed with }, ?_, h.running, fun _ => h.linked⟩
  change (l.silenced.timed (now + heartbeatInterval) .heartbeat).beats.map LinkTimer.id = _
  rw [beats_timed, h.beats]
  rfl

theorem Orderly.silenced (h : Orderly l) : Orderly l.silenced :=
  { h.filter (some ·.id != l.heartbeat) with }

theorem Skipping.silenced (h : Skipping l) : Skipping l.silenced := by
  have hbeats : l.silenced.beats = l.beats.filter (some ·.id != l.heartbeat) := beats_filter _
  rw [h.beats] at hbeats
  exact ⟨h.toOrderly.silenced, hbeats, h.running, h.linked⟩

theorem Pulse.up (h : Pulse l) (hsock : 0 < l.sockets) {now : Float} (hnow : now.isFinite) :
    Pulse (l.up now) := by
  have hpause := isRounded_add_of_small hnow (y := 0.1) (by decide +kernel) (by decide +kernel)
  have hopen : Orderly { l with running := true, reconnects := 0 } := { h.toOrderly with }
  have htimed := hopen.timed hpause.isFinite .register
  -- an earlier timer is cancelled first, so it does not matter whether the link was up before
  refine Skipping.pulse ⟨htimed.silenced, beats_silenced ?_, rfl, h.socket hsock⟩ hnow
  rw [beats_timed]
  exact (congrArg (List.map LinkTimer.id) (List.append_nil _)).trans h.beats

theorem Pulse.silenced (h : Pulse l) (hrun : l.running = false) : Pulse l.silenced := by
  refine ⟨h.toOrderly.silenced, ?_, hrun, h.linked⟩
  rw [beats_silenced h.beats]
  rfl

theorem Pulse.down (h : Pulse l) : Pulse l.down := by
  refine ⟨{ h.toOrderly.silenced with }, ?_, rfl, fun hup => by cases hup⟩
  exact (congrArg (List.map LinkTimer.id) (beats_silenced h.beats)).trans rfl

theorem Pulse.connected (h : Pulse l) : Pulse l.connected :=
  ⟨⟨h.same, h.below, h.due, fun _ => rfl⟩, h.beats, h.running, fun _ => rfl⟩

def without (l : Link) (t : LinkTimer) : Link :=
  { l with timers := l.timers.filter (·.id != t.id) }

theorem Pulse.without_register (h : Pulse l) (ht : t ∈ l.timers)
    (htask : t.task = .register) : Pulse (l.without t) := by
  have hkept : (l.without t).beats = l.beats := by
    refine (beats_filter _).trans (List.filter_eq_self.mpr fun t' ht' => ?_)
    obtain ⟨hmem, htask'⟩ := mem_beats.mp ht'
    refine bne_iff_ne.mpr fun hid => ?_
    have hsame := h.same t' hmem t ht hid
    rw [htask, htask'] at hsame
    cases hsame
  exact ⟨h.toOrderly.filter _, hkept ▸ h.beats, h.running, h.linked⟩

theorem Pulse.without_heartbeat (h : Pulse l) (ht : t ∈ l.timers)
    (htask : t.task = .heartbeat) : Skipping (l.without t) := by
  have hnoted := heartbeat_of_mem_beats h.beats (mem_beats.mpr ⟨ht, htask⟩)
  have hrun : l.running := by rw [h.running, hnoted]; rfl
  refine ⟨h.toOrderly.filter _, ?_, hrun, h.linked hrun⟩
  refine (beats_filter _).trans (List.filter_eq_nil_iff.mpr fun t' ht' => ?_)
  have hid := (heartbeat_of_mem_beats h.beats ht').symm.trans hnoted
  simp [Option.some.inj hid]

end

theorem mem_of_nextDue {timers : List LinkTimer} {t : LinkTimer} (h : nextDue timers = some t) :
    t ∈ timers := by
  have hall : ∀ t ∈ nextDue timers, t ∈ timers := by
    refine List.foldlRecOn timers _ (motive := fun best => ∀ t ∈ best, t ∈ timers)
      (fun _ ht => by cases ht) fun best hbest a ha t ht => ?_
    cases best with
    | none => exact Option.some.inj ht ▸ ha
    | some b =>
      by_cases hearlier : a.due < b.due
      · simp only [if_pos hearlier] at ht
        exact Option.some.inj ht ▸ ha
      · simp only [if_neg hearlier] at ht
        exact hbest t ht
  exact hall t h

end Link

namespace Net

/-- A property of the link, while the clock shows a time and nothing cuts sleeps short. -/
structure Timed (P : Link → Prop) (n : Net) : Prop where
  held : Over P n
  clock : n.rig.clock.isFinite

instance {P : Link → Prop} [Station.Unminding P] : Quiet (Timed P) where
  rig n r hclock hdue hleft hn :=
    ⟨Quiet.rig n r hclock hdue hleft hn.held, hclock ▸ hn.clock⟩
  notices n notices hn := ⟨Quiet.notices n notices hn.held, hn.clock⟩

end Net

namespace Link

open Net (Timed)

instance : Station.Unminding Pulse := ⟨fun _ _ _ h => { h with }⟩

instance : Station.Unminding Skipping := ⟨fun _ _ _ h => { h with }⟩

theorem returns_send {P : Link → Prop} [Station.Unminding P] (entries : Entries) :
    Returns (Timed P) () (Timed P) (send (.dict entries)) := by
  intro n hn
  by_cases hlink : n.link.isConnected
  · obtain ⟨now, hnow, -⟩ := Json.toInteger_of_isFinite hn.clock
    rw [wp_send_dict hlink hnow]
    obtain ⟨hclock, hdue, hleft⟩ := n.rig.dispatched_time
      ((Value.lookup? (n.link.labelled now entries) (.str "type")).getD .none).text
      (Json.write true (.dict (n.link.labelled now entries)))
    exact ⟨rfl, Net.Quiet.rig n _ hclock hdue hleft hn⟩
  · rw [wp_send_closed hlink]
    exact ⟨rfl, Net.Quiet.rig n _ rfl rfl rfl hn⟩

theorem beat_pulse {n : Net} (hn : Timed Skipping n) :
    wp (runTask .heartbeat) (fun _ m => Timed Pulse m) (fun _ m => Timed Pulse m) n := by
  have hconn : n.link.isConnected := by
    simp [isConnected, hn.held.1.running, hn.held.1.linked]
  unfold runTask beat
  rw [wp_bind, wp_get, wp_ite, if_pos hconn, wp_guarded, wp_bind]
  -- a heartbeat that fails to be sent is only logged, so the next one is always arranged
  refine wp_of_total (returns_send _ n hn) fun _ m hm => ?_
  rw [wp_startHeartbeat]
  exact ⟨⟨hm.2.held.1.silenced.pulse hm.2.clock, hm.2.held.2⟩, hm.2.clock⟩

theorem register_pulse {n : Net} (hn : Timed Pulse n) :
    wp (runTask .register) (fun _ m => Timed Pulse m) (fun _ m => Timed Pulse m) n := by
  have hkeeps : Keeps (Timed Pulse) (runTask .register) :=
    .guarded .of_parts fun _ => .of_parts (p := liftM (Rig.note _ _))
  exact hkeeps.wp hn

theorem keeps_fireUntil (target : Float) (fuel : Nat) :
    Keeps (Timed Pulse) (fireUntil target fuel) := by
  rw [keeps_iff_wp]
  -- by the number of firings: the invariant holds again before the next timer fires
  induction fuel with
  | zero => exact fun n hn => hn
  | succ fuel ih =>
    intro n hn
    unfold fireUntil
    rw [wp_bind, wp_get]
    cases hnext : nextDue n.link.timers with
    | none => exact hn
    | some t =>
      have hmem := mem_of_nextDue hnext
      rw [wp_ite]
      split
      · exact hn
      · rw [wp_bind, Net.wp_update, wp_bind, wp_modify, wp_bind]
        -- timers are due at some time, so the clock shows one wherever it is set
        have hclock : (max n.rig.clock t.due).isFinite := by
          change (if n.rig.clock ≤ t.due then t.due else n.rig.clock).isFinite
          split
          · exact hn.held.1.due t hmem
          · exact hn.clock
        have hlims : Unlimited { n.rig with clock := max n.rig.clock t.due } := { hn.held.2 with }
        refine wp_post (?_ : wp (runTask t.task) (fun _ m => Timed Pulse m)
          (fun _ m => Timed Pulse m) _) fun _ m hm => ih m hm
        cases htask : t.task with
        | register =>
          exact register_pulse ⟨⟨hn.held.1.without_register hmem htask, hlims⟩, hclock⟩
        | heartbeat =>
          exact beat_pulse ⟨⟨hn.held.1.without_heartbeat hmem htask, hlims⟩, hclock⟩

theorem elapse_pulse {n : Net} (hn : Timed Pulse n) (duration : Value) :
    wp (elapse duration) (fun _ m => m.Over Pulse) (fun _ m => m.Over Pulse) n := by
  unfold elapse
  refine wp_except_bind (fun sum _ => ?_) fun _ _ => hn.held
  refine wp_except_bind (fun target _ => ?_) fun _ _ => hn.held
  rw [wp_bind, wp_get, wp_bind, wp_get, wp_bind]
  refine wp_mono ((keeps_fireUntil target _).wp hn) (fun _ m hm => ?_) fun _ _ hm => hm.held
  exact ⟨hm.held.1, { hm.held.2 with }⟩

end Link

namespace Station

open Link (Pulse)

def Happening.isCredible (h : Happening) (s : Station) : Bool :=
  s.runner.vehicle.rig.clock.isFinite && match h with
    | heard socket _ => decide (socket < s.link.sockets)
    | _ => true

def isCredible : List Happening → Station → Bool
  | [], _ => true
  | h :: rest, s => h.isCredible s && isCredible rest (h.op.after s)

variable {s : Station}

theorem Fresh.pulse (hs : s.Fresh) : Holds Pulse s := by
  obtain ⟨address, vehicleId, trusting, hlink⟩ := hs.exists_link
  refine ⟨?_, hs.limits⟩
  rw [hlink]
  refine ⟨⟨fun _ ht => ?_, fun _ ht => ?_, fun _ ht => ?_, fun hsockets => ?_⟩, rfl, rfl, fun hup => ?_⟩
  · cases ht
  · cases ht
  · cases ht
  · cases hsockets
  · cases hup

theorem pulse_step (hs : Holds Pulse s) {h : Happening}
    (hh : h.isCredible s) : Holds Pulse (h.op.after s) := by
  obtain ⟨hpulse, hlims⟩ := hs
  obtain ⟨hclock, hreal⟩ := Bool.and_eq_true_iff.mp hh
  have htimed : Net.Timed Pulse ⟨s.runner.vehicle.rig, s.link⟩ := ⟨⟨hpulse, hlims⟩, hclock⟩
  have haside {h : Happening} (haside : h.isAside) :=
    (Happening.keeps_of_isAside haside).after ⟨hpulse, hlims⟩
  cases h with
  | connect => exact (connect_becomes hlims).holds hpulse.connected
  | disconnect =>
    refine (disconnect_becomes hlims).holds ?_
    by_cases hsock : s.link.socket.isSome
    · rw [if_pos hsock]
      exact hpulse.down
    · -- without a socket the link has never been up
      rw [if_neg hsock]
      exact hpulse.silenced (Bool.eq_false_iff.mpr fun hup => hsock (hpulse.linked hup))
  | heard socket event =>
    cases event with
    | opened =>
      have hmade : socket < s.link.sockets := of_decide_eq_true hreal
      exact (opened_becomes hlims socket).holds (hpulse.up (Nat.zero_lt_of_lt hmade) hclock)
    | received text => exact haside rfl
    | errored error => exact haside rfl
    | closed code reason =>
      have hdown : Pulse { s.link.down with reconnects := s.link.reconnects + 1 } :=
        { hpulse.down with }
      exact closed_holds hlims _ _ _ (fun _ => hdown.connected) fun _ => hpulse.down
  | elapsed duration =>
    refine wp_after_iff.mp ?_
    change wp (onNet (Link.elapse duration)) _ _ s
    rw [wp_onNet]
    exact Link.elapse_pulse htimed duration
  | fired target most =>
    refine wp_after_iff.mp ?_
    change wp (onNet (Link.fireUntil target most)) _ _ s
    rw [wp_onNet]
    exact wp_mono ((Link.keeps_fireUntil target most).wp htimed) (fun _ _ hm => hm.held)
      fun _ _ hm => hm.held
  | listened onConnect onDisconnect onError => exact ⟨{ hpulse with }, hlims⟩
  | _ => exact haside rfl

theorem pulse_run (hs : Holds Pulse s) {course : List Happening}
    (hcourse : isCredible course s) : Holds Pulse (Op.runAll Happening.op course s) := by
  induction course generalizing s with
  | nil => exact hs
  | cons h rest ih =>
    obtain ⟨hh, hrest⟩ := Bool.and_eq_true_iff.mp hcourse
    exact ih (pulse_step hs hh) hrest

/-- Whatever happens to a station from its start, there is exactly one timer for the next heartbeat
while the link is up, and none otherwise: however often sockets open and close, whatever fails to be
sent, whoever ends the connection, and also between the timers that fire at one time. -/
theorem one_heartbeat_while_running {s : Station} (hs : s.Fresh) (course : List Happening)
    (hcourse : isCredible course s = true) :
    let t := Op.runAll Happening.op course s
    t.link.beats.length = if t.link.running = true then 1 else 0 := by
  intro t
  have hpulse := (pulse_run hs.pulse hcourse).1
  have hlength : t.link.beats.length = t.link.heartbeat.toList.length := by
    rw [← hpulse.beats, List.length_map]
  rw [hlength, hpulse.running]
  cases t.link.heartbeat with
  | none => rfl
  | some id => rfl

/-- A socket opens, heartbeats follow of which one is lost, and the socket opens once more. It is
closed on purpose and replaced; the new one opens, and the next timer fires. -/
def restlessness : List Happening :=
  [.connect, .heard 0 .opened, .elapsed (.int 25), .disturbed 1, .elapsed (.int 10),
    .heard 0 .opened, .disconnect, .heard 0 (.closed (.int 1000) (.str "")), .heard 1 .opened,
    .fired 2000 1]

theorem one_heartbeat_while_running_restless :
    unlinked.Fresh ∧ isCredible restlessness unlinked = true ∧
      (Op.runAll Happening.op restlessness unlinked).link.beats.length = 1 := by
  have hcredible : isCredible restlessness unlinked = true := by decide +kernel
  have hup : (Op.runAll Happening.op restlessness unlinked).link.running = true := by decide +kernel
  refine ⟨fresh_unlinked, hcredible, ?_⟩
  rw [one_heartbeat_while_running fresh_unlinked restlessness hcredible, if_pos hup]

end Station

end Rover
