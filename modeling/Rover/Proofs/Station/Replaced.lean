import Rover.Proofs.Station.Course

/-!
# Sockets that were replaced

A socket that was replaced by a new one may still report that it has closed. Which socket reports
does not count: the link takes it for the end of its connection, whatever socket it has by then.
-/

namespace Rover

namespace Link

def Hushed (l : Link) : Prop := l.running = false → l.heartbeat = none

/-- The connection is as it was: whether it is up, its timers, the attempts made, and the socket. -/
structure Undisturbed (l l' : Link) : Prop where
  running : l'.running = l.running
  heartbeat : l'.heartbeat = l.heartbeat
  timers : l'.timers = l.timers
  reconnects : l'.reconnects = l.reconnects
  socket : l'.socket = l.socket

instance : Station.Unminding Hushed := ⟨fun _ _ _ h => h⟩

instance : Station.Untimed fun l => l.running where
  imp _ _ _ h := h
  timers _ _ _ _ h := h

theorem hushed_of_running {l : Link} (h : l.running) : Hushed l := by
  intro hdown
  rw [h] at hdown
  cases hdown

theorem keeps_runTask_hushed (task : TimerTask) : Keeps (Net.Over Hushed) (runTask task) := by
  cases task with
  | register => exact .guarded .of_parts fun _ => .of_parts (p := liftM (Rig.note _ _))
  | heartbeat =>
    rw [keeps_iff_wp]
    intro n hn
    by_cases hup : n.link.running
    · have hkeeps : Keeps (Net.Over fun l => l.running) (runTask .heartbeat) :=
        Net.keeps_runTask .heartbeat
      apply wp_mono (hkeeps.wp ⟨hup, hn.2⟩)
      · exact fun _ m hm => ⟨hushed_of_running hm.1, hm.2⟩
      · exact fun _ m hm => ⟨hushed_of_running hm.1, hm.2⟩
    · have hdown : n.link.isConnected = false := by simp [isConnected, hup]
      unfold runTask beat
      rw [wp_bind, wp_get, wp_ite, if_neg (by simp [hdown])]
      exact hn

end Link

namespace Station

open Link (Hushed Undisturbed)

variable {s : Station}

theorem hushed_step (hs : Holds Hushed s) (h : Happening) : Holds Hushed (h.op.after s) := by
  have hlims := hs.2
  have haside {h : Happening} (haside : h.isAside) :=
    (Happening.keeps_of_isAside haside).after hs
  cases h with
  | connect => exact (connect_becomes hlims).holds hs.1
  | disconnect =>
    refine (disconnect_becomes hlims).holds ?_
    split <;> exact fun _ => rfl
  | heard socket event =>
    cases event with
    | opened =>
      exact (opened_becomes hlims socket).holds (Link.hushed_of_running rfl)
    | received text => exact haside rfl
    | errored error => exact haside rfl
    | closed code reason =>
      exact closed_holds hlims _ _ _ (fun _ _ => rfl) fun _ _ => rfl
  | elapsed duration =>
    have hkeeps := Net.keeps_elapse_of (fun _ _ hn => hn)
      (fun _ _ hn => ⟨hn.1, hn.2.deadline, hn.2.sleepsLeft⟩) Link.keeps_runTask_hushed duration
    exact (keeps_onNet hkeeps).after hs
  | fired target most =>
    have hkeeps := Net.keeps_fireUntil_of (fun _ _ hn => hn)
      (fun _ _ hn => ⟨hn.1, hn.2.deadline, hn.2.sleepsLeft⟩) Link.keeps_runTask_hushed target most
    exact (keeps_onNet hkeeps).after hs
  | listened onConnect onDisconnect onError => exact ⟨hs.1, hlims⟩
  | _ => exact haside rfl

theorem hushed_run (hs : Holds Hushed s) (course : List Happening) :
    Holds Hushed (Op.runAll Happening.op course s) :=
  runAll_of_step (I := Holds Hushed) (fun h _ _ hs => hushed_step hs h) hs

theorem Fresh.hushed (hs : s.Fresh) : Holds Hushed s := by
  obtain ⟨address, vehicleId, trusting, hlink⟩ := hs.exists_link
  refine ⟨?_, hs.limits⟩
  rw [hlink]
  exact fun _ => rfl

theorem tries_eq_false_iff {l : Link} :
    l.tries = false ↔ 5 ≤ l.reconnects ∨ Link.deaf l.onDisconnect := by
  unfold Link.tries
  rw [Bool.and_eq_false_iff, Bool.not_eq_false', decide_eq_false_iff_not, Nat.not_lt]
  exact Or.comm

/-- A report that a socket has closed, whichever socket it comes from, and so also one that was
replaced long ago, takes the connection down and cancels the next heartbeat; and while attempts are
left and whoever listens can be told, it puts a new socket in the place of the current one. So it
leaves the connection alone exactly if there is none, and if no attempt is left or the one who
listens cannot be told. -/
theorem late_closing_harmless_iff {s : Station} (hs : s.Fresh) (course : List Happening)
    (socket : Nat) (code reason : Value) :
    let t := Op.runAll Happening.op course s
    let u := (Happening.heard socket (.closed code reason)).op.after t
    (Undisturbed t.link u.link ↔
      t.link.running = false ∧ (5 ≤ t.link.reconnects ∨ Link.deaf t.link.onDisconnect = true)) ∧
    u.link.running = false ∧ u.link.heartbeat = none ∧
    (t.link.tries = true →
      u.link.socket = some t.link.sockets ∧ u.link.reconnects = t.link.reconnects + 1) := by
  intro t u
  obtain ⟨hhushed, hlimits⟩ := hushed_run hs.hushed course
  have hclosed := closed_becomes hlimits socket code reason
  rw [← tries_eq_false_iff]
  by_cases htries : t.link.tries = true
  · rw [if_pos htries] at hclosed
    obtain ⟨⟨⟨notices, hlink⟩, -⟩, -⟩ := hclosed
    have hlink : u.link = { Link.connected { t.link.down with
      reconnects := t.link.reconnects + 1 } with notices := notices } := hlink
    have hreconnects : u.link.reconnects = t.link.reconnects + 1 := by rw [hlink]; rfl
    refine ⟨⟨fun h => ?_, fun h => ?_⟩, ?_, ?_, fun _ => ⟨?_, hreconnects⟩⟩
    · have hsame := h.reconnects
      omega
    · rw [htries] at h
      cases h.2
    all_goals
      rw [hlink]
      rfl
  · rw [if_neg htries] at hclosed
    obtain ⟨⟨⟨notices, hlink⟩, -⟩, -⟩ := hclosed
    have hlink : u.link = { t.link.down with notices := notices } := hlink
    have hdown : u.link.running = false := by rw [hlink]; rfl
    refine ⟨⟨fun h => ?_, fun h => ?_⟩, hdown, ?_, fun h => absurd h htries⟩
    · exact ⟨h.running.symm.trans hdown, Bool.eq_false_iff.mpr htries⟩
    · -- nothing was arranged while the link was down
      have hnone : t.link.heartbeat = none := hhushed h.1
      have hsilent : u.link = { t.link with running := false, notices := notices } := by
        rw [hlink, Link.down, Link.silenced_of_none hnone]
      rw [hsilent]
      exact ⟨h.1.symm, rfl, rfl, rfl, rfl⟩
    · rw [hlink]
      rfl

def exhaustion : List Happening :=
  .connect :: List.replicate 5 (.heard 0 (.closed (.int 1006) (.str "")))

/-- Then it does no harm that the first socket closes once more. -/
theorem late_closing_harmless_iff_exhausted :
    unlinked.Fresh ∧ (Op.runAll Happening.op exhaustion unlinked).link.socket = some 5 ∧
      Undisturbed (Op.runAll Happening.op exhaustion unlinked).link
        ((Happening.heard 0 (.closed (.int 1006) (.str ""))).op.after
          (Op.runAll Happening.op exhaustion unlinked)).link := by
  refine ⟨fresh_unlinked, by decide +kernel, ?_⟩
  apply (late_closing_harmless_iff fresh_unlinked exhaustion 0 (.int 1006) (.str "")).1.mpr
  exact ⟨by decide +kernel, .inl (by decide +kernel)⟩

def overlap : List Happening := [.connect, .heard 0 .opened, .connect, .heard 1 .opened]

/-- The second socket is open. When the first one closes, the link is down, there is no heartbeat
any more, and a third socket has taken the place of the second. -/
theorem late_closing_disturbs :
    let t := Op.runAll Happening.op overlap unlinked
    let u := (Happening.heard 0 (.closed (.int 1006) (.str ""))).op.after t
    unlinked.Fresh ∧ t.link.socket = some 1 ∧ t.link.running = true ∧ t.link.heartbeat.isSome = true ∧
      u.link.running = false ∧ u.link.heartbeat = none ∧ u.link.socket = some 2 ∧
      u.link.reconnects = 1 := by
  refine ⟨fresh_unlinked, ?_⟩
  decide +kernel

end Station

end Rover
