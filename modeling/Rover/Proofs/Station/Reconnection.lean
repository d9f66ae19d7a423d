import Rover.Proofs.Station.Course

/-!
# New sockets

When a socket closes, a new one is made after a pause. What decides about this can be followed
through any course of events without the rest of the station: the attempts made since a socket was
last open, and whoever listens to the end of the connection.
-/

namespace Rover

namespace Link

structure Outlook where
  address : GatewayAddress
  vehicleId : Value
  onDisconnect : Option Listener
  sockets : Nat
  reconnects : Nat

def outlook (l : Link) : Outlook :=
  ⟨l.address, l.vehicleId, l.onDisconnect, l.sockets, l.reconnects⟩

namespace Outlook

def tries (o : Outlook) : Bool := !deaf o.onDisconnect && decide (o.reconnects < mostReconnects)

theorem tries_iff {o : Outlook} (h : o.reconnects ≤ mostReconnects) :
    o.tries ↔ ¬ (o.reconnects = mostReconnects ∨ deaf o.onDisconnect) := by
  have hfew : o.reconnects < mostReconnects ↔ ¬ o.reconnects = mostReconnects := by omega
  simp [tries, hfew, not_or, and_comm]

def again (o : Outlook) : Outlook :=
  { o with sockets := o.sockets + 1, reconnects := o.reconnects + 1 }

end Outlook

end Link

namespace Station

open Link (Outlook)

def Happening.turn (o : Outlook) : Happening → Outlook
  | connect => { o with sockets := o.sockets + 1 }
  | heard _ .opened => { o with reconnects := 0 }
  | heard _ (.closed ..) => if o.tries then o.again else o
  | listened _ onDisconnect _ => { o with onDisconnect }
  | _ => o

def Facing (o : Outlook) : Station → Prop := Holds fun l => l.outlook = o

instance (o : Outlook) : Untimed fun l => l.outlook = o where
  imp _ _ _ h := h
  timers _ _ _ _ h := h

variable {o : Outlook} {s : Station}

theorem Facing.step (hs : Facing o s) (h : Happening) : Facing (h.turn o) (h.op.after s) := by
  obtain ⟨rfl, hlims⟩ := hs
  have haside {h : Happening} (haside : h.isAside) : Facing s.link.outlook (h.op.after s) :=
    (Happening.keeps_of_isAside haside).after ⟨rfl, hlims⟩
  cases h with
  | connect => exact (connect_becomes hlims).holds rfl
  | disconnect =>
    refine (disconnect_becomes hlims).holds ?_
    split <;> rfl
  | heard socket event =>
    cases event with
    | opened => exact (opened_becomes hlims socket).holds rfl
    | received text => exact haside rfl
    | errored error => exact haside rfl
    | closed code reason =>
      exact closed_holds hlims _ _ _ (fun htries => (if_pos htries).symm)
        fun htries => (if_neg htries).symm
  | elapsed duration =>
    exact (keeps_onNet .of_parts).after ⟨rfl, hlims⟩
  | fired target most =>
    exact (keeps_onNet .of_parts).after ⟨rfl, hlims⟩
  | listened onConnect onDisconnect onError => exact ⟨rfl, hlims⟩
  | _ => exact haside rfl

theorem Facing.run (hs : Facing o s) (course : List Happening) :
    Facing (course.foldl (fun o h => h.turn o) o) (Op.runAll Happening.op course s) := by
  induction course generalizing o s with
  | nil => exact hs
  | cons h rest ih => exact ih (hs.step h)

namespace Happening

def isClosed : Happening → Bool
  | heard _ (.closed ..) => true
  | _ => false

/-- What happens without anybody's doing: a socket reports something, but not that it is open, time
passes, or timers fire. -/
def isPassive : Happening → Bool
  | heard _ .opened => false
  | heard .. | elapsed _ | fired .. => true
  | _ => false

theorem turn_of_isPassive {h : Happening} (hpassive : h.isPassive) (o : Outlook) :
    h.turn o = if h.isClosed ∧ o.tries then o.again else o := by
  cases h with
  | heard socket event =>
    cases event with
    | opened => cases hpassive
    | closed code reason => simp [turn, isClosed]
    | received text => rfl
    | errored error => rfl
  | elapsed duration => rfl
  | fired target most => rfl
  | _ => cases hpassive

end Happening

def attempts (o : Outlook) (closings : Nat) : Nat :=
  if Link.deaf o.onDisconnect then 0 else min closings (Link.mostReconnects - o.reconnects)

theorem attempts_again (h : o.tries) (closings : Nat) :
    attempts o (closings + 1) = attempts o.again closings + 1 := by
  simp only [Outlook.tries, Bool.and_eq_true, Bool.not_eq_true', decide_eq_true_eq] at h
  obtain ⟨hheard, hfew⟩ := h
  have hagain : Link.deaf o.again.onDisconnect = false := hheard
  have hcnt : o.again.reconnects = o.reconnects + 1 := rfl
  unfold attempts
  rw [if_neg (Bool.eq_false_iff.mp hheard), if_neg (Bool.eq_false_iff.mp hagain), hcnt]
  omega

theorem attempts_of_not_tries (h : ¬ o.tries) (closings : Nat) : attempts o closings = 0 := by
  unfold attempts
  by_cases hdeaf : Link.deaf o.onDisconnect
  · rw [if_pos hdeaf]
  · have hmany : ¬ o.reconnects < Link.mostReconnects := by
      intro hfew
      exact h (by simp [Outlook.tries, hdeaf, hfew])
    rw [if_neg hdeaf]
    omega

theorem foldl_turn_of_passive {later : List Happening} (hlater : ∀ h ∈ later, h.isPassive)
    (o : Outlook) :
    later.foldl (fun o h => h.turn o) o = { o with
        sockets := o.sockets + attempts o (later.countP Happening.isClosed)
        reconnects := o.reconnects + attempts o (later.countP Happening.isClosed) } := by
  -- each socket that closes uses up one of the attempts that are left
  induction later generalizing o with
  | nil => simp [attempts]
  | cons h rest ih =>
    rw [List.forall_mem_cons] at hlater
    rw [List.foldl_cons, Happening.turn_of_isPassive hlater.1, ih hlater.2, List.countP_cons]
    by_cases hclosed : h.isClosed
    · rw [if_pos hclosed]
      by_cases htries : o.tries
      · rw [if_pos ⟨hclosed, htries⟩, attempts_again htries]
        simp only [Outlook.again, Outlook.mk.injEq, true_and]
        omega
      · rw [if_neg fun hboth => htries hboth.2, attempts_of_not_tries htries,
          attempts_of_not_tries htries]
    · rw [if_neg fun hboth => hclosed hboth.1, if_neg hclosed, Nat.add_zero]

/-- After a disconnection on purpose, whatever state it meets, the sockets that close are replaced as
after any other: by one new socket for each that closes while fewer than five attempts have been
made since a socket was last open, unless the one who listens cannot be told. So the disconnection
is final exactly if no socket closes afterwards, if no attempts are left, or if the one who listens
cannot be told. -/
theorem disconnection_final_iff (s : Station) (hs : s.runner.vehicle.rig.Unlimited)
    (later : List Happening) (hlater : ∀ h ∈ later, h.isPassive = true) :
    let t := Op.runAll Happening.op (.disconnect :: later) s
    let closings := later.countP Happening.isClosed
    t.link.sockets = s.link.sockets +
      (if Link.deaf s.link.onDisconnect = true then 0 else min closings (5 - s.link.reconnects)) ∧
    (t.link.sockets = s.link.sockets ↔
      closings = 0 ∨ 5 ≤ s.link.reconnects ∨ Link.deaf s.link.onDisconnect = true) := by
  intro t closings
  have hfacing : Facing s.link.outlook s := ⟨rfl, hs⟩
  have hrun := (hfacing.run (.disconnect :: later)).1
  rw [List.foldl_cons, foldl_turn_of_passive hlater] at hrun
  have hsockets : t.link.sockets = s.link.sockets +
      (if Link.deaf s.link.onDisconnect = true then 0 else min closings (5 - s.link.reconnects)) :=
    congrArg Outlook.sockets hrun
  refine ⟨hsockets, ?_⟩
  rw [hsockets]
  by_cases hdeaf : Link.deaf s.link.onDisconnect = true
  · simp [hdeaf]
  · rw [if_neg hdeaf, eq_false hdeaf, or_false]
    omega

def aftermath : List Happening :=
  [.heard 0 (.closed (.int 1000) (.str "")), .heard 1 (.closed .none .none), .elapsed (.int 60)]

/-- After the disconnection two sockets close, and there are two new ones. -/
theorem disconnection_final_iff_two_closings :
    (linked 0).runner.vehicle.rig.Unlimited ∧ (∀ h ∈ aftermath, h.isPassive = true) ∧
      (Op.runAll Happening.op (.disconnect :: aftermath) (linked 0)).link.sockets = 2 := by
  have hlimits : (linked 0).runner.vehicle.rig.Unlimited := ⟨rfl, rfl⟩
  have hpassive : ∀ h ∈ aftermath, h.isPassive = true := by simp [aftermath, Happening.isPassive]
  refine ⟨hlimits, hpassive, ?_⟩
  rw [(disconnection_final_iff (linked 0) hlimits aftermath hpassive).1]
  rfl

/-- The closing that a disconnection on purpose brings about makes a new socket. -/
theorem disconnection_reconnects :
    (linked 0).runner.vehicle.rig.Unlimited ∧
      (Op.runAll Happening.op [.disconnect, .heard 0 (.closed (.int 1000) (.str ""))]
        (linked 0)).link.sockets ≠ (linked 0).link.sockets := by
  refine ⟨⟨rfl, rfl⟩, ?_⟩
  decide +kernel

namespace Happening

def isOpened : Happening → Bool
  | heard _ .opened => true
  | _ => false

def isConnect : Happening → Bool
  | connect => true
  | _ => false

def retries (h : Happening) (o : Outlook) : Bool := h.isClosed && o.tries

theorem turn_spec (h : Happening) (o : Outlook) :
    (h.turn o).address = o.address ∧ (h.turn o).vehicleId = o.vehicleId ∧
      (h.turn o).sockets = o.sockets + (if (h.isConnect || h.retries o) then 1 else 0) ∧
      (h.turn o).reconnects =
        if h.isOpened then 0 else o.reconnects + (if h.retries o then 1 else 0) := by
  cases h with
  | heard socket event =>
    cases event with
    | closed code reason =>
      by_cases htries : o.tries
      · simp [turn, retries, isClosed, isOpened, htries, Outlook.again]
      · simp [turn, retries, isClosed, isConnect, isOpened, htries]
    | _ => simp [turn, retries, isClosed, isConnect, isOpened]
  | _ => simp [turn, retries, isClosed, isConnect, isOpened]

def record (h : Happening) (s : Station) : List Event :=
  (h.op.after s).runner.vehicle.rig.events.toList.drop s.runner.vehicle.rig.events.size

def reconnects (h : Happening) (s : Station) : Bool :=
  !h.isConnect && (h.op.after s).link.sockets != s.link.sockets

end Happening

/-- What is recorded, one after the other, whenever a new socket is made although nobody asks for
one. -/
def reconnections : List Happening → Station → List (List Event)
  | [], _ => []
  | h :: rest, s =>
    if h.reconnects s then h.record s :: reconnections rest (h.op.after s)
    else reconnections rest (h.op.after s)

def attempt (o : Outlook) (number : Nat) : List Event :=
  [.slept (.int (Link.reconnectDelay number)),
    .socket o.address.socketUrl (Value.record [("X-Vehicle-ID", o.vehicleId)])]

section
variable {o : Outlook} {s : Station} (hs : Facing o s)
include hs

theorem Facing.sockets : s.link.sockets = o.sockets := congrArg Outlook.sockets hs.1

theorem Facing.reconnects : s.link.reconnects = o.reconnects := congrArg Outlook.reconnects hs.1

theorem Facing.record_closed (socket : Nat) (code reason : Value) :
    (Happening.heard socket (.closed code reason)).record s =
      if o.tries then attempt o (o.reconnects + 1) else [] := by
  obtain ⟨rfl, hlims⟩ := hs
  have hclosed := closed_becomes hlims socket code reason
  unfold Happening.record
  change _ = if s.link.tries then _ else _
  by_cases htries : s.link.tries
  · rw [if_pos htries] at hclosed ⊢
    -- the pause and the socket stand behind all that was recorded before
    rw [hclosed.2, Array.toList_push, Array.toList_push, List.append_assoc]
    exact List.drop_left' Array.length_toList
  · rw [if_neg htries] at hclosed ⊢
    rw [hclosed.2]
    exact List.drop_eq_nil_of_le (Nat.le_of_eq Array.length_toList)

theorem Facing.record_of_retries {h : Happening} (hretries : h.retries o) :
    h.record s = attempt o (o.reconnects + 1) := by
  obtain ⟨hclosed, htries⟩ := Bool.and_eq_true_iff.mp hretries
  cases h with
  | heard socket event =>
    cases event with
    | closed code reason => exact (hs.record_closed socket code reason).trans (if_pos htries)
    | _ => cases hclosed
  | _ => cases hclosed

theorem Facing.sockets_closed (socket : Nat) (code reason : Value) :
    ((Happening.heard socket (.closed code reason)).op.after s).link.sockets =
      s.link.sockets + if o.tries then 1 else 0 := by
  rw [(hs.step _).sockets, hs.sockets, (Happening.turn_spec _ o).2.2.1]
  rfl

theorem Facing.reconnects_eq (h : Happening) : h.reconnects s = h.retries o := by
  unfold Happening.reconnects
  rw [(hs.step h).sockets, hs.sockets, (h.turn_spec o).2.2.1]
  by_cases hretries : h.retries o
  · have hconn : h.isConnect = false := by
      cases h with
      | connect => cases hretries
      | _ => rfl
    simp [hretries, hconn]
  · cases hconn : h.isConnect with
    | true => simp [hretries]
    | false => simp [hretries]

end

theorem turn_reconnects_le (ho : o.reconnects ≤ Link.mostReconnects) (h : Happening) :
    (h.turn o).reconnects ≤ Link.mostReconnects := by
  rw [(h.turn_spec o).2.2.2]
  by_cases hopened : h.isOpened
  · rw [if_pos hopened]
    exact Nat.zero_le _
  · rw [if_neg hopened]
    by_cases hretries : h.retries o
    · have hfew := (Bool.and_eq_true_iff.mp (Bool.and_eq_true_iff.mp hretries).2).2
      rw [if_pos hretries]
      exact of_decide_eq_true hfew
    · rw [if_neg hretries]
      exact ho

theorem foldl_turn_reconnects_le (ho : o.reconnects ≤ Link.mostReconnects)
    (course : List Happening) :
    (course.foldl (fun o h => h.turn o) o).reconnects ≤ Link.mostReconnects :=
  List.foldlRecOn course _ (motive := (Outlook.reconnects · ≤ Link.mostReconnects)) ho
    fun _ ho h _ => turn_reconnects_le ho h

theorem attempt_turn (h : Happening) (o : Outlook) : attempt (h.turn o) = attempt o := by
  unfold attempt
  rw [(h.turn_spec o).1, (h.turn_spec o).2.1]

theorem Facing.reconnections_eq (hs : Facing o s)
    {stretch : List Happening} (hstr : ∀ h ∈ stretch, h.isOpened = false) :
    ∃ n, (stretch.foldl (fun o h => h.turn o) o).reconnects = o.reconnects + n ∧
      reconnections stretch s = (List.range' (o.reconnects + 1) n).map (attempt o) := by
  induction stretch generalizing o s with
  | nil => exact ⟨0, rfl, rfl⟩
  | cons h rest ih =>
    rw [List.forall_mem_cons] at hstr
    obtain ⟨n, hcnt, hrest⟩ := ih (hs.step h) hstr.2
    have hturn := (h.turn_spec o).2.2.2
    rw [if_neg (Bool.eq_false_iff.mp hstr.1)] at hturn
    rw [attempt_turn] at hrest
    unfold reconnections
    rw [hs.reconnects_eq h]
    by_cases hretries : h.retries o
    · -- the event makes the next attempt, and the rest go on from there
      rw [if_pos hretries] at hturn ⊢
      rw [hrest, hs.record_of_retries hretries]
      rw [hturn] at hcnt ⊢
      refine ⟨n + 1, hcnt.trans (Nat.add_right_comm ..), ?_⟩
      rw [List.range'_succ, List.map_cons]
    · rw [if_neg hretries] at hturn ⊢
      rw [hrest, hturn]
      rw [hturn] at hcnt
      exact ⟨n, hcnt, rfl⟩

theorem foldl_attempt_turn (course : List Happening) (o : Outlook) :
    attempt (course.foldl (fun o h => h.turn o) o) = attempt o := by
  induction course generalizing o with
  | nil => rfl
  | cons h rest ih => exact (ih (h.turn o)).trans (attempt_turn h o)

theorem Fresh.reconnects (hs : s.Fresh) : s.link.reconnects = 0 := by
  obtain ⟨address, vehicleId, trusting, hlink⟩ := hs.exists_link
  rw [hlink]

theorem foldl_turn_reconnects_of_getLast {past : List Happening}
    (hpast : ∀ h ∈ past.getLast?, h.isOpened) (ho : o.reconnects = 0) :
    (past.foldl (fun o h => h.turn o) o).reconnects = 0 := by
  obtain rfl | ⟨before, h, rfl⟩ := past.eq_nil_or_concat
  · exact ho
  · rw [List.concat_eq_append, List.foldl_append, List.foldl_cons, List.foldl_nil,
      (h.turn_spec _).2.2.2, if_pos (hpast h (by simp))]

/-- The attempts to connect again are at most five in a row, whatever happens. A socket that closes
is replaced by one new socket unless all five have been made, and then it brings about nothing, or
unless the one who listens cannot be told. From the start until a socket opens, and from one time
that a socket opens until the next, every new socket that nobody asked for comes from one attempt:
one pause, which doubles with each attempt up to half a minute, and then one socket. -/
theorem reconnections_backed_off {s : Station} (hs : s.Fresh) :
    (∀ course socket code reason,
      let t := Op.runAll Happening.op course s
      let closing := Happening.heard socket (.closed code reason)
      t.link.reconnects ≤ 5 ∧
      (closing.op.after t).link.sockets = t.link.sockets +
        (if t.link.reconnects = 5 ∨ Link.deaf t.link.onDisconnect = true then 0 else 1) ∧
      (t.link.reconnects = 5 → closing.record t = [])) ∧
    ∀ past stretch : List Happening, (∀ h ∈ past.getLast?, h.isOpened = true) →
      (∀ h ∈ stretch, h.isOpened = false) →
      let start := Op.runAll Happening.op past s
      let made := (Op.runAll Happening.op stretch start).link.reconnects
      made ≤ 5 ∧ reconnections stretch start = (List.range' 1 made).map fun k =>
        [.slept (.int (min (twoPow k) 30 : Nat)),
          .socket s.link.address.socketUrl (Value.record [("X-Vehicle-ID", s.link.vehicleId)])] := by
  have hstart : Facing s.link.outlook s := ⟨rfl, hs.limits⟩
  have hfew : s.link.outlook.reconnects ≤ Link.mostReconnects := by
    rw [show s.link.outlook.reconnects = 0 from hs.reconnects]
    exact Nat.zero_le _
  refine ⟨fun course socket code reason => ?_, fun past stretch hpast hstretch => ?_⟩
  · intro t closing
    have hrun := hstart.run course
    have ht : Facing t.link.outlook t := ⟨rfl, hrun.2⟩
    have hmost : t.link.reconnects ≤ Link.mostReconnects := by
      rw [hrun.reconnects]
      exact foldl_turn_reconnects_le hfew course
    have htries : t.link.outlook.tries = true ↔
        ¬ (t.link.reconnects = 5 ∨ Link.deaf t.link.onDisconnect = true) :=
      Link.Outlook.tries_iff hmost
    refine ⟨hmost, ?_, fun hfive => ?_⟩
    · rw [← ite_not, ← if_congr htries rfl rfl]
      exact ht.sockets_closed socket code reason
    · rw [ht.record_closed, if_neg fun h => htries.mp h (.inl hfive)]
  · intro start made
    have hpaused := hstart.run past
    obtain ⟨n, hcount, hall⟩ := hpaused.reconnections_eq hstretch
    rw [foldl_turn_reconnects_of_getLast hpast hs.reconnects, Nat.zero_add] at hcount hall
    have hmade : made = n := (hpaused.run stretch).reconnects.trans hcount
    rw [hmade, hall, foldl_attempt_turn]
    refine ⟨?_, rfl⟩
    rw [← hcount]
    exact foldl_turn_reconnects_le (foldl_turn_reconnects_le hfew past) stretch

def arrival : List Happening := [.connect, .heard 0 .opened]

def decline : List Happening :=
  (List.range 7).map fun k => .heard k (.closed (.int 1006) (.str ""))

/-- Of seven sockets that close, five are replaced, after two, four, eight, sixteen and thirty
seconds. -/
theorem reconnections_backed_off_seven_closings :
    unlinked.Fresh ∧ (∀ h ∈ arrival.getLast?, h.isOpened = true) ∧
      (∀ h ∈ decline, h.isOpened = false) ∧
      reconnections decline (Op.runAll Happening.op arrival unlinked) =
        [2, 4, 8, 16, 30].map fun seconds => [.slept (.int seconds), .socket
          "ws://lanser.fun/block/ws/gateway" (Value.record [("X-Vehicle-ID", .str "vehicle-001")])] := by
  have hpast : ∀ h ∈ arrival.getLast?, h.isOpened = true := by
    simp [arrival, Happening.isOpened]
  have hstretch : ∀ h ∈ decline, h.isOpened = false := by simp [decline, Happening.isOpened]
  have hmade : (Op.runAll Happening.op decline
      (Op.runAll Happening.op arrival unlinked)).link.reconnects = 5 := by decide +kernel
  have hurl : unlinked.link.address.socketUrl = "ws://lanser.fun/block/ws/gateway" := by
    decide +kernel
  refine ⟨fresh_unlinked, hpast, hstretch, ?_⟩
  rw [((reconnections_backed_off fresh_unlinked).2 arrival decline hpast hstretch).2, hmade, hurl]
  rfl

end Station

end Rover
