import Rover.Proofs.Station.Course

/-!
# What is sent, and when

Whatever a station does, it sends by one operation, which puts the name of the vehicle and the time
on an object and sends it over an open link. The link is open only while the last report about a
connection was that it has opened, so nothing is sent at any other moment.
-/

namespace Rover

open Link List Op

open Value (lookup? same toInteger)

theorem Value.str_same_iff (t : String) (v : Value) : same (.str t) v ↔ v = .str t := by
  cases v with
  | str u =>
    simp only [same, beq_iff_eq, Value.str.injEq]
    exact eq_comm
  | _ => simp [same, num?]

/-! ## One message -/

namespace Link

/-- The entries of a message as they are sent: those that were given, and behind them the name of
the vehicle and the time in whole seconds, unless they were given. -/
structure Labelled (vehicleId : Value) (clock : Float) (entries sent : Entries) :
    Prop where
  given : entries <+: sent
  vehicle : lookup? sent (.str "vehicle_id") =
    some ((lookup? entries (.str "vehicle_id")).getD vehicleId)
  time : (lookup? entries (.str "timestamp")).isSome ∧
      lookup? sent (.str "timestamp") = lookup? entries (.str "timestamp") ∨
    lookup? entries (.str "timestamp") = none ∧ ∃ now,
      toInteger (.float clock) = .ok now ∧
      lookup? sent (.str "timestamp") = some (.int now)
  others : ∀ key, key ≠ .str "vehicle_id" → key ≠ .str "timestamp" →
    lookup? sent key = lookup? entries key

theorem prefix_withLabel (key : String) (v : Value) (entries : Entries) :
    entries <+: withLabel key v entries := by
  unfold withLabel
  split
  · exact prefix_refl _
  · exact prefix_append _ _

theorem lookup?_withLabel_of_ne {key : String} {other : Value} (h : other ≠ .str key) (v : Value)
    (entries : Entries) :
    lookup? (withLabel key v entries) other = lookup? entries other := by
  apply lookup?_withLabel_of_not_same
  rw [Bool.eq_false_iff, ne_eq, Value.str_same_iff]
  exact h

theorem labelled_withLabel {entries : Entries}
    (htime : (lookup? entries (.str "timestamp")).isSome) (vehicleId : Value)
    (clock : Float) :
    Labelled vehicleId clock entries (withLabel "vehicle_id" vehicleId entries) where
  given := prefix_withLabel _ _ _
  vehicle := lookup?_withLabel_self _ _ _
  time := .inl ⟨htime, lookup?_timestamp_withLabel _ _⟩
  others _ hveh _ := lookup?_withLabel_of_ne hveh _ _

theorem labelled_labelled {entries : Entries}
    (htime : lookup? entries (.str "timestamp") = none) (l : Link) {clock : Float} {now : Int}
    (hnow : toInteger (.float clock) = .ok now) :
    Labelled l.vehicleId clock entries (labelled l now entries) where
  given := (prefix_withLabel _ _ _).trans (prefix_withLabel _ _ _)
  vehicle := by
    unfold labelled
    rw [lookup?_withLabel_of_ne (by simp), lookup?_withLabel_self]
  time := by
    refine .inr ⟨htime, now, hnow, ?_⟩
    unfold labelled
    rw [lookup?_withLabel_self, lookup?_timestamp_withLabel, htime]
    rfl
  others key hveh htimestamp := by
    unfold labelled
    rw [lookup?_withLabel_of_ne htimestamp, lookup?_withLabel_of_ne hveh]

theorem complete_cases (l : Link) (clock : Float) (entries : Entries) :
    (∃ sent, Labelled l.vehicleId clock entries sent ∧
      l.complete (toInteger (.float clock)) (.dict entries) = .ok (.dict sent)) ∨
    lookup? entries (.str "timestamp") = none ∧ ∃ f,
      toInteger (.float clock) = .error f ∧
      l.complete (toInteger (.float clock)) (.dict entries) = .error f := by
  cases htime : lookup? entries (.str "timestamp") with
  | some time =>
    refine .inl ⟨_, labelled_withLabel (by rw [htime]; rfl) _ _, ?_⟩
    simp only [complete, htime]
    rfl
  | none =>
    cases hnow : toInteger (.float clock) with
    | ok now => exact .inl ⟨_, labelled_labelled htime l hnow, complete_dict _ _ _⟩
    | error f =>
      refine .inr ⟨rfl, f, rfl, ?_⟩
      simp only [complete, htime]
      rfl

end Link

namespace Station

open Link (Labelled)

/-- The text that leaves the station when it is to send these entries: none if the link is not up,
if the transfer fails, or if there is no text for them. -/
def frame (s : Station) (sent : Entries) : List String :=
  if s.link.isConnected ∧ s.runner.vehicle.rig.pendingFaults ≤ 0 then
    (Json.write true (.dict sent)).toOption.toList
  else []

def sentFor (s : Station) (entries : Entries) : List String :=
  ((onNet (send (.dict entries))).after s).sent.drop s.sent.length

section
variable {s : Station} {entries : Entries}

theorem sentFor_eq {texts : List String}
    (h : ((onNet (send (.dict entries))).after s).sent = s.sent ++ texts) :
    s.sentFor entries = texts := by
  unfold sentFor
  rw [h]
  exact drop_left

theorem of_mem_frame {sent : Entries} {text : String} (h : text ∈ s.frame sent) :
    s.link.isConnected ∧ Json.write true (.dict sent) = .ok text := by
  unfold frame at h
  by_cases hopen : s.link.isConnected ∧ s.runner.vehicle.rig.pendingFaults ≤ 0
  · rw [if_pos hopen] at h
    cases hwritten : Json.write true (.dict sent) with
    | ok written =>
      rw [hwritten] at h
      rw [mem_singleton.mp h]
      exact ⟨hopen.1, rfl⟩
    | error f =>
      rw [hwritten] at h
      cases h
  · rw [if_neg hopen] at h
    cases h

theorem send_frame {sent : Entries}
    (hsent : s.link.complete (toInteger (.float s.runner.vehicle.rig.clock))
      (.dict entries) = .ok (.dict sent)) :
    wp (onNet (send (.dict entries))) (fun _ t => t.sent = s.sent ++ s.frame sent)
      never s := by
  rw [wp_onNet]
  by_cases hlink : s.link.isConnected
  · apply (wp_send_complete (n := ⟨s.runner.vehicle.rig, s.link⟩) hlink hsent).mpr
    refine (s.runner.vehicle.rig.sent_dispatched _ _).trans (congrArg (s.sent ++ ·) ?_)
    unfold frame
    by_cases hfault : 0 < s.runner.vehicle.rig.pendingFaults
    · rw [if_pos hfault, if_neg (by omega)]
    · rw [if_neg hfault, if_pos ⟨hlink, by omega⟩]
  · apply (wp_send_closed hlink _).mpr
    have hnothing : s.frame sent = [] := if_neg fun h => hlink h.1
    rw [hnothing, append_nil]
    rfl

theorem send_completes
    (htime : (∃ now, toInteger (.float s.runner.vehicle.rig.clock) = .ok now) ∨
      (lookup? entries (.str "timestamp")).isSome) :
    ∃ t, onNet (send (.dict entries)) s = .ok () t ∧
      ∃ sent, Labelled s.link.vehicleId s.runner.vehicle.rig.clock entries sent ∧
        t.sent = s.sent ++ s.frame sent := by
  rcases s.link.complete_cases s.runner.vehicle.rig.clock entries with
    ⟨sent, hlabelled, hsent⟩ | ⟨hnone, f, hclock, -⟩
  · obtain ⟨_, t, hres, ht⟩ := wp_false_iff.mp (send_frame hsent)
    exact ⟨t, hres, sent, hlabelled, ht⟩
  · rcases htime with ⟨now, hnow⟩ | hsome
    · rw [hclock] at hnow
      cases hnow
    · rw [hnone] at hsome
      cases hsome

theorem sent_after_send (s : Station) (entries : Entries) :
    ((onNet (send (.dict entries))).after s).sent = s.sent ++ s.sentFor entries ∧
      ∀ text ∈ s.sentFor entries, s.link.isConnected ∧ ∃ sent,
        Labelled s.link.vehicleId s.runner.vehicle.rig.clock entries sent ∧
        Json.write true (.dict sent) = .ok text := by
  rcases s.link.complete_cases s.runner.vehicle.rig.clock entries with
    ⟨sent, hlabelled, hsent⟩ | ⟨-, f, -, hfail⟩
  · have hafter : ((onNet (send (.dict entries))).after s).sent = s.sent ++ s.frame sent :=
      wp_after_iff.mp (wp_of_total (send_frame hsent) fun _ _ h => h)
    rw [sentFor_eq hafter]
    refine ⟨hafter, fun text htext => ?_⟩
    obtain ⟨hlink, hwritten⟩ := of_mem_frame htext
    exact ⟨hlink, sent, hlabelled, hwritten⟩
  · have hafter : ((onNet (send (.dict entries))).after s).sent = s.sent ++ [] := by
      refine (wp_after_iff (P := fun t : Station => t.sent = s.sent ++ [])).mp ?_
      rw [wp_onNet, append_nil]
      by_cases hlink : s.link.isConnected
      · exact (wp_send_incomplete (n := ⟨s.runner.vehicle.rig, s.link⟩) hlink hfail).mpr rfl
      · exact (wp_send_closed (n := ⟨s.runner.vehicle.rig, s.link⟩) hlink _).mpr rfl
    rw [sentFor_eq hafter]
    exact ⟨hafter, fun _ h => by cases h⟩

end

/-! ## What operations send -/

/-- From a state the operation sends these objects, each from the state that stands with it, and all
else that it does sends nothing. -/
inductive Transmits : {α : Type} → Op Station α → Station →
    List (Station × Entries) → Prop where
  | send (entries : Entries) (s : Station) :
      Transmits (onNet (send (.dict entries))) s [(s, entries)]
  | silent {α : Type} {op : Op Station α} (h : Silent op) (s : Station) : Transmits op s []
  | next {α β : Type} {op : Op Station β} {f : β → Op Station α} {s t : Station} {b : β}
      {calls later : List (Station × Entries)} (hop : Transmits op s calls)
      (hres : op s = .ok b t) (hnext : Transmits (f b) t later) :
      Transmits (op >>= f) s (calls ++ later)
  | stopped {α β : Type} {op : Op Station β} {f : β → Op Station α} {s t : Station} {e : Exit}
      {calls : List (Station × Entries)} (hop : Transmits op s calls)
      (hexit : op s = .error e t) : Transmits (op >>= f) s calls
  | handled {α : Type} {body : Op Station α} {handler : Fault → Op Station α} {s t : Station}
      {f : Fault} {calls later : List (Station × Entries)}
      (hbody : Transmits body s calls) (hfault : body s = .error (.fault f) t)
      (hhandler : Transmits (handler f) t later) :
      Transmits (guarded body handler) s (calls ++ later)
  | unhandled {α : Type} {body : Op Station α} {handler : Fault → Op Station α} {s : Station}
      {calls : List (Station × Entries)} (hbody : Transmits body s calls)
      (hfault : ∀ f t, body s ≠ .error (.fault f) t) : Transmits (guarded body handler) s calls

variable {α : Type}

theorem Silent.sent_after {op : Op Station α} (h : Silent op) (s : Station) :
    (op.after s).sent = s.sent :=
  (h s.sent).after rfl

variable {s : Station}

theorem Transmits.sent_after {op : Op Station α}
    {calls : List (Station × Entries)} (h : Transmits op s calls) :
    (op.after s).sent = s.sent ++ calls.flatMap fun c => c.1.sentFor c.2 := by
  induction h with
  | send entries s => simpa using (sent_after_send s entries).1
  | silent h s => simpa using h.sent_after s
  | next hop hres hnext ihop ihnext =>
    rw [after_bind_of_ok hres, ihnext, ← after_of_ok hres, ihop, flatMap_append,
      append_assoc]
  | stopped hop hexit ihop =>
    rw [after_bind_of_error hexit, ← after_of_error hexit, ihop]
  | handled hbody hfault hhandler ihbody ihhandler =>
    rw [after_guarded_of_fault hfault, ihhandler, ← after_of_error hfault, ihbody,
      flatMap_append, append_assoc]
  | unhandled hbody hfault ihbody => rw [after_guarded_of_not_fault hfault, ihbody]

theorem exists_transmits {P : Link → Prop} [Unminding P] {op : Op Station α}
    (hop : Composed (Deed P) op) (hs : Holds P s) :
    ∃ calls, Transmits op s calls ∧ ∀ c ∈ calls, Holds P c.1 := by
  have hsilent : ∀ {α : Type} {op : Op Station α}, Silent op → ∀ s : Station,
      ∃ calls, Transmits op s calls ∧ ∀ c ∈ calls, Holds P c.1 :=
    fun h s => ⟨[], .silent h s, fun _ hc => by cases hc⟩
  induction hop generalizing s with
  | base h =>
    cases h with
    | send entries => exact ⟨_, .send entries s, fun c hc => by rwa [mem_singleton.mp hc]⟩
    | silent _ h => exact hsilent h s
  | pure a => exact hsilent (fun _ => .pure a) s
  | ofExcept e => exact hsilent (fun _ => .ofExcept e) s
  | @bind α β op f hop hf ihop ihf =>
    obtain ⟨calls, hcalls, hheld⟩ := ihop hs
    -- what is known of the link still holds when the rest begins
    have hafter := (hop.preserves Deed.keeps).wp hs
    cases hres : op s with
    | ok b t =>
      rw [wp_of_ok hres] at hafter
      obtain ⟨later, hlater, hheld'⟩ := ihf b hafter
      exact ⟨_, .next hcalls hres hlater, forall_mem_append.mpr ⟨hheld, hheld'⟩⟩
    | error e t => exact ⟨_, .stopped hcalls hres, hheld⟩
  | @guarded α body handler hbody hhandler ihbody ihhandler =>
    obtain ⟨calls, hcalls, hheld⟩ := ihbody hs
    have hafter := (hbody.preserves Deed.keeps).wp hs
    cases hres : body s with
    | ok a t => exact ⟨_, .unhandled hcalls (by simp [hres]), hheld⟩
    | error e t =>
      cases e with
      | fault f =>
        rw [wp_of_error hres] at hafter
        obtain ⟨later, hlater, hheld'⟩ := ihhandler f hafter
        exact ⟨_, .handled hcalls hres hlater, forall_mem_append.mpr ⟨hheld, hheld'⟩⟩
      | ended => exact ⟨_, .unhandled hcalls (by simp [hres]), hheld⟩

/-! ## Timers -/

theorem isPart_net : Op.IsPart (fun s : Station => (⟨s.runner.vehicle.rig, s.link⟩ : Net))
    (fun s n => { s with
      link := n.link
      runner := { s.runner with vehicle := { s.runner.vehicle with rig := n.rig } } }) where
  read_write _ _ := rfl
  write_write _ _ _ := rfl
  write_read _ := rfl

section
variable {P : Link → Prop}

/-- What the station does with its net, put together. -/
def Netted (P : Link → Prop) (α : Type) (op : Op Net α) : Prop := Composed (Deed P) (onNet op)

theorem onNet_of_composed {α : Type} {op : Op Net α} (h : Composed (Netted P) op) :
    Composed (Deed P) (onNet op) :=
  h.onPart isPart_net fun _ _ hop => hop

instance : Composed (Netted P) (get : Op Net Net) := .base (composed_link .get fun _ => .get)

instance {α : Type} {op : Op Rig α} [Composed Rig.Elementary op] :
    Composed (Netted P) (liftM op : Op Net α) :=
  .base (inferInstanceAs (Composed _ (onNet (liftM op))))

instance (fields : Record) : Composed (Netted P) (send (record fields)) :=
  .base (composed_send _)

variable [hP : Untimed P]

instance (task : TimerTask) : Composed (Netted P) (runTask task) := by
  have hstart : Composed (Netted P) startHeartbeat :=
    .base (composed_link .of_parts fun _ => .of_parts)
  unfold runTask sendRegister beat sendHeartbeat sendData
  cases task <;> infer_instance

instance (clock : Net → Float) :
    Composed (Netted P) (modify fun n => { n with rig := { n.rig with clock := clock n } }) :=
  .base (composed_link (.modify fun n hn => Net.Timeless.clock n _ hn) fun _ => .modify fun _ hn => hn)

instance (target : Float) (most : Nat) : Composed (Netted P) (fireUntil target most) := by
  induction most with
  | zero => exact .pure _
  | succ most ih =>
    refine .bind inferInstance fun n => ?_
    cases nextDue n.link.timers with
    | none => exact .pure _
    | some t =>
      refine .ite (.pure _) (.bind (.base (composed_link (.modify fun n hn => ?_)
        fun _ => .modify fun _ hn => hn)) inferInstance)
      exact Net.Timeless.timers n _ n.link.nextTimer n.link.heartbeat hn

instance (duration : Value) : Composed (Netted P) (elapse duration) := by
  unfold elapse
  infer_instance

end

/-! ## Occasions -/

inductive Occasion where
  | link (h : Happening)
  | rang (task : TimerTask)
  | greeted
  | parted
  | visited (target : String)

namespace Occasion

def op : Occasion → Op Station Unit
  | link h => h.op
  | rang task => onNet (runTask task)
  | greeted => greet
  | parted => bidFarewell
  | visited target => do let _ ← reply target

def ends : Occasion → Bool
  | link .disconnect | link (.heard _ (.closed ..)) => true
  | _ => false

def isTurn : Occasion → Bool
  | link .connect | link .disconnect | link (.heard _ .opened) | link (.heard _ (.closed ..))
  | link (.listened ..) => true
  | _ => false

def isProper (o : Occasion) (s : Station) : Bool :=
  match o with
  | link (.heard socket _) => decide (socket < s.link.sockets)
  | link (.sent (.dict _)) => true
  | link (.sent _) => false
  | _ => true

theorem composed_reply {P : Link → Prop} (target : String) : Composed (Deed P) (reply target) := by
  refine .except fun address => .ite (.pure _) ?_
  extract_lets path page?
  split <;> infer_instance

variable {o : Occasion}

theorem composed_op {P : Link → Prop} [Untimed P] {s : Station} (hturn : o.isTurn = false)
    (hprop : o.isProper s) : Composed (Deed P) o.op := by
  cases o with
  | link h =>
    have haside : h.isAside → Composed (Deed P) h.op := by
      intro ha
      apply Happening.composed_of_isAside ha
      rintro message rfl
      cases message with
      | dict entries => exact ⟨entries, rfl⟩
      | _ => cases hprop
    cases h with
    | connect => cases hturn
    | disconnect => cases hturn
    | listened onConnect onDisconnect onError => cases hturn
    | elapsed | fired => exact onNet_of_composed inferInstance
    | heard socket event =>
      cases event with
      | opened => cases hturn
      | closed code reason => cases hturn
      | received text => exact haside rfl
      | errored error => exact haside rfl
    | _ => exact haside rfl
  | rang task => exact onNet_of_composed inferInstance
  | greeted | parted =>
    dsimp only [op, greet, bidFarewell]
    infer_instance
  | visited target => exact .map (composed_reply target)

theorem silent_of_isTurn (hturn : o.isTurn) : Silent o.op := by
  cases o with
  | link h =>
    cases h with
    | connect | disconnect => exact silent_onNet fun _ => .of_parts
    | listened onConnect onDisconnect onError => exact silent_onNet fun _ => .modify fun _ hn => hn
    | heard socket event =>
      cases event with
      | opened | closed => exact silent_onNet fun _ => .of_parts
      | received text => cases hturn
      | errored error => cases hturn
    | _ => cases hturn
  | _ => cases hturn

theorem ends_of_isTurn (hturn : o.isTurn = false) : o.ends = false := by
  unfold ends
  split
  · cases hturn
  · cases hturn
  · rfl

end Occasion

def isProper : List Occasion → Station → Bool
  | [], _ => true
  | o :: rest, s => o.isProper s && isProper rest (o.op.after s)

theorem isProper_append (past rest : List Occasion) (s : Station) :
    isProper (past ++ rest) s =
      (isProper past s && isProper rest (runAll Occasion.op past s)) := by
  induction past generalizing s with
  | nil => rfl
  | cons o past ih =>
    rw [cons_append, isProper, isProper, ih, Bool.and_assoc]
    rfl

def Live (past : List Occasion) : Prop :=
  ∃ before socket later, past = before ++ .link (.heard socket .opened) :: later ∧
    ∀ o ∈ later, o.ends = false

theorem live_opened (past : List Occasion) (socket : Nat) :
    Live (past ++ [.link (.heard socket .opened)]) :=
  ⟨past, socket, [], rfl, fun _ h => by cases h⟩

theorem Live.append {past : List Occasion} (h : Live past) {o : Occasion} (ho : o.ends = false) :
    Live (past ++ [o]) := by
  obtain ⟨before, socket, later, rfl, hlater⟩ := h
  refine ⟨before, socket, later ++ [o], by simp, fun o' ho' => ?_⟩
  rcases mem_append.mp ho' with hmem | hlast
  · exact hlater o' hmem
  · rwa [mem_singleton.mp hlast]

/-- The link is up only while a connection is live, and is still that of the vehicle. -/
structure Up (vehicleId : Value) (past : List Occasion) (l : Link) : Prop where
  live : l.running → Live past
  linked : l.running → l.socket.isSome
  made : 0 < l.sockets → l.socket.isSome
  name : l.vehicleId = vehicleId

section
variable {vehicleId : Value} {past : List Occasion} {o : Occasion}

instance : Untimed (Up vehicleId past) where
  imp _ _ _ h := { h with }
  timers _ _ _ _ h := { h with }

theorem Up.append {l : Link} (h : Up vehicleId past l) (ho : o.ends = false) :
    Up vehicleId (past ++ [o]) l :=
  { h with live := fun hup => (h.live hup).append ho }

theorem Up.down {l : Link} (h : Up vehicleId past l) (later : List Occasion) :
    Up vehicleId later l.down :=
  ⟨fun hup => (by cases hup), fun hup => (by cases hup), h.made, h.name⟩

theorem Up.connected {l : Link} (h : Up vehicleId past l) : Up vehicleId past l.connected :=
  ⟨h.live, fun _ => rfl, fun _ => rfl, h.name⟩

variable {s : Station}

theorem up_turn (hs : Holds (Up vehicleId past) s) (hturn : o.isTurn) (hprop : o.isProper s) :
    Holds (Up vehicleId (past ++ [o])) (o.op.after s) := by
  obtain ⟨hup, hlims⟩ := hs
  cases o with
  | link h =>
    cases h with
    | connect => exact (connect_becomes hlims).holds (hup.append rfl).connected
    | disconnect =>
      refine (disconnect_becomes hlims).holds ?_
      by_cases hsock : s.link.socket.isSome
      · rw [if_pos hsock]
        exact hup.down _
      · -- without a socket the link has never been up
        rw [if_neg hsock]
        exact { hup with live := fun h => absurd (hup.linked h) hsock }
    | heard socket event =>
      cases event with
      | opened =>
        have hmade : socket < s.link.sockets := of_decide_eq_true hprop
        refine (opened_becomes hlims socket).holds ?_
        exact ⟨fun _ => live_opened past socket, fun _ => hup.made (Nat.zero_lt_of_lt hmade),
          hup.made, hup.name⟩
      | closed code reason =>
        refine closed_holds hlims socket code reason (fun _ => Up.connected ?_) fun _ => hup.down _
        exact { hup.down _ with }
      | received text => cases hturn
      | errored error => cases hturn
    | listened onConnect onDisconnect onError => exact ⟨{ hup.append rfl with }, hlims⟩
    | _ => cases hturn
  | _ => cases hturn

theorem up_step (hs : Holds (Up vehicleId past) s)
    (hprop : o.isProper s) : Holds (Up vehicleId (past ++ [o])) (o.op.after s) := by
  cases hturn : o.isTurn with
  | false =>
    -- requests and timers do not touch what is known of the link, and they end no connection
    have hkeeps := (Occasion.composed_op hturn hprop).preserves
      (Deed.keeps (P := Up vehicleId past))
    have hafter := hkeeps.after hs
    exact ⟨hafter.1.append (Occasion.ends_of_isTurn hturn), hafter.2⟩
  | true => exact up_turn hs hturn hprop

theorem Occasion.exists_calls (hs : Holds (Up vehicleId past) s) (o : Occasion)
    (hprop : o.isProper s) :
    ∃ calls, Transmits o.op s calls ∧ ∀ c ∈ calls, Holds (Up vehicleId past) c.1 := by
  cases hturn : o.isTurn with
  | false =>
    exact exists_transmits (Occasion.composed_op hturn hprop) hs
  | true => exact ⟨[], .silent (Occasion.silent_of_isTurn hturn) s, fun _ hc => by cases hc⟩

theorem up_run (hs : Holds (Up vehicleId past) s) {more : List Occasion}
    (hprop : isProper more s) :
    Holds (Up vehicleId (past ++ more)) (runAll Occasion.op more s) := by
  induction more generalizing past s with
  | nil =>
    rw [append_nil]
    exact hs
  | cons o more ih =>
    obtain ⟨ho, hmore⟩ := Bool.and_eq_true_iff.mp hprop
    rw [append_cons]
    exact ih (up_step hs ho) hmore

end

theorem Fresh.up (hs : s.Fresh) : Holds (Up s.link.vehicleId []) s := by
  obtain ⟨address, vehicleId, trusting, hlink⟩ := hs.exists_link
  refine ⟨?_, hs.limits⟩
  rw [hlink]
  exact ⟨fun hup => (by cases hup), fun hup => (by cases hup), fun h => (by cases h), rfl⟩

/-- An object that is to be sent never stops the vehicle, be there a text for it or not, as long as
the clock shows a time or the object has one: it is sent with its labels if the link is up, and
dropped otherwise. And whatever has happened to a station from its start, all that it does next
sends such objects only, and a text leaves it only while a connection is live: one was opened, and
since then none has been closed. -/
theorem frames_live_and_labelled {s : Station} (hs : s.Fresh) (past : List Occasion)
    (next : Occasion) (hproper : isProper (past ++ [next]) s = true) :
    (∀ (t : Station) (entries : List (Value × Value)),
      (∃ now, Value.toInteger (.float t.runner.vehicle.rig.clock) = .ok now) ∨
        (Value.lookup? entries (.str "timestamp")).isSome = true →
      ∃ u, onNet (send (.dict entries)) t = .ok () u ∧
        ∃ sent, Labelled t.link.vehicleId t.runner.vehicle.rig.clock entries sent ∧
          u.sent = t.sent ++ t.frame sent) ∧
    let t := runAll Occasion.op past s
    ∃ calls, Transmits next.op t calls ∧
      (next.op.after t).sent = t.sent ++ calls.flatMap (fun c => c.1.sentFor c.2) ∧
      ∀ c ∈ calls, ∀ text ∈ c.1.sentFor c.2, Live past ∧ ∃ sent,
        Labelled s.link.vehicleId c.1.runner.vehicle.rig.clock c.2 sent ∧
        Json.write true (.dict sent) = .ok text := by
  refine ⟨fun t entries htime => send_completes htime, ?_⟩
  intro t
  rw [isProper_append] at hproper
  obtain ⟨hpast, hnext⟩ := Bool.and_eq_true_iff.mp hproper
  have hup : Holds (Up s.link.vehicleId past) t := up_run hs.up hpast
  obtain ⟨calls, hcalls, hheld⟩ := next.exists_calls hup (Bool.and_eq_true_iff.mp hnext).1
  refine ⟨calls, hcalls, hcalls.sent_after, fun c hc text htext => ?_⟩
  obtain ⟨hlink, sent, hlabelled, hwritten⟩ := (sent_after_send c.1 c.2).2 text htext
  have hc := (hheld c hc).1
  rw [hc.name] at hlabelled
  exact ⟨hc.live (Bool.and_eq_true_iff.mp hlink).1, sent, hlabelled, hwritten⟩

def reopening : List Occasion :=
  [.link .connect, .link (.heard 0 .opened), .link .disconnect, .link (.heard 0 .opened)]

def unspeakable : Entries :=
  [(.str "timestamp", .none), (.str "data", .object "bytes" "b''")]

/-- The vehicle registers over the connection that is open again, and an object without a text does
no harm. -/
theorem frames_live_and_labelled_reopened :
    let t := runAll Occasion.op reopening unlinked
    unlinked.Fresh ∧ isProper (reopening ++ [.rang .register]) unlinked = true ∧
      (∃ text, ((Occasion.rang .register).op.after t).sent = [text] ∧ Live reopening ∧
        ∃ clock entries sent, Labelled (.str "vehicle-001") clock entries sent ∧
          Json.write true (.dict sent) = .ok text) ∧
      (Json.write true (.dict unspeakable)).toOption = none ∧
      ∃ u, onNet (send (.dict unspeakable)) t = .ok () u := by
  intro t
  have hproper : isProper (reopening ++ [.rang .register]) unlinked = true := by decide +kernel
  obtain ⟨hsend, calls, -, hafter, hcalls⟩ :=
    frames_live_and_labelled fresh_unlinked reopening (.rang .register) hproper
  have hone : ((Occasion.rang .register).op.after t).sent.length = 1 := by decide +kernel
  obtain ⟨text, htext⟩ := length_eq_one_iff.mp hone
  refine ⟨fresh_unlinked, hproper, ⟨text, htext, ?_⟩, by decide +kernel, ?_⟩
  · have hnone : t.sent = [] := by decide +kernel
    have hmem : text ∈ calls.flatMap fun c => c.1.sentFor c.2 := by
      rw [hnone, nil_append, htext] at hafter
      exact hafter ▸ mem_singleton_self text
    obtain ⟨c, hc, hsent⟩ := mem_flatMap.mp hmem
    obtain ⟨hlive, sent, hlabelled, hwritten⟩ := hcalls c hc text hsent
    exact ⟨hlive, _, _, sent, hlabelled, hwritten⟩
  · obtain ⟨u, hu, -⟩ := hsend t unspeakable (.inr (by decide +kernel))
    exact ⟨u, hu⟩

end Station

end Rover
