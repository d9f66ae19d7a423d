import Rover.Proofs.Executor.Report
import Rover.Proofs.Sensors
import Rover.Proofs.Station.Emergency
import Rover.Proofs.Station.Entrances

/-!
# Requests and answers

Every request of the cloud has its answer, and other messages have none. One request can remain
without its full answer: if a program ends in a fault for which there are no words, the cloud hears
of its start and not of its end.
-/

namespace Rover

open Runner List Link

open Rig (Calm)

/-! ## Stopping without faults -/

theorem Rig.Sound.calmly {r t : Rig} (hr : r.Sound) (hcalm : Calm r t)
    (hfaults : t.pendingFaults ≤ 0) : t.Sound :=
  ⟨hcalm.clock ▸ hr.clock, hfaults⟩

namespace Runner

variable {r : Runner} (hr : r.vehicle.rig.Sound) (hmot : FourMotors r.vehicle.rig.board.motors)
include hr hmot

theorem stop_sound :
    wp stop (fun done t => done = r.executor.executing ∧ t.vehicle.rig.Sound ∧
      t.vehicle.rig.sent = r.vehicle.rig.sent) never r := by
  cases hexec : r.executor.executing with
  | false =>
    simp only [stop, hexec, wp_bind, wp_get]
    exact ⟨rfl, hr, rfl⟩
  | true =>
    refine wp_of_total (stop_spec hexec hmot fun _ => hr.faults) fun done t ht => ?_
    obtain ⟨hdone, -, hfaults, hcalm⟩ := ht
    exact ⟨hdone, hr.calmly hcalm (hfaults.mpr hr.faults), hcalm.sent⟩

theorem emergencyStop_sound :
    wp emergencyStop (fun _ t => t.vehicle.rig.Sound ∧ t.vehicle.rig.sent = r.vehicle.rig.sent)
      never r := by
  have hrest : ∀ rig : Rig, rig.Sound → rig.sent = r.vehicle.rig.sent →
      FourMotors rig.board.motors →
      wp (do let _ ← stop; onRig (Rig.warn "紧急停止已触发"))
        (fun _ t => t.vehicle.rig.Sound ∧ t.vehicle.rig.sent = r.vehicle.rig.sent)
        never { r with vehicle.rig := rig } := by
    intro rig hrig hsent hfour
    rw [wp_bind]
    refine wp_of_total (stop_sound hrig hfour) fun _ t ht => ?_
    exact ⟨⟨ht.2.1.clock, ht.2.1.faults⟩, ht.2.2.trans hsent⟩
  unfold emergencyStop
  rw [wp_bind, wp_get]
  split
  · rw [wp_bind, liftM_rig, wp_onRig]
    refine wp_mono (Motion.halts_stop _ hmot) (fun _ rig hrig => ?_) fun _ rig hrig => ?_
    · obtain ⟨-, hnone, hfour, hcalm⟩ := hrig
      exact hrest rig (hr.calmly hcalm hnone) hcalm.sent hfour
    · have hnone := hr.faults
      omega
  · exact hrest _ hr rfl hmot

end Runner

namespace Station

/-! ## Announcements -/

variable (execution : Value)

def started : Announcement :=
  ⟨"execution_started", record [("execution_id", execution)]⟩

def finished (success : Bool) (more : Record) : Announcement :=
  ⟨"execution_finished", record ([("execution_id", execution), ("success", .bool success)] ++ more)⟩

def stopped : Announcement :=
  ⟨"execution_stopped", record [("execution_id", execution)]⟩

def pictured (request image : Value) : Announcement :=
  ⟨"camera_snapshot_response", record [("request_id", request), ("image", image)]⟩

/-! ## The progress of an exchange -/

/-- The link is open and nothing fails: no fault is pending, the clock shows a time, the board has
its records and the line sensor gives whole numbers; what the station says about itself can be put
into words, and its time limits are at most 100000 seconds. -/
structure Ready (s : Station) : Prop where
  link : s.link.isConnected
  named : Writable s.link.vehicleId
  sound : s.runner.vehicle.rig.Sound
  motors : FourMotors s.runner.vehicle.rig.board.motors
  line : s.runner.vehicle.rig.line.Whole
  vehicle : Writable s.settings.vehicleId
  process : Writable s.runner.executor.processId
  limit : s.settings.timeLimit.Seconds 100000
  usual : s.runner.executor.timeout.Seconds 100000

def Told (s : Station) (announcements : List Announcement) (t : Station) : Prop :=
  ∃ texts, t.sent = s.sent ++ texts ∧ List.Forall₂ s.Says announcements texts

structure Reached (s : Station) (announcements : List Announcement) (t : Station) : Prop where
  told : Told s announcements t
  link : t.link = s.link
  sound : t.runner.vehicle.rig.Sound

def everything : Event → Bool := fun _ => true

theorem beside_told (r : Runner) (log : Array LogRecord) (events : Array Event) :
    Beside everything r { r with vehicle.rig := r.vehicle.rig.told log events } := by
  have hnothing : ∀ events, Rig.shown everything events = [] := by
    intro events
    simp [Rig.shown, everything]
  exact ⟨_, rfl, log, events, rfl, (hnothing _).trans (hnothing _).symm⟩

section
variable {s t : Station} {as : List Announcement}

theorem sends_iff_wp {α : Type} {op : Op Station α} :
    Sends op s as ↔ wp op (fun _ t => Told s as t) (fun _ t => Told s as t) s :=
  (wp_after_iff (P := Told s as)).symm

theorem Ready.reached (hs : s.Ready) : Reached s [] s :=
  ⟨⟨[], (append_nil _).symm, .nil⟩, rfl, hs.sound⟩

theorem Reached.quietly (h : Reached s as t) {r : Runner}
    (hsent : r.vehicle.rig.sent = t.runner.vehicle.rig.sent) (hsound : r.vehicle.rig.Sound) :
    Reached s as { t with runner := r } := by
  obtain ⟨texts, htexts, hsaid⟩ := h.told
  exact ⟨⟨texts, hsent.trans htexts, hsaid⟩, h.link, hsound⟩

theorem Reached.logged (h : Reached s as t) (log : Array LogRecord) :
    Reached s as { t with runner.vehicle.rig.log := log } :=
  ⟨h.told, h.link, h.sound.clock, h.sound.faults⟩

theorem Told.posted (h : Told s as t) (hlink : t.link = s.link) {a : Announcement} {text : String}
    (ha : t.Says a text) : Told s (as ++ [a])
      { t with runner.vehicle.rig := t.runner.vehicle.rig.posted a.type text } := by
  obtain ⟨texts, htexts, hsaid⟩ := h
  obtain ⟨now, hnow⟩ := ha
  rw [hlink] at hnow
  refine ⟨texts ++ [text], (Rig.sent_posted ..).trans ?_,
    rel_append hsaid (.cons ⟨now, hnow⟩ .nil)⟩
  rw [show t.runner.vehicle.rig.sent = _ from htexts, append_assoc]

theorem Ready.online (hs : s.Ready) : s.Online := ⟨hs.link, hs.named, hs.sound.clock⟩

theorem Reached.send (hs : s.Online) (h : Reached s as t) {a : Announcement}
    (ha : Writable a.data) :
    wp (onNet (send a.message))
      (fun _ u => Reached s (as ++ [a]) u ∧ Beside everything t.runner u.runner) never t := by
  obtain ⟨text, hsays, hwp⟩ := (hs.of_link h.link h.sound.clock).exists_announced ha
  have hfaults := h.sound.faults
  rw [hwp, if_neg (by omega)]
  exact ⟨⟨h.told.posted h.link hsays, h.link, h.sound.clock, hfaults⟩, beside_told t.runner _ _⟩

theorem Reached.sendData (hs : s.Ready) (h : Reached s as t) (type : String)
    {data : Record} (hdata : ∀ f ∈ data, Writable f.2) :
    wp (onNet (sendData type data))
      (fun _ u => Reached s (as ++ [⟨type, record data⟩]) u ∧
        Beside everything t.runner u.runner) never t :=
  h.send hs.online (a := ⟨type, record data⟩) ((writable_record_iff _).mpr hdata)

end

/-! ## Programs -/

def given (key : String) : Value → Record
  | .none => []
  | v => [(key, v)]

theorem writable_given {key : String} {v : Value} (h : Writable v) :
    ∀ f ∈ given key v, Writable f.2 := by
  unfold given
  split
  · nofun
  · simp [h]

theorem sendFinished_eq (execution success output error : Value) :
    sendFinished execution success output error = sendData "execution_finished"
      ([("execution_id", execution), ("success", success)] ++
        (given "output" output ++ given "error" error)) := by
  rfl

section
variable {s t : Station} (hs : s.Ready) {as : List Announcement} (h : Reached s as t)
  {execution : Value} (hid : Writable execution)
include hs h hid

theorem Reached.sendStarted :
    wp (onNet (sendStarted execution)) (fun _ u => Reached s (as ++ [started execution]) u ∧
      Beside everything t.runner u.runner) never t :=
  h.sendData hs "execution_started" (by simp [hid])

theorem Reached.sendFinished (success : Bool) {output error : Value} (houtput : Writable output)
    (herror : Writable error) :
    wp (onNet (sendFinished execution (.bool success) output error))
      (fun _ u => ∃ more, Reached s (as ++ [finished execution success more]) u) never t := by
  rw [sendFinished_eq]
  refine wp_of_total (h.sendData hs "execution_finished" ?_) fun _ _ h => ⟨_, h.1⟩
  intro f hf
  rcases mem_append.mp hf with hf | hf
  · simp only [mem_cons, not_mem_nil, or_false] at hf
    obtain rfl | rfl := hf
    · exact hid
    · exact writable_bool _
  · rcases mem_append.mp hf with hf | hf
    · exact writable_given houtput f hf
    · exact writable_given herror f hf

end

/-! ## Pictures -/

variable {s : Station}

theorem wp_picture {Q : Option Raster → Station → Prop} {E : Exit → Station → Prop} :
    wp picture Q E s ↔ match s.runner.vehicle.vision.frame with
      | none => Q none s
      | some scene => if scene.width = 0 ∨ scene.height = 0 then E (.fault .unencodable) s
        else Q (some (.ofScene scene)) s := by
  unfold picture
  rw [wp_bind, wp_get]
  cases s.runner.vehicle.vision.frame with
  | none => exact wp_pure _
  | some scene =>
    by_cases hempty : scene.width = 0 ∨ scene.height = 0
    · simp [hempty]
    · simp [hempty]

/-! ## The single requests -/

inductive Answers (s : Station) (data : Entries) :
    Option CloudRequest → List Announcement → Prop
  | program (hcode : (asked data "code" .none).truth) (success : Bool)
      (more : Record) :
      Answers s data (some .execute) [started (asked data "execution_id" .none),
        finished (asked data "execution_id" .none) success more]
  | emptyProgram (hcode : (asked data "code" .none).truth = false) (more : Record) :
      Answers s data (some .execute) [finished (asked data "execution_id" .none) false more]
  | stop (hexec : s.runner.executor.executing) :
      Answers s data (some .stop) [stopped (asked data "execution_id" .none)]
  | nothingToStop (hexec : s.runner.executor.executing = false) :
      Answers s data (some .stop) []
  | emergencyStop : Answers s data (some .emergencyStop) [confirmation]
  | status (report : Value) : Answers s data (some .status) [⟨"status_update", report⟩]
  | ping : Answers s data (some .ping) [⟨"pong", record []⟩]
  | snapshot (image : Value) :
      Answers s data (some .snapshot) [pictured (asked data "request_id" (.str "unknown")) image]
  | other : Answers s data none []

def Answered (s : Station) (data : Entries) (request : CloudRequest) (t : Station) : Prop :=
  ∃ as, s.Answers data (some request) as ∧ Reached s as t

section
variable {s : Station} (hs : s.Ready) {message : Value} {entries : Entries}
include hs

theorem ping_answered : wp (fulfil .ping message) (fun _ t => s.Answered entries .ping t) never s :=
  wp_of_total (hs.reached.sendData hs "pong" nofun) fun _ _ h => ⟨_, .ping, h.1⟩

theorem emergencyStop_answered :
    wp (fulfil .emergencyStop message) (fun _ t => s.Answered entries .emergencyStop t) never s := by
  change wp (emergency "收到紧急停止请求") _ _ s
  unfold emergency
  rw [wp_bind, wp_onRig, wp_warn, wp_bind, wp_onRunner]
  refine wp_of_total (emergencyStop_sound ⟨hs.sound.clock, hs.sound.faults⟩ hs.motors)
    fun _ r hr => ?_
  have hreached := (hs.reached.logged _).quietly hr.2 hr.1
  exact wp_of_total (hreached.sendData hs "emergency_stop" nofun)
    fun _ _ h => ⟨_, .emergencyStop, h.1⟩

theorem stop_answered (hdata : entry message "data" (.dict []) = .ok (.dict entries))
    (hid : Writable (asked entries "execution_id" .none)) :
    wp (fulfil .stop message) (fun _ t => s.Answered entries .stop t) never s := by
  unfold fulfil
  rw [hdata]
  change wp (do
      onRig (Rig.info ("收到停止执行请求: " ++ (asked entries "execution_id" .none).text))
      if ← onRunner Runner.stop then
        onNet (sendStopped (asked entries "execution_id" .none))) _ _ s
  rw [wp_bind, wp_onRig, wp_info, wp_bind, wp_onRunner]
  refine wp_of_total (stop_sound ⟨hs.sound.clock, hs.sound.faults⟩ hs.motors)
    fun done r hr => ?_
  obtain ⟨hdone, hsound, hsent⟩ := hr
  have hreached := (hs.reached.logged _).quietly hsent hsound
  rw [hdone, wp_ite]
  split
  · rename_i hexec
    exact wp_of_total (hreached.sendData hs "execution_stopped" (by simp [hid]))
      fun _ _ h => ⟨_, .stop hexec, h.1⟩
  · rename_i hidle
    exact ⟨_, .nothingToStop (Bool.eq_false_iff.mpr hidle), hreached⟩

theorem status_answered :
    wp (fulfil .status message) (fun _ t => s.Answered entries .status t) never s := by
  change wp (do
      let data ← (do
        let e := (← get).runner.executor
        let sensors ← onRig Sensors.all
        let s ← get
        return record [("vehicle_id", s.settings.vehicleId), ("busy", .bool e.executing),
          ("process_id", e.processId), ("sensors", sensors)] : Op Station Value)
      onNet (send (record [("type", .str "status_update"), ("data", data)]))) _ _ s
  rw [wp_bind, wp_bind, wp_get, wp_bind, wp_onRig]
  refine wp_of_total (Sensors.returns_all hs.line _ ⟨hs.sound.faults, rfl, rfl, rfl, rfl, rfl⟩) ?_
  rintro sensors rig ⟨hsensors, hrig⟩
  have hreached : Reached s [] { s with runner.vehicle.rig := rig } := by
    refine hs.reached.quietly hrig.sent ⟨?_, hrig.faults⟩
    rw [hrig.clock]
    exact hs.sound.clock
  rw [wp_bind, wp_get, wp_pure]
  refine wp_of_total (hreached.sendData hs "status_update" ?_) fun _ _ h => ⟨_, .status _, h.1⟩
  simp [hs.vehicle, hs.process, hsensors, Sensors.report_writable, writable_bool]

theorem snapshot_answered (hdata : entry message "data" (.dict []) = .ok (.dict entries))
    (hid : Writable (asked entries "request_id" (.str "unknown"))) :
    wp (fulfil .snapshot message) (fun _ t => s.Answered entries .snapshot t) never s := by
  unfold fulfil
  rw [hdata]
  change wp (do
      onRig (Rig.info ("收到摄像头快照请求: " ++ (asked entries "request_id" (.str "unknown")).text))
      sendSnapshot (asked entries "request_id" (.str "unknown"))) _ _ s
  rw [wp_bind, wp_onRig, wp_info]
  have hlog := hs.reached.logged (s.runner.vehicle.rig.log.push
    ⟨.info, "收到摄像头快照请求: " ++ (asked entries "request_id" (.str "unknown")).text⟩)
  have hsend : ∀ {t : Station} (image : String), Reached s [] t →
      wp (onNet (sendPicture (asked entries "request_id" (.str "unknown")) (.str image)))
        (fun _ u => s.Answered entries .snapshot u) never t := by
    intro t image ht
    refine wp_of_total (ht.sendData hs "camera_snapshot_response" ?_)
      fun _ _ h => ⟨_, .snapshot _, h.1⟩
    simp [hid, writable_str]
  unfold sendSnapshot
  rw [wp_guarded, wp_bind, wp_picture]
  cases s.runner.vehicle.vision.frame with
  | none => exact wp_of_total (hsend "" (hlog.logged _)) fun _ _ h => h
  | some scene =>
    by_cases hempty : scene.width = 0 ∨ scene.height = 0
    · simp only [if_pos hempty, wp_bind]
      exact hsend "" (hlog.logged _)
    · simp only [if_neg hempty, wp_bind]
      refine wp_of_total (hsend pictureText hlog) fun _ u h => ?_
      obtain ⟨as, has, h⟩ := h
      exact ⟨as, has, h.logged _⟩

theorem empty_answered (hdata : entry message "data" (.dict []) = .ok (.dict entries))
    (hcode : (asked entries "code" .none).truth = false)
    (hid : Writable (asked entries "execution_id" .none)) :
    wp (fulfil .execute message) (fun _ t => s.Answered entries .execute t) never s := by
  rw [fulfil_execute hdata, wp_bind, wp_get, wp_bind, wp_onRig, wp_info, hcode]
  refine wp_of_total
    ((hs.reached.logged _).sendFinished hs hid false writable_none (writable_str _)) ?_
  rintro _ t ⟨more, ht⟩
  exact ⟨_, .emptyProgram hcode more, ht⟩

theorem runProgram_reaches {t : Station} (h : Reached s [] t)
    (hbeside : Beside everything s.runner t.runner) {code execution timeout : Value}
    (hid : Writable execution)
    (hlim : (limitFor timeout s.runner.executor.timeout).Seconds 100000) :
    wp (runProgram code execution timeout ⟨pure (), fun _ => pure ()⟩)
      (fun _ u => ¬ s.runner.Unspeakable code execution timeout ∧
        ∃ success more, Reached s [started execution, finished execution success more] u)
      (fun _ u => s.runner.Unspeakable code execution timeout ∧ Told s [started execution] u)
      t := by
  unfold runProgram
  rw [wp_bind]
  refine wp_of_total (h.sendStarted hs hid) fun _ u hu => ?_
  obtain ⟨hreached, hbeside'⟩ := hu
  have hbeside := beside_trans hbeside hbeside'
  have hlim : (limitFor timeout u.runner.executor.timeout).Seconds 100000 := by
    obtain ⟨_, hu, -⟩ := hbeside
    rw [hu]
    exact hlim
  rw [wp_bind, wp_pure, wp_bind, liftM_runner, wp_onRunner]
  refine wp_mono (start_reports hreached.sound (by decide) hlim)
    (fun report r hr => ?_) fun _ r hr => ?_
  · obtain ⟨hspeakable, ⟨⟨success, hsuccess⟩, houtput, herror⟩, hsound, hsent⟩ := hr
    have hspeakable : ¬ s.runner.Unspeakable code execution timeout :=
      fun hunspeakable => hspeakable (hunspeakable.beside hbeside)
    have hreached := hreached.quietly hsent hsound
    simp only [reported, hsuccess, Option.getD_some, Value.truth, wp_ite, wp_bind, wp_pure]
    cases success with
    | true =>
      exact wp_of_total (hreached.sendFinished hs hid true houtput writable_none)
        fun _ _ hu => ⟨hspeakable, true, hu⟩
    | false =>
      exact wp_of_total (hreached.sendFinished hs hid false houtput herror)
        fun _ _ hu => ⟨hspeakable, false, hu⟩
  · obtain ⟨texts, htexts, hsaid⟩ := hreached.told
    exact ⟨hr.1.beside (beside_symm hbeside), texts, hr.2.trans htexts, hsaid⟩

end

/-! ## Requests -/

theorem writable_asked {entries : Entries} (h : Writable (.dict entries))
    (key : String) {usual : Value} (husual : Writable usual) :
    Writable (asked entries key usual) := by
  unfold asked
  cases hv : Value.lookup? entries (.str key) with
  | none => exact husual
  | some v => exact Json.writable_of_lookup? h hv

theorem seconds_limitFor {most : Int} {timeout usual : Value}
    (h : timeout = .none ∨ timeout.Seconds most) (husual : usual.Seconds most) :
    (limitFor timeout usual).Seconds most := by
  unfold limitFor
  split
  · exact husual
  · rename_i hne
    exact h.resolve_left hne

def CutOff (s : Station) (data : Entries) (request : Option CloudRequest) : Prop :=
  request = some .execute ∧ (asked data "code" .none).truth ∧
    s.runner.Unspeakable (asked data "code" .none) (asked data "execution_id" .none)
      (asked data "timeout" s.settings.timeLimit)

section
variable {s : Station} (hs : s.Ready) {data : Entries} (hwords : Writable (.dict data))
include hs hwords

theorem execute_answered {message : Value}
    (hdata : entry message "data" (.dict []) = .ok (.dict data))
    (htimeout : ∀ v, Value.lookup? data (.str "timeout") = some v → v = .none ∨ v.Seconds 100000) :
    wp (fulfil .execute message)
      (fun _ t => ¬ s.CutOff data (some .execute) ∧ s.Answered data .execute t)
      (fun _ t => s.CutOff data (some .execute) ∧
        Told s [started (asked data "execution_id" .none)] t) s := by
  have hid := writable_asked hwords "execution_id" writable_none
  cases hcode : (asked data "code" .none).truth with
  | false =>
    refine wp_of_total (empty_answered hs hdata hcode hid) fun _ t ht => ⟨?_, ht⟩
    rintro ⟨-, hcode', -⟩
    cases hcode.symm.trans hcode'
  | true =>
    have hlim : (limitFor (asked data "timeout" s.settings.timeLimit)
        s.runner.executor.timeout).Seconds 100000 := by
      refine seconds_limitFor ?_ hs.usual
      unfold asked
      cases hv : Value.lookup? data (.str "timeout") with
      | none => exact .inr hs.limit
      | some v => exact htimeout v hv
    rw [fulfil_execute hdata, wp_bind, wp_get, wp_bind, wp_onRig, wp_info, if_pos hcode, wp_bind]
    refine wp_mono
      (runProgram_reaches hs (hs.reached.logged _) (beside_told s.runner _ _) hid hlim)
      (fun _ t ht => ?_) fun _ t ht => ?_
    · obtain ⟨hspeakable, success, more, hreached⟩ := ht
      exact ⟨fun hcut => hspeakable hcut.2.2, _, .program hcode success more, hreached⟩
    · exact ⟨⟨rfl, hcode, ht.1⟩, ht.2⟩

theorem fulfil_answered (request : CloudRequest) {message : Value}
    (hdata : entry message "data" (.dict []) = .ok (.dict data))
    (htimeout : ∀ v, Value.lookup? data (.str "timeout") = some v → v = .none ∨ v.Seconds 100000) :
    wp (fulfil request message)
      (fun _ t => ¬ s.CutOff data (some request) ∧ s.Answered data request t)
      (fun _ t => s.CutOff data (some request) ∧
        Told s [started (asked data "execution_id" .none)] t) s := by
  by_cases hexe : request = .execute
  · subst hexe
    exact execute_answered hs hwords hdata htimeout
  have hanswered : wp (fulfil request message) (fun _ t => s.Answered data request t) never s := by
    cases request with
    | execute => exact absurd rfl hexe
    | stop => exact stop_answered hs hdata (writable_asked hwords "execution_id" writable_none)
    | emergencyStop => exact emergencyStop_answered hs
    | status => exact status_answered hs
    | ping => exact ping_answered hs
    | snapshot => exact snapshot_answered hs hdata (writable_asked hwords "request_id" (writable_str _))
  exact wp_of_total hanswered fun _ _ ht => ⟨fun hcut => hexe (Option.some.inj hcut.1), ht⟩

end

theorem CutOff.length_eq_two {data : Entries}
    {request : Option CloudRequest} (h : s.CutOff data request) {as : List Announcement}
    (has : s.Answers data request as) : as.length = 2 := by
  obtain ⟨rfl, hcode, -⟩ := h
  cases has with
  | program => rfl
  | emptyProgram hempty => cases hempty.symm.trans hcode

theorem handle_answered (hs : s.Ready) {fields data : Entries}
    (hwords : Writable (.dict fields)) (hdata : asked fields "data" (.dict []) = .dict data)
    (htimeout : ∀ v, Value.lookup? data (.str "timeout") = some v → v = .none ∨ v.Seconds 100000) :
    wp (handle (.dict fields))
      (fun _ t => ¬ s.CutOff data (CloudRequest.ofType? (asked fields "type" .none)) ∧
        ∃ as, s.Answers data (CloudRequest.ofType? (asked fields "type" .none)) as ∧ Reached s as t)
      (fun _ t => s.CutOff data (CloudRequest.ofType? (asked fields "type" .none)) ∧
        Told s [started (asked data "execution_id" .none)] t) s := by
  have hempty : Writable (.dict []) := (Json.writable_dict_iff []).mpr (forall_mem_nil _)
  have hdatawords : Writable (.dict data) := hdata ▸ writable_asked hwords "data" hempty
  have htype : entry (.dict fields) "type" .none = .ok (asked fields "type" .none) := rfl
  rw [handle_of_entry htype]
  cases CloudRequest.ofType? (asked fields "type" .none) with
  | some request =>
    exact fulfil_answered hs hdatawords request (congrArg Except.ok hdata) htimeout
  | none => exact ⟨fun hcut => Option.some_ne_none _ hcut.1.symm, [], .other, hs.reached⟩

/-- Every message of the cloud has its answers, in their order and with nothing else, exactly if it
does not ask for a program that ends in a fault for which there are no words. Such a request stops
the handler, and the start of the program is all that the cloud is told. -/
theorem request_answered_iff {s : Station} (hs : s.Ready) {fields data : List (Value × Value)}
    (hwords : Writable (.dict fields)) (hdata : asked fields "data" (.dict []) = .dict data)
    (htimeout : ∀ v, Value.lookup? data (.str "timeout") = some v → v = .none ∨ v.Seconds 100000) :
    let request := CloudRequest.ofType? (asked fields "type" .none)
    ((∃ as, s.Answers data request as ∧ Sends (handle (.dict fields)) s as) ↔
      ¬ s.CutOff data request) ∧
    (s.CutOff data request →
      Sends (handle (.dict fields)) s [started (asked data "execution_id" .none)]) ∧
    ((handle (.dict fields)).completes s = true ↔ ¬ s.CutOff data request) := by
  intro request
  have hanswered := handle_answered hs hwords hdata htimeout
  cases hend : handle (.dict fields) s with
  | ok a t =>
    obtain ⟨hspoken, as, has, hreached⟩ := (Op.wp_of_ok hend).mp hanswered
    have hsends : Sends (handle (.dict fields)) s as :=
      sends_iff_wp.mpr ((Op.wp_of_ok hend).mpr hreached.told)
    exact ⟨iff_of_true ⟨as, has, hsends⟩ hspoken, fun hcut => absurd hcut hspoken,
      iff_of_true (by rw [Op.completes, hend]) hspoken⟩
  | error e t =>
    obtain ⟨hcut, htold⟩ := (Op.wp_of_error hend).mp hanswered
    have hsends : Sends (handle (.dict fields)) s [started (asked data "execution_id" .none)] :=
      sends_iff_wp.mpr ((Op.wp_of_error hend).mpr htold)
    have hunanswered : ¬ ∃ as, s.Answers data request as ∧ Sends (handle (.dict fields)) s as := by
      rintro ⟨as, has, hsends'⟩
      cases (hcut.length_eq_two has).symm.trans (hsends'.length_eq hsends)
    exact ⟨iff_of_false hunanswered (not_not_intro hcut), fun _ => hsends,
      iff_of_false (by simp [Op.completes, hend]) (not_not_intro hcut)⟩

theorem ready_linked : (linked 0).Ready where
  link := rfl
  named := writable_str _
  sound := ⟨by decide +kernel, by decide⟩
  motors := rfl
  line := by
    intro v hv
    obtain rfl := mem_singleton.mp hv
    exact ⟨_, rfl⟩
  vehicle := writable_str _
  process := writable_none
  limit := ⟨Value.bounded_int.mpr (by decide), rfl⟩
  usual := ⟨Value.bounded_int.mpr (by decide), rfl⟩

/-- A program that drives off and waits for too long is answered twice. -/
theorem request_answered_iff_long_wait :
    (linked 0).Ready ∧ ∃ success more, Sends (handle (Value.record
      [("type", .str "execute_code"), ("data", longWait)])) (linked 0)
      [started (.str "e1"), finished (.str "e1") success more] := by
  refine ⟨ready_linked, ?_⟩
  have hwords : Writable (Value.record [("type", .str "execute_code"), ("data", longWait)]) := by
    have hlimit : Writable (.int 1) := (Json.writable_int_iff 1).mpr (by decide +kernel)
    simp [longWait, Json.writable_record_iff, Json.writable_str, hlimit]
  have hlimit : ∀ v : Value, v = .int 1 → v = .none ∨ v.Seconds 100000 := by
    rintro v rfl
    exact .inr ⟨Value.bounded_int.mpr (by decide), rfl⟩
  have hanswered := request_answered_iff ready_linked hwords
    (show asked _ _ _ = longWait by simp [asked, Value.lookup?, Value.same])
    fun v hv => hlimit v (by simpa [Value.lookup?, Value.same, eq_comm] using hv)
  obtain ⟨as, has, hsends⟩ := hanswered.1.mpr (hanswered.2.2.mp (by decide +kernel))
  generalize hrequest : CloudRequest.ofType? _ = request at has
  obtain rfl : request = some .execute :=
    hrequest.symm.trans (CloudRequest.ofType?_eq_some_iff.mpr
      (by simp [asked, Value.lookup?, Value.same, CloudRequest.type]))
  cases has with
  | program hcode success more =>
    refine ⟨success, more, ?_⟩
    simpa [asked, Value.lookup?, Value.same, longWait, Value.record] using hsends
  | emptyProgram hcode => simp [asked, Value.lookup?, Value.same, Value.truth] at hcode

def unwritten : Value :=
  record [("code", .str "assert False, 10**5000"), ("execution_id", .str "e1")]

/-- The cloud is not told how a program ended whose fault has no words. -/
theorem unspeakable_fault_unanswered :
    (linked 0).Ready ∧ ∀ success more, ¬ Sends (handle (Value.record
      [("type", .str "execute_code"), ("data", unwritten)])) (linked 0)
      [started (.str "e1"), finished (.str "e1") success more] := by
  refine ⟨ready_linked, ?_⟩
  rintro success more ⟨texts, hsent, hsaid⟩
  have hone : ((handle (Value.record [("type", .str "execute_code"), ("data", unwritten)])).after
      (linked 0)).sent.length = 1 := by decide +kernel
  rw [hsent, length_append, ← hsaid.length_eq] at hone
  cases hone

end Station

end Rover
