import Rover.Proofs.Json.Parts
import Rover.Proofs.Station.Exchange

/-!
# Programs that are refused or stopped

A program that is asked for while another one runs is refused, and the executor goes on as before.
The cloud is told of a start and of an end nevertheless, under the name that came with the request;
and so it is when the running program is stopped.
-/

namespace Rover

open List Json

open Json (SameText)

namespace Station

variable (execution : Value)
variable {message : Value}

def IsReport (a : Announcement) : Prop :=
  ∃ type ∈ ["execution_started", "execution_finished"], ∃ more,
    a = ⟨type, record (("execution_id", execution) :: more)⟩

theorem isReport_started : IsReport execution (started execution) := ⟨_, .head _, [], rfl⟩

theorem isReport_finished (success : Bool) (more : Record) :
    IsReport execution (finished execution success more) :=
  ⟨_, .tail _ (.head _), _, rfl⟩

/-- The text says, in the name of some vehicle and with some time, that the program with this name
has started or ended. -/
def TellsOf (text : String) : Prop :=
  ∃ a, IsReport execution a ∧ ∃ vehicleId now, write true (a.signed vehicleId now) = .ok text

def Reports {α : Type} (op : Op Station α) (s : Station) (execution : Value) : Prop :=
  ∃ texts, (op.after s).sent = s.sent ++ texts ∧ ∃ text ∈ texts, TellsOf execution text

variable {execution other : Value} {s : Station}

theorem TellsOf.sameText {text : String} (h : TellsOf execution text)
    (h' : TellsOf other text) : SameText execution other := by
  obtain ⟨_, ⟨type, -, more, rfl⟩, vehicleId, now, htext⟩ := h
  obtain ⟨_, ⟨type', -, more', rfl⟩, vehicleId', now', htext'⟩ := h'
  have hsgn := (SameText.fields ⟨text, htext, htext'⟩).cons.2 (by simp) (by simp)
  exact hsgn.cons.1.fields.cons.1

theorem TellsOf.congr {text : String} (h : TellsOf execution text)
    (hsame : SameText other execution) : TellsOf other text := by
  obtain ⟨_, ⟨type, htype, more, rfl⟩, vehicleId, now, htext⟩ := h
  refine ⟨_, ⟨type, htype, more, rfl⟩, vehicleId, now, ?_⟩
  have hdata : write true (record (("execution_id", other) :: more)) =
      write true (record (("execution_id", execution) :: more)) :=
    write_record_congr (.cons ⟨rfl, hsame.write_eq⟩
      (forall₂_same.mpr fun _ _ => ⟨rfl, rfl⟩))
  rw [← htext]
  exact write_record_congr (.cons ⟨rfl, rfl⟩ (.cons ⟨rfl, hdata⟩
    (forall₂_same.mpr fun _ _ => ⟨rfl, rfl⟩)))

variable {as : List Announcement} {execution : Value}

theorem tellsOf_of_says {texts : List String} (hsaid : List.Forall₂ s.Says as texts)
    (has : ∀ a ∈ as, IsReport execution a) : ∀ text ∈ texts, TellsOf execution text := by
  induction hsaid with
  | nil => exact forall_mem_nil _
  | cons hsays _ ih =>
    rw [forall_mem_cons] at has ⊢
    obtain ⟨now, hnow⟩ := hsays
    exact ⟨⟨_, has.1, _, now, hnow⟩, ih has.2⟩

variable {α : Type} {op : Op Station α}

theorem Sends.reports_iff (h : Sends op s as) (has : ∀ a ∈ as, IsReport execution a) :
    Reports op s other ↔ as ≠ [] ∧ SameText other execution := by
  obtain ⟨texts, hsent, hsaid⟩ := h
  have htells := tellsOf_of_says hsaid has
  constructor
  · rintro ⟨texts', hsent', text, htext, htold⟩
    -- the texts sent are the same, so the report found among them is one of ours
    rw [← append_cancel_left (hsent.symm.trans hsent')] at htext
    refine ⟨?_, htold.sameText (htells text htext)⟩
    rintro rfl
    cases hsaid
    cases htext
  · rintro ⟨hne, hsame⟩
    cases hsaid with
    | nil => exact absurd rfl hne
    | cons hfst hrest =>
      refine ⟨_, hsent, _, mem_cons_self, ?_⟩
      exact (htells _ mem_cons_self).congr hsame

theorem not_reports_of_sent_eq (h : (op.after s).sent = s.sent) : ¬ Reports op s execution := by
  rintro ⟨texts, hsent, text, htext, -⟩
  rw [self_eq_append_right.mp (h.symm.trans hsent)] at htext
  cases htext

def Reachable (s : Station) (execution : Value) : Prop := s.Online ∧ Writable execution

/-- On the way from one state to the other these reports on a program were due. Of those that can
reach the cloud the first ones met the pending faults. -/
structure Passed (s : Station) (execution : Value) (as : List Announcement) (t : Station) :
    Prop where
  told : s.Reachable execution → Told s (as.drop s.runner.vehicle.rig.pendingFaults.toNat) t
  silent : ¬ s.Reachable execution → t.sent = s.sent
  faults : s.Reachable execution → t.runner.vehicle.rig.pendingFaults.toNat =
    s.runner.vehicle.rig.pendingFaults.toNat - as.length
  link : t.link = s.link
  clock : t.runner.vehicle.rig.clock = s.runner.vehicle.rig.clock
  executor : t.runner.executor = s.runner.executor

section
variable {s t : Station} {execution : Value} {as : List Announcement} {a : Announcement}

theorem passed_nil (s : Station) (execution : Value) : Passed s execution [] s where
  told _ := ⟨[], (append_nil _).symm, by rw [drop_nil]; exact .nil⟩
  silent _ := rfl
  faults _ := rfl
  link := rfl
  clock := rfl
  executor := rfl

section

variable (h : Passed s execution as t)
include h

theorem Passed.of_not_reachable (hs : ¬ s.Reachable execution)
    (bs : List Announcement) : Passed s execution bs t :=
  { h with told := fun hreach => absurd hreach hs, faults := fun hreach => absurd hreach hs }

theorem Passed.logged (log : Array LogRecord) :
    Passed s execution as { t with runner.vehicle.rig.log := log } :=
  { h with }

theorem Passed.recorded {e : Event} (he : e.sentText? = none) :
    Passed s execution as
      { t with runner.vehicle.rig.events := t.runner.vehicle.rig.events.push e } := by
  have hsent : sent { t with runner.vehicle.rig.events := t.runner.vehicle.rig.events.push e } =
      t.sent := by
    refine (Rig.sent_push _ _).trans ?_
    rw [he]
    exact append_nil _
  refine { h with told := fun hs => ?_, silent := fun hs => hsent.trans (h.silent hs) }
  obtain ⟨texts, htexts, hsaid⟩ := h.told hs
  exact ⟨texts, hsent.trans htexts, hsaid⟩

theorem Passed.send_of_reachable (hs : s.Reachable execution) (ha : Writable a.data) :
    wp (onNet (Link.send a.message)) (fun _ u => Passed s execution (as ++ [a]) u) never t := by
  have honline : t.Online := hs.1.of_link h.link (h.clock ▸ hs.1.clock)
  obtain ⟨text, hsays, hwp⟩ := honline.exists_announced ha
  have hfaults := h.faults hs
  rw [hwp]
  by_cases hpend : 0 < t.runner.vehicle.rig.pendingFaults
  · -- all that was due so far has met a fault, and so does this
    rw [if_pos hpend]
    obtain ⟨texts, htexts, hsaid⟩ := h.told hs
    refine ⟨fun _ => ⟨texts, ?_, ?_⟩, fun hn => absurd hs hn, fun _ => ?_, h.link, h.clock,
      h.executor⟩
    · exact (Rig.sent_unsent _).trans htexts
    · rw [drop_eq_nil_of_le (by omega)] at hsaid
      rw [drop_eq_nil_of_le (by rw [length_append, length_singleton]; omega)]
      exact hsaid
    · change (t.runner.vehicle.rig.pendingFaults - 1).toNat = _
      rw [length_append, length_singleton]
      omega
  · rw [if_neg hpend]
    refine ⟨fun _ => ?_, fun hn => absurd hs hn, fun _ => ?_, h.link, h.clock, h.executor⟩
    · rw [drop_append_of_le_length (by omega)]
      exact (h.told hs).posted h.link hsays
    · change t.runner.vehicle.rig.pendingFaults.toNat = _
      rw [length_append, length_singleton]
      omega

theorem Passed.send_of_not_reachable (hs : ¬ s.Reachable execution)
    (ha : Writable a.data → Writable execution) :
    wp (onNet (Link.send a.message)) (fun _ u => Passed s execution as u)
      (fun _ u => Passed s execution as u) t := by
  rw [wp_onNet]
  refine wp_mono (Link.send_lost fun hlink hclock now text htext => ?_)
    (fun _ n hn => ?_) fun _ n hn => ?_
  · -- a text of the report shows that the cloud can be reached
    have hpart := (writable_record_iff _).mp ⟨text, htext⟩
    refine hs ⟨⟨?_, ?_, ?_⟩, ha (hpart ("data", _) (by simp))⟩
    · rw [← h.link]
      exact hlink
    · rw [← h.link]
      exact hpart ("vehicle_id", _) (by simp)
    · rw [← h.clock]
      exact hclock
  all_goals
    obtain ⟨log, rfl⟩ := hn
    exact h.logged log

theorem Passed.send (ha : Writable a.data ↔ Writable execution) :
    wp (onNet (Link.send a.message)) (fun _ u => Passed s execution (as ++ [a]) u)
      (fun _ u => ¬ s.Reachable execution ∧ Passed s execution as u) t := by
  by_cases hs : s.Reachable execution
  · exact wp_of_total (h.send_of_reachable hs (ha.mpr hs.2)) fun _ _ hu => hu
  · exact wp_mono (h.send_of_not_reachable hs ha.mp)
      (fun _ _ hu => hu.of_not_reachable hs _) fun _ _ hu => ⟨hs, hu⟩

theorem Passed.sendData (type : String) {more : Record} (hmore : ∀ f ∈ more, Writable f.2) :
    wp (onNet (Link.sendData type (("execution_id", execution) :: more)))
      (fun _ u => Passed s execution
        (as ++ [⟨type, record (("execution_id", execution) :: more)⟩]) u)
      (fun _ u => ¬ s.Reachable execution ∧ Passed s execution as u) t := by
  refine h.send (a := ⟨type, record (("execution_id", execution) :: more)⟩) ?_
  rw [writable_record_iff, forall_mem_cons]
  exact and_iff_left hmore

end

end

def refusal (execution : Value) : List Announcement :=
  [started execution, finished execution false [("output", .list []),
    ("error", .str "已有代码正在执行，请先停止")]]

def emptiness (execution : Value) : List Announcement :=
  [finished execution false [("error", .str "代码为空")]]

theorem wp_start_of_executing {r : Runner} (hr : r.executor.executing)
    {m : Runner.Meanwhile} {code processId timeout : Value}
    {Q : Record → Runner → Prop} {E : Exit → Runner → Prop} :
    wp (Runner.start m code processId timeout) Q E r ↔
      Q [("success", .bool false), ("error", .str "已有代码正在执行，请先停止"),
        ("process_id", r.executor.processId)] r := by
  simp only [Runner.start, hr, wp_bind, wp_get, if_true]
  rfl

section
variable {s t : Station} (hexecuting : s.runner.executor.executing) {execution : Value}
include hexecuting

theorem runProgram_passed (h : Passed s execution [] t) {code limit : Value} {a : Audience}
    (htelling : ∀ as, Returns (Passed s execution as) () (Passed s execution as) a.started)
    (hclosing : ∀ as report,
      Returns (Passed s execution as) () (Passed s execution as) (a.finished report)) :
    wp (runProgram code execution limit a)
      (fun _ u => Passed s execution (refusal execution) u)
      (fun _ u => Passed s execution (refusal execution) u) t := by
  unfold runProgram
  rw [wp_bind]
  -- the start is announced before anybody looks whether a program runs
  refine wp_mono (h.sendData "execution_started" (forall_mem_nil _)) (fun _ u hu => ?_)
    fun _ u hu => hu.2.of_not_reachable hu.1 _
  rw [wp_bind]
  refine wp_of_total (htelling _ u hu) fun _ v hv => ?_
  have hbusy : v.runner.executor.executing := by
    rw [hv.2.executor]
    exact hexecuting
  rw [wp_bind, liftM_runner, wp_onRunner, wp_start_of_executing hbusy]
  -- the refusal is announced as the end of the program that was asked for
  have hmore : ∀ f ∈ [("success", Value.bool false), ("output", .list []),
      ("error", .str "已有代码正在执行，请先停止")], Writable f.2 := by
    simp [writable_bool, writable_str, writable_list_iff]
  change wp (do
      onNet (Link.sendData "execution_finished" [("execution_id", execution),
        ("success", .bool false), ("output", .list []), ("error", .str "已有代码正在执行，请先停止")])
      a.finished _
      return _) _ _ v
  rw [wp_bind]
  refine wp_mono (hv.2.sendData "execution_finished" hmore) (fun _ w hw => ?_)
    fun _ w hw => hw.2.of_not_reachable hw.1 _
  rw [wp_bind]
  exact wp_of_total (hclosing _ _ w hw) fun _ _ hx => hx.2

theorem fulfil_passed {entries : Entries}
    (hdata : entry message "data" (.dict []) = .ok (.dict entries)) :
    Passed s (asked entries "execution_id" .none) (if (asked entries "code" .none).truth then
        refusal (asked entries "execution_id" .none)
      else emptiness (asked entries "execution_id" .none)) ((fulfil .execute message).after s) := by
  refine wp_after_iff.mp ?_
  rw [fulfil_execute hdata, wp_bind, wp_get, wp_bind, wp_onRig, wp_info]
  have hlog := (passed_nil s (asked entries "execution_id" .none)).logged
    (s.runner.vehicle.rig.log.push
      ⟨.info, "收到代码执行请求: " ++ (asked entries "execution_id" .none).text⟩)
  by_cases hcode : (asked entries "code" .none).truth
  · rw [if_pos hcode, if_pos hcode, wp_bind]
    exact runProgram_passed hexecuting hlog (fun _ => .pure _) fun _ _ => .pure _
  · rw [if_neg hcode, if_neg hcode]
    have hmore : ∀ f ∈ [("success", Value.bool false), ("error", .str "代码为空")], Writable f.2 := by
      simp [writable_bool, writable_str]
    exact wp_mono (hlog.sendData "execution_finished" hmore) (fun _ _ hu => hu)
      fun _ _ hu => hu.2.of_not_reachable hu.1 _

omit hexecuting in
theorem execute_eq_of_empty {entries : Entries}
    (hcode : (asked entries "code" .none).truth = false) : execute (.dict entries) = (do
      onRig (Rig.emit (.emitted "error"
        (record [("code", .str "CODE_EMPTY"), ("message", .str "代码为空")])))
      return record [("success", .bool false), ("error", .str "代码为空")]) := by
  funext s
  change (if !(asked entries "code" .none).truth then _ else _ : Op Station Value) s = _
  rw [hcode]
  rfl

theorem execute_passed (entries : Entries) :
    Passed s (asked entries "execution_id" .none) (if (asked entries "code" .none).truth then
        refusal (asked entries "execution_id" .none) else [])
      ((execute (.dict entries)).after s) := by
  refine wp_after_iff.mp ?_
  have hpass := passed_nil s (asked entries "execution_id" .none)
  have hemit : ∀ as name data, let P := Passed s (asked entries "execution_id" .none) as
      Returns P () P (onRig (Rig.emit (.emitted name data))) := by
    intro as name data P u hu
    exact ⟨rfl, hu.recorded rfl⟩
  by_cases hcode : (asked entries "code" .none).truth
  · rw [if_pos hcode, execute_eq_runProgram hcode, wp_bind, wp_get, wp_bind, wp_onRig,
      wp_info, wp_bind]
    exact runProgram_passed hexecuting (hpass.logged _) (fun as => hemit as _ _)
      fun as _ => hemit as _ _
  · rw [if_neg hcode, execute_eq_of_empty (Bool.eq_false_iff.mpr hcode), wp_bind]
    exact wp_of_total (hemit [] _ _ s hpass) fun _ _ hu => hu.2

end

theorem Passed.reports_iff {s : Station} {execution other : Value}
    (h : Passed s execution as (op.after s)) (has : ∀ a ∈ as, IsReport execution a) :
    Reports op s other ↔ s.Online ∧ SameText other execution ∧
      s.runner.vehicle.rig.pendingFaults.toNat < as.length := by
  by_cases hs : s.Reachable execution
  · have hsends : Sends op s (as.drop s.runner.vehicle.rig.pendingFaults.toNat) := h.told hs
    rw [hsends.reports_iff fun a ha => has a (mem_of_mem_drop ha), Ne,
      drop_eq_nil_iff, Nat.not_le, and_comm]
    exact (and_iff_right hs.1).symm
  · refine iff_of_false (not_reports_of_sent_eq (h.silent hs)) fun hn => ?_
    obtain ⟨honline, ⟨text, -, htext⟩, -⟩ := hn
    exact hs ⟨honline, text, htext⟩

theorem isReport_of_mem_refusal {a : Announcement}
    (h : a ∈ refusal execution) : IsReport execution a := by
  simp only [refusal, mem_cons, not_mem_nil, or_false] at h
  rcases h with rfl | rfl
  · exact isReport_started execution
  · exact isReport_finished execution _ _

section
variable {s : Station} (hexecuting : s.runner.executor.executing) {other : Value}
include hexecuting

theorem fulfil_reports_iff {entries : Entries}
    (hdata : entry message "data" (.dict []) = .ok (.dict entries)) :
    Reports (fulfil .execute message) s other ↔
      s.Online ∧ SameText other (asked entries "execution_id" .none) ∧
        s.runner.vehicle.rig.pendingFaults ≤
          if (asked entries "code" .none).truth then 1 else 0 := by
  have hpass := fulfil_passed hexecuting hdata
  by_cases hcode : (asked entries "code" .none).truth
  · rw [if_pos hcode] at hpass ⊢
    rw [hpass.reports_iff fun a ha => isReport_of_mem_refusal ha, refusal, length_cons,
      length_singleton]
    refine and_congr_right' (and_congr_right' ?_)
    omega
  · rw [if_neg hcode] at hpass ⊢
    have hrep : ∀ a ∈ emptiness (asked entries "execution_id" .none),
        IsReport (asked entries "execution_id" .none) a := by
      intro a ha
      rw [mem_singleton.mp ha]
      exact isReport_finished _ _ _
    rw [hpass.reports_iff hrep, emptiness, length_singleton]
    refine and_congr_right' (and_congr_right' ?_)
    omega

theorem execute_reports_iff (entries : Entries) :
    Reports (execute (.dict entries)) s other ↔
      s.Online ∧ SameText other (asked entries "execution_id" .none) ∧
        (asked entries "code" .none).truth ∧ s.runner.vehicle.rig.pendingFaults ≤ 1 := by
  have hpass := execute_passed hexecuting entries
  by_cases hcode : (asked entries "code" .none).truth
  · rw [if_pos hcode] at hpass
    rw [hpass.reports_iff fun a ha => isReport_of_mem_refusal ha, refusal, length_cons,
      length_singleton, and_iff_right hcode]
    refine and_congr_right' (and_congr_right' ?_)
    omega
  · rw [if_neg hcode] at hpass
    rw [hpass.reports_iff (forall_mem_nil _)]
    refine iff_of_false (fun h => ?_) fun h => hcode h.2.2.1
    exact absurd h.2.2 (Nat.not_lt_zero _)

end

/-- While a program runs, a request for another one leaves the executor as it is, whoever asks. The
cloud is nevertheless told that the running program has started or ended, exactly if it can be
reached, the request carries the name of the running program, and fewer faults are pending than
messages are due: two for a program that is not empty, and one, from the cloud only, for an empty
one. -/
theorem running_program_reported_iff (s : Station)
    (hexecuting : s.runner.executor.executing = true) (message payload : Value)
    (htype : entry message "type" .none = .ok (.str "execute_code"))
    (hdata : entry message "data" (.dict []) = .ok payload) :
    (Reports (handle message) s s.runner.executor.processId ↔
      s.Online ∧ ∃ entries, payload = .dict entries ∧
        SameText s.runner.executor.processId (asked entries "execution_id" .none) ∧
        s.runner.vehicle.rig.pendingFaults ≤
          if (asked entries "code" .none).truth = true then 1 else 0) ∧
    (Reports (execute payload) s s.runner.executor.processId ↔
      s.Online ∧ ∃ entries, payload = .dict entries ∧
        SameText s.runner.executor.processId (asked entries "execution_id" .none) ∧
        (asked entries "code" .none).truth = true ∧ s.runner.vehicle.rig.pendingFaults ≤ 1) ∧
    ((handle message).after s).runner.executor = s.runner.executor ∧
    ((execute payload).after s).runner.executor = s.runner.executor := by
  rw [handle_of_type (r := .execute) htype]
  cases payload with
  | dict entries =>
    rw [fulfil_reports_iff hexecuting hdata, execute_reports_iff hexecuting entries]
    simp only [Value.dict.injEq, exists_eq_left', true_and]
    exact ⟨(fulfil_passed hexecuting hdata).executor, (execute_passed hexecuting entries).executor⟩
  | _ =>
    -- a request that is no object is refused before anything else happens
    have hcloud : (fulfil .execute message).after s = s := by
      unfold fulfil
      rw [hdata]
      rfl
    simp only [reduceCtorEq, false_and, exists_const, and_false, iff_false]
    exact ⟨not_reports_of_sent_eq (congrArg sent hcloud), not_reports_of_sent_eq rfl,
      congrArg (·.runner.executor) hcloud, rfl⟩

variable (name : String)

def programNamed : Entries :=
  [(.str "code", .str "x = 1"), (.str "execution_id", .str name)]

def requestNamed : Value :=
  record [("type", .str "execute_code"), ("data", .dict (programNamed name))]

theorem entry_type_requestNamed :
    entry (requestNamed name) "type" .none = .ok (.str "execute_code") := by
  simp [entry, requestNamed, record, Value.lookup?, Value.same]

theorem entry_data_requestNamed :
    entry (requestNamed name) "data" (.dict []) = .ok (.dict (programNamed name)) := by
  simp [entry, requestNamed, record, Value.lookup?, Value.same]

theorem sameText_asked_programNamed_iff (p name : String) :
    SameText (.str p) (asked (programNamed name) "execution_id" .none) ↔
      quote true p = quote true name := by
  simp [SameText, asked, programNamed, Value.lookup?, Value.same, write, eq_comm]

/-- One fault takes the message that a program started; the message that it ended arrives, under the
name of the program that goes on. Under another name nothing is said about this one. -/
theorem running_program_reported_iff_one_fault :
    Reports (handle (requestNamed "p1")) (busyWith 1) (.str "p1") ∧
      ((handle (requestNamed "p1")).after (busyWith 1)).runner.executor.executing = true ∧
      ¬ Reports (handle (requestNamed "p2")) (busyWith 1) (.str "p1") := by
  have hiff := fun name => running_program_reported_iff (busyWith 1) rfl (requestNamed name)
    (.dict (programNamed name)) (entry_type_requestNamed name) (entry_data_requestNamed name)
  refine ⟨?_, ?_, fun h => ?_⟩
  · refine (hiff "p1").1.mpr ⟨online_busyWith 1, _, rfl, ?_, ?_⟩
    · exact (sameText_asked_programNamed_iff "p1" "p1").mpr rfl
    · rw [if_pos]
      · decide
      · simp [asked, programNamed, Value.lookup?, Value.same, Value.truth]
  · rw [(hiff "p1").2.2.1]
    rfl
  · obtain ⟨-, entries, hentries, hsame, -⟩ := (hiff "p2").1.mp h
    obtain rfl := Value.dict.inj hentries
    rw [show (busyWith 1).runner.executor.processId = .str "p1" from rfl,
      sameText_asked_programNamed_iff] at hsame
    have hchars := congrArg String.toList hsame
    rw [toList_quote, toList_quote] at hchars
    revert hchars
    decide

/-- A request that is sent twice makes the cloud believe that the program has ended while it goes
on. -/
theorem repeated_request_reports_running_program :
    (busyWith 0).runner.executor.executing = true ∧
      (busyWith 0).runner.executor.processId = .str "p1" ∧
      Reports (handle (requestNamed "p1")) (busyWith 0) (.str "p1") := by
  refine ⟨rfl, rfl, ?_⟩
  rw [handle_of_type (r := .execute) (entry_type_requestNamed "p1"),
    fulfil_reports_iff rfl (entry_data_requestNamed "p1")]
  refine ⟨online_busyWith 0, (sameText_asked_programNamed_iff "p1" "p1").mpr rfl, ?_⟩
  split <;> decide

/-! ## Programs that are stopped -/

theorem Sends.stopped_iff (h : Sends op s [stopped execution]) :
    Sends op s [stopped other] ↔ SameText other execution := by
  obtain ⟨texts, hsent, hsaid⟩ := h
  obtain ⟨text, hsays, rfl⟩ : ∃ text, s.Says (stopped execution) text ∧ texts = [text] := by
    cases hsaid with
    | cons hsays hnil => cases hnil; exact ⟨_, hsays, rfl⟩
  obtain ⟨now, htext⟩ := hsays
  constructor
  · rintro ⟨texts', hsent', hsaid'⟩
    rw [← append_cancel_left (hsent.symm.trans hsent')] at hsaid'
    cases hsaid' with
    | cons hsays' _ =>
      obtain ⟨now', htext'⟩ := hsays'
      have hsgn := (SameText.fields ⟨text, htext', htext⟩).cons.2 (by simp) (by simp)
      exact hsgn.cons.1.fields.cons.1
  · intro hsame
    have hdata : write true (stopped other).data = write true (stopped execution).data :=
      write_record_congr (.cons ⟨rfl, hsame.write_eq⟩ .nil)
    refine ⟨[text], hsent, .cons ⟨now, ?_⟩ .nil⟩
    rw [← htext]
    exact write_record_congr (.cons ⟨rfl, rfl⟩ (.cons ⟨rfl, hdata⟩
      (forall₂_same.mpr fun _ _ => ⟨rfl, rfl⟩)))

theorem Reached.sendStopped (hs : s.Online) {id : Value} (hid : Writable id) {t : Station}
    (ht : Reached s [] t) :
    wp (onNet (Link.sendStopped id)) (fun _ u => Told s [stopped id] u) never t := by
  have hdata : Writable (stopped id).data := by
    refine (writable_record_iff _).mpr fun f hf => ?_
    rw [mem_singleton.mp hf]
    exact hid
  have hsend := ht.send hs hdata
  exact wp_of_total hsend fun _ _ h => h.1.told

section
variable {s : Station} (hs : s.Online) (hexecuting : s.runner.executor.executing)
  (hmotors : FourMotors s.runner.vehicle.rig.board.motors)
  (hfaults : s.runner.vehicle.rig.pendingFaults ≤ 0)
include hs hexecuting hmotors hfaults

/-- The name of the program is gone once it has been stopped. -/
theorem wp_stopping {α : Type} {Q : α → Station → Prop} {f : Bool → Op Station α} (text : String)
    (hf : ∀ t : Station, t.runner.executor.processId = .none → Reached s [] t →
      wp (f true) Q never t) :
    wp (do onRig (Rig.info text); f (← onRunner Runner.stop)) Q never s := by
  rw [wp_bind, wp_onRig, wp_info, wp_bind, wp_onRunner]
  refine wp_of_total (Runner.stop_spec hexecuting hmotors fun _ => hfaults) fun done r hr => ?_
  obtain ⟨rfl, hexecutor, hleft, hclock, hsent⟩ := hr
  refine hf _ (congrArg Executor.processId hexecutor) ⟨⟨[], ?_, .nil⟩, rfl, ?_, hleft.mpr hfaults⟩
  · exact hsent.trans (append_nil _).symm
  · exact hclock ▸ hs.clock

variable {entries : Entries} (hid : Writable (asked entries "execution_id" .none))
include hid

theorem fulfil_stop_sends (hdata : entry message "data" (.dict []) = .ok (.dict entries)) :
    Sends (fulfil .stop message) s [stopped (asked entries "execution_id" .none)] := by
  refine sends_iff_wp.mpr ?_
  unfold fulfil
  rw [hdata]
  refine wp_of_total (wp_stopping hs hexecuting hmotors hfaults _ fun t _ ht => ?_) fun _ _ h => h
  exact ht.sendStopped hs hid

/-- The name under which a browser's request to stop is passed on. -/
def passedOn (id : Value) : Value := if id.truth then id else .none

theorem stop_sends :
    Sends (stop (.dict entries)) s [stopped (passedOn (asked entries "execution_id" .none))] := by
  have hpass : Writable (passedOn (asked entries "execution_id" .none)) := by
    unfold passedOn
    split
    · exact hid
    · exact writable_none
  refine sends_iff_wp.mpr ?_
  refine wp_of_total (wp_stopping hs hexecuting hmotors hfaults _ fun t hname ht => ?_)
    fun _ _ h => h
  rw [if_pos rfl, wp_bind, wp_get, hname, wp_bind]
  refine wp_of_total (ht.sendStopped hs hpass) fun _ u hu => ?_
  obtain ⟨texts, htexts, hsaid⟩ := hu
  exact ⟨texts, (Rig.sent_push_of_none _ rfl).trans htexts, hsaid⟩

end

/-- A program that runs is stopped without a fault: the cloud is told so once, whoever asks, and the
message names this program exactly if the request does. -/
theorem stopped_program_named_iff (s : Station) (hs : s.Online)
    (hexecuting : s.runner.executor.executing = true)
    (hmotors : FourMotors s.runner.vehicle.rig.board.motors)
    (hfaults : s.runner.vehicle.rig.pendingFaults ≤ 0) (message : Value) (entries : Entries)
    (htype : entry message "type" .none = .ok (.str "stop_execution"))
    (hdata : entry message "data" (.dict []) = .ok (.dict entries))
    (hid : Writable (asked entries "execution_id" .none)) :
    (Sends (handle message) s [stopped s.runner.executor.processId] ↔
      SameText s.runner.executor.processId (asked entries "execution_id" .none)) ∧
    (Sends (stop (.dict entries)) s [stopped s.runner.executor.processId] ↔
      SameText s.runner.executor.processId (passedOn (asked entries "execution_id" .none))) ∧
    ∃ id id', Sends (handle message) s [stopped id] ∧ Sends (stop (.dict entries)) s [stopped id'] := by
  have hcloud := fulfil_stop_sends hs hexecuting hmotors hfaults hid hdata
  have hbrowser := stop_sends hs hexecuting hmotors hfaults hid
  rw [handle_of_type (r := .stop) htype]
  exact ⟨hcloud.stopped_iff, hbrowser.stopped_iff, _, _, hcloud, hbrowser⟩

def stopRequest (data : Entries) : Value :=
  record [("type", .str "stop_execution"), ("data", .dict data)]

def named (name : String) : Entries := [(.str "execution_id", .str name)]

theorem stopped_program_named_iff_own_name :
    Sends (handle (stopRequest (named "p1"))) (busyWith 0) [stopped (.str "p1")] := by
  have hid : asked (named "p1") "execution_id" .none = .str "p1" := by
    simp [asked, named, Value.lookup?, Value.same]
  refine (stopped_program_named_iff (busyWith 0) (online_busyWith 0) rfl rfl (by decide)
    (stopRequest (named "p1")) (named "p1") ?_ ?_ ?_).1.mpr ?_
  · simp [entry, stopRequest, record, Value.lookup?, Value.same]
  · simp [entry, stopRequest, record, Value.lookup?, Value.same]
  · rw [hid]
    exact writable_str _
  · rw [hid]
    obtain ⟨text, htext⟩ := writable_str "p1"
    exact ⟨text, htext, htext⟩

/-- A request without a name stops the program, and the cloud is not told which. -/
theorem nameless_stop_names_nothing :
    ¬ Sends (stop (.dict [])) (busyWith 0) [stopped (.str "p1")] := by
  have hid : Writable (asked [] "execution_id" .none) := writable_none
  have hsends := stop_sends (online_busyWith 0) rfl rfl (by decide) hid
  rw [hsends.stopped_iff]
  rintro ⟨text, hname, hnone⟩
  change write true .none = .ok text at hnone
  simp only [write, Except.ok.injEq] at hname hnone
  have hchars := congrArg String.toList (hname.trans hnone.symm)
  rw [toList_quote] at hchars
  revert hchars
  decide

end Station

end Rover
