import Rover.Proofs.Onlookers
import Rover.Proofs.Station.Basic

/-!
# Two ways to a program

The cloud and the browsers ask for programs in different ways. What the vehicle does is the same;
the browsers are told about the programs that they asked for, and the log says who asked.
-/

namespace Rover

open Value

open Rig (Twin)

variable {hidden : Event → Bool}

namespace Link

instance {α : Type} {op : Op Rig α} [Even (Rig.Apart (Rig.Veiled hidden)) op] :
    Even (Beside hidden) (liftM op : Op Net α) :=
  .base (HasRig.matches_onRig (fun _ _ _ => ⟨rfl, rfl⟩) (Rig.alike_of_apart .of_parts))

set_option synthInstance.maxSize 1000000000 in
theorem alike_send (message : Value) : Alike (Beside hidden) (send message) := by
  unfold send Rig.debug Rig.warn Rig.error
  exact .of_parts

end Link

namespace Station

section
variable {α : Type}

theorem matches_onRig {op op' : Op Rig α} (h : Matches (Twin hidden) op op') :
    Matches (Beside hidden) (onRig op) (onRig op') :=
  HasRig.matches_onRig (fun _ _ _ => ⟨rfl, rfl⟩) h

theorem alike_onNet {op : Op Net α} (h : Alike (Beside hidden) op) :
    Alike (Beside hidden) (onNet op) :=
  alike_onPart (fun _ _ => ⟨rfl, rfl⟩) (fun _ _ _ _ => ⟨rfl, rfl⟩) h

theorem alike_onRunner {op : Op Runner α} (h : Alike (Beside hidden) op) :
    Alike (Beside hidden) (onRunner op) :=
  alike_onPart (fun _ _ => ⟨rfl, rfl⟩) (fun _ _ _ _ => ⟨rfl, rfl⟩) h

theorem alike_sendData (type : String) (data : Record) :
    Alike (Beside hidden) (onNet (Link.sendData type data)) :=
  alike_onNet (Link.alike_send _)

end

theorem runProgram_matches_runProgram (code execution limit : Value) {a b : Audience}
    (hstarted : Matches (Beside hidden) a.started b.started)
    (hfinished : ∀ report, Matches (Beside hidden) (a.finished report) (b.finished report)) :
    Matches (Beside hidden) (runProgram code execution limit a)
      (runProgram code execution limit b) := by
  refine .bind (alike_sendData _ _) fun _ => .bind hstarted fun _ => ?_
  refine .bind (alike_onRunner (Runner.alike_start code execution limit)) fun report => ?_
  have hrep : ∀ success output error,
      Alike (Beside hidden) (onNet (Link.sendFinished execution success output error)) :=
    fun _ _ _ => alike_sendData _ _
  have hrest : Matches (Beside hidden) (a.finished report >>= fun _ => pure report)
      (b.finished report >>= fun _ => pure report) := .bind (hfinished report) fun _ => Op.Matches.pure _
  exact .ite (.bind (hrep _ _ _) fun _ => hrest) (.bind (hrep _ _ _) fun _ => hrest)

theorem execute_eq_runProgram {entries : Entries} (hcode : (asked entries "code" .none).truth) :
    execute (.dict entries) = (do
      let s ← get
      onRig (Rig.info ("执行代码: " ++ (asked entries "execution_id" .none).text))
      let report ← runProgram (asked entries "code" .none) (asked entries "execution_id" .none)
        (asked entries "timeout" s.settings.timeLimit) {
          started := tellBrowsers "execution_started"
            [("execution_id", asked entries "execution_id" .none)]
          finished := fun report => tellBrowsers "execution_finished"
            ([("execution_id", asked entries "execution_id" .none),
                ("success", .bool (reported report "success" .none).truth)]
              ++ (if (reported report "success" .none).truth then []
                else [("error", reported report "error" .none)])
              ++ [("output", reported report "output" (.list []))]) }
      return record [("success", reported report "success" .none),
        ("execution_id", asked entries "execution_id" .none)]) := by
  funext s
  change (if !(asked entries "code" .none).truth then _ else _ : Op Station Value) s = _
  rw [hcode]
  rfl

def isEmitted : Event → Bool
  | .emitted .. => true
  | _ => false

def doings (s : Station) : List Event := Rig.shown isEmitted s.runner.vehicle.rig.events

theorem fulfil_matches_execute {message : Value} {entries : Entries}
    (hdata : entry message "data" (.dict []) = .ok (.dict entries))
    (hcode : (asked entries "code" .none).truth) :
    Matches (Beside isEmitted) (fulfil .execute message)
      (execute (.dict entries) >>= fun _ => pure ()) := by
  rw [fulfil_execute hdata, execute_eq_runProgram hcode]
  simp only [hcode, if_true, bind_assoc]
  refine matches_look (fun s => ?_) fun _ _ _ => rfl
  refine .bind (matches_onRig (Rig.note_matches_note _ _ _ _)) fun _ => ?_
  have htold : ∀ name data, Matches (Beside isEmitted) (pure ()) (tellBrowsers name data) :=
    fun name data => matches_onRig (Rig.nothing_matches_emit rfl)
  refine .bind (runProgram_matches_runProgram _ _ _ (htold _ _) fun _ => htold _ _) fun _ => ?_
  exact Op.Matches.pure ()

theorem sent_eq_doings (s : Station) : s.sent = s.doings.filterMap Event.sentText? := by
  unfold doings Rig.shown
  rw [List.filterMap_filter]
  unfold sent Rig.sent
  congr 1
  funext e
  cases e <;> rfl

/-- A program that is not empty can be asked for by the cloud or by a browser, in any state of the
station. The same texts are sent to the cloud, the same is done otherwise, too, and the same is
left: only the log and the messages to the browsers differ. Both requests end in the same way. -/
theorem entrances_agree (s : Station) (p code : Value) (hcode : entry p "code" .none = .ok code)
    (htruth : code.truth = true) :
    let request := handle (record [("type", .str "execute_code"), ("data", p)])
    ((execute p).after s).sent = (request.after s).sent ∧
    ((execute p).after s).doings = (request.after s).doings ∧
    (∃ log events, (execute p).after s = { request.after s with
      runner.vehicle.rig.log := log
      runner.vehicle.rig.events := events }) ∧
    (execute p).exit? s = request.exit? s := by
  intro request
  cases p with
  | dict entries =>
    obtain rfl : asked entries "code" .none = code := Except.ok.inj hcode
    have hrequest : request = fulfil .execute
        (record [("type", .str "execute_code"), ("data", .dict entries)]) := by
      apply handle_of_type
      simp [entry, record, lookup?, same, CloudRequest.type]
    have hmatches : Matches (Beside isEmitted) request
        (execute (.dict entries) >>= fun _ => pure ()) := by
      rw [hrequest]
      refine fulfil_matches_execute ?_ htruth
      simp [entry, record, lookup?, same]
    obtain ⟨hexit, hbeside⟩ := hmatches.outcome (s := s) (t := s) ⟨_, rfl, .refl _ _⟩
    obtain ⟨rig, hrig, log, events, rfl, hshown⟩ := hbeside
    have hdoings : ((execute (.dict entries)).after s).doings = (request.after s).doings := by
      rw [hrig]
      exact hshown
    refine ⟨?_, hdoings, ⟨log, events, hrig⟩, hexit⟩
    rw [sent_eq_doings, sent_eq_doings, hdoings]
  | _ => cases hcode

def linked (faults : Int) : Station :=
  { runner := { vehicle := { rig := { pendingFaults := faults } } }
    link := {
      address := .ofUrl "wss://lanser.fun/block/ws/gateway"
      vehicleId := .str "vehicle-001"
      running := true
      socket := some 0 } }

def longWait : Value :=
  record [("code", .str "qianjin(50)\ndengdai(60)"), ("execution_id", .str "e1"),
    ("timeout", .int 1)]

/-- A fault takes the first message, the program moves and is overdue, and the one message that is
left is the same for both who may have asked. -/
theorem entrances_agree_long_wait :
    let request := handle (record [("type", .str "execute_code"), ("data", longWait)])
    (request.after (linked 1)).sent.length = 1 ∧
    1 < (request.after (linked 1)).doings.length ∧
    ((execute longWait).after (linked 1)).sent = (request.after (linked 1)).sent ∧
    (∃ log events, (execute longWait).after (linked 1) = { request.after (linked 1) with
      runner.vehicle.rig.log := log
      runner.vehicle.rig.events := events }) := by
  obtain ⟨hsent, -, hleft, -⟩ := entrances_agree (linked 1) longWait
    (.str "qianjin(50)\ndengdai(60)")
    (by simp [entry, longWait, record, lookup?, same]) (by decide)
  exact ⟨by decide +kernel, by decide +kernel, hsent, hleft⟩

end Station

end Rover
