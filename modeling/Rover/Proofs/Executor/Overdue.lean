import Rover.Proofs.Executor.Run
import Rover.Proofs.Remote.Driving

/-!
# Programs that run out of time

A program is cut short at its deadline, and the report says so. Nothing is sent to the motors then:
they go on as the program, or whoever asked for a stop meanwhile, told them last.
-/

namespace Rover

open Board (Coherent)
open Chassis (AtRest)

theorem Board.Coherent.atRest_iff {r : Rig} (h : Coherent r) :
    AtRest r.board.motors ↔ ∀ motor : Fin 4, r.speedOf motor = 0 := by
  have hsame : ∀ motor : Fin 4, ∀ v, r.board.motors[(motor : Nat)]? = some v →
      (v.same (.int 0) ↔ r.speedOf motor = 0) := by
    intro motor v hv
    obtain ⟨w, hw, hspeed⟩ := h.agrees motor
    cases hv.symm.trans hw
    rw [Value.same_of_integer? hspeed, decide_eq_true_iff]
  constructor
  · intro hrest motor
    obtain ⟨v, hv, -⟩ := h.agrees motor
    exact (hsame motor v hv).mp (hrest.2 v (List.mem_of_getElem? hv))
  · intro hspeeds
    refine ⟨h.four, fun v hv => ?_⟩
    obtain ⟨i, hi⟩ := List.mem_iff_getElem?.mp hv
    have hlt : i < 4 := by
      rw [← h.four]
      exact (List.getElem?_eq_some_iff.mp hi).1
    exact (hsame ⟨i, hlt⟩ v hi).mpr (hspeeds ⟨i, hlt⟩)

namespace Runner

inductive Deed where
  | faults (n : Int)
  | plea (p : Plea)
  | program (pleas : Nat → Option Plea) (code timeout : Value)

def Deed.perform : Deed → Op Runner Unit
  | faults n => modify fun r => { r with vehicle.rig.pendingFaults := n }
  | plea p => do let _ ← p.answer
  | program pleas code timeout => do let _ ← execute (asking pleas) code timeout

theorem coherent_withDeadline (r : Rig) (d : Option Float) (h : Coherent r) :
    Coherent { r with deadline := d } :=
  h.of_speedOf rfl fun _ => rfl

instance : Rig.Hardy Coherent := ⟨Rig.Elementary.coherent⟩

theorem Deed.keeps_perform (d : Deed) : Keeps (Holds Coherent) d.perform := by
  cases d with
  | faults n => exact .modify fun r hr => Board.Coherent.of_speedOf hr rfl fun _ => rfl
  | plea p =>
    refine .bind ?_ fun _ => .pure _
    cases p with
    | start => exact .map (keeps_start coherent_withDeadline (fun _ => none) _ _ _)
    | _ => exact .map .of_parts
  | program pleas code timeout =>
    exact .map (keeps_execute coherent_withDeadline pleas code timeout)

def overdueText (limit : Value) : String := "执行超时（" ++ limit.text ++ "秒）"

theorem third_of_append {a : String} (b : String) (h : 2 < a.toList.length) :
    (a ++ b).toList[2]? = a.toList[2]? := by
  rw [String.toList_append, List.getElem?_append_left h]

theorem third_of_overdueText (limit : Value) : (overdueText limit).toList[2]? = some '超' := by
  unfold overdueText
  rw [String.append_assoc, third_of_append _ (by decide)]
  decide

theorem ne_overdueText {text : String} (h : text.toList[2]? ≠ some '超') (limit : Value) :
    Value.str text ≠ .str (overdueText limit) := by
  intro heq
  apply h
  rw [Value.str.inj heq, third_of_overdueText]

theorem complaint_ne_overdueText (limit : Value) {ending : Ending} (h : ending ≠ .overdue) :
    ending.complaint limit ≠ .str (overdueText limit) := by
  cases ending with
  | finished => exact Value.noConfusion
  | failed cause =>
    apply ne_overdueText
    rw [third_of_append _ (by decide)]
    decide
  | overdue => exact absurd rfl h

theorem report_inj {success success' : Bool} {error error' : Value} {output output' : List String}
    (h : report success error output = report success' error' output') : error = error' := by
  simp only [report, List.cons.injEq, Prod.mk.injEq] at h
  exact h.2.1.2

section
variable {m : Meanwhile} {code timeout : Value} {r t : Runner}

theorem runs_of_overdue_report (h : execute m code timeout r =
      .ok (report false (.str (overdueText (limitFor timeout r.executor.timeout)))) t) :
    ∃ s, Runs m code timeout r .overdue s ∧
      t = concluded (limitFor timeout r.executor.timeout) .overdue s := by
  cases hexec : r.executor.executing with
  | true =>
    rw [execute_of_executing hexec] at h
    have htext := report_inj (EStateM.Result.ok.inj h).1
    exact absurd htext (ne_overdueText (by decide) _)
  | false =>
    have hcall := outcome_execute m code timeout hexec
    rw [h] at hcall
    generalize hres : report false _ = result at hcall
    cases hcall with
    | refused => exact absurd (report_inj hres).symm (ne_overdueText (by decide) _)
    | @reported ending s hrun hend =>
      have htext := (report_inj hres).symm
      by_cases hlate : ending = .overdue
      · subst hlate
        exact ⟨s, hrun, rfl⟩
      · exact absurd htext (complaint_ne_overdueText _ hlate)

end

/-- From the state in which the motors have not been driven yet, after any programs, pleas and
faults on the bus: when a program is reported to have run out of time, it was cut short, and the
report sent nothing and left the board as it was. So the vehicle is at rest exactly if the last
speed delivered to each motor, by the time the program was cut short, is zero. -/
theorem overdue_at_rest_iff (fresh : Runner)
    (hmotors : fresh.vehicle.rig.board.motors = List.replicate 4 (.int 0))
    (hevents : fresh.vehicle.rig.events = #[]) (deeds : List Deed) {r : Runner}
    (hr : Op.runAll Deed.perform deeds fresh = r) (pleas : Nat → Option Plea)
    (code timeout : Value) {t : Runner}
    (hreport : execute (asking pleas) code timeout r =
      .ok (report false (.str (overdueText (limitFor timeout r.executor.timeout)))) t) :
    ∃ s, Runs (asking pleas) code timeout r .overdue s ∧
      t.vehicle.rig.events = s.vehicle.rig.events ∧ t.vehicle.rig.board = s.vehicle.rig.board ∧
      t.executor.executing = false ∧ t.executor.interrupted = true ∧
      (AtRest t.vehicle.rig.board.motors ↔ ∀ motor : Fin 4, s.vehicle.rig.speedOf motor = 0) := by
  obtain ⟨s, hrun, rfl⟩ := runs_of_overdue_report hreport
  have hfresh : Holds Coherent fresh := Remote.coherent_of_fresh hmotors hevents
  have hbefore : Holds Coherent r := by
    rw [← hr]
    exact Op.runAll_keeps Deed.keeps_perform deeds hfresh
  have hafter : Coherent s.vehicle.rig := hrun.holds coherent_withDeadline hbefore
  exact ⟨s, hrun, rfl, rfl, rfl, rfl, hafter.atRest_iff⟩

def reportsOverdue (limit : Value) (p : List Value → Bool) :
    EStateM.Result Exit Runner Record → Bool
  | .ok [("success", .bool false), ("error", .str text), ("output", .list [])] t =>
    text == overdueText limit && p t.vehicle.rig.board.motors
  | _ => false

theorem exists_of_reportsOverdue {limit : Value} {p : List Value → Bool}
    {outcome : EStateM.Result Exit Runner Record} (h : reportsOverdue limit p outcome) :
    ∃ t, outcome = .ok (report false (.str (overdueText limit))) t ∧
      p t.vehicle.rig.board.motors := by
  unfold reportsOverdue at h
  split at h
  · rename_i text t
    rw [Bool.and_eq_true] at h
    refine ⟨t, ?_, h.2⟩
    rw [eq_of_beq h.1]
    rfl
  · cases h

def stoppedOnce : Nat → Option Plea
  | 1 => some .emergencyStop
  | _ => none

def underway : List Deed := [.program (fun _ => none) (.str "qianjin(50)") .none, .faults 1]

/-- A program finds the wheels turning, and they are stopped by somebody else while it waits. -/
theorem overdue_at_rest_iff_stopped : ∃ t,
    execute (asking stoppedOnce) (.str "dengdai(0.5)\ndengdai(60)") (.int 1)
        (Op.runAll Deed.perform underway {}) =
      .ok (report false (.str (overdueText (.int 1)))) t ∧
    ∃ s, Runs (asking stoppedOnce) (.str "dengdai(0.5)\ndengdai(60)") (.int 1)
        (Op.runAll Deed.perform underway {}) .overdue s ∧
      ∀ motor : Fin 4, s.vehicle.rig.speedOf motor = 0 := by
  have hruns : reportsOverdue (.int 1) (fun motors => decide (AtRest motors))
      (execute (asking stoppedOnce) (.str "dengdai(0.5)\ndengdai(60)") (.int 1)
        (Op.runAll Deed.perform underway {})) = true := by decide +kernel
  obtain ⟨t, hreport, hrest⟩ := exists_of_reportsOverdue hruns
  obtain ⟨s, hrun, -, -, -, -, hiff⟩ :=
    overdue_at_rest_iff {} rfl rfl underway rfl stoppedOnce _ (.int 1) hreport
  exact ⟨t, hreport, s, hrun, hiff.mp (of_decide_eq_true hrest)⟩

/-- A program that drives off and then waits for too long leaves the wheels turning. -/
theorem overdue_leaves_wheels_turning : ∃ t,
    execute undisturbed (.str "qianjin(50)\ndengdai(60)") (.int 1) {} =
      .ok (report false (.str (overdueText (.int 1)))) t ∧
    ¬ AtRest t.vehicle.rig.board.motors := by
  have hruns : reportsOverdue (.int 1) (fun motors => !decide (AtRest motors))
      (execute undisturbed (.str "qianjin(50)\ndengdai(60)") (.int 1) {}) = true := by
    decide +kernel
  obtain ⟨t, hreport, hrest⟩ := exists_of_reportsOverdue hruns
  refine ⟨t, hreport, ?_⟩
  simpa using hrest

end Runner

end Rover
