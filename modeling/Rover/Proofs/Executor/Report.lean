import Rover.Proofs.Executor.Clock
import Rover.Proofs.Onlookers

/-!
# Reports on programs

Whoever starts a program with a time limit gets a report that can be put into words, unless the
program ends in a fault for which there are no words; then no report is made at all.
-/

namespace Rover.Runner

structure Spoken (report : Record) : Prop where
  success : ∃ b, report.lookup "success" = some (.bool b)
  output : Writable ((report.lookup "output").getD (.list []))
  error : Writable ((report.lookup "error").getD .none)

theorem spoken_report (success : Bool) {error : Value} (h : Writable error)
    (output : List String) (more : Record) : Spoken (report success error output ++ more) where
  success := ⟨success, rfl⟩
  output := (Json.writable_list_iff _).mpr (List.forall_mem_map.mpr fun s _ => writable_str s)
  error := h

theorem writable_complaint (limit : Value) (ending : Ending) :
    Writable (ending.complaint limit) := by
  cases ending with
  | finished => exact writable_none
  | failed cause => exact writable_str _
  | overdue => exact writable_str _

def Unspeakable (r : Runner) (code processId timeout : Value) : Prop :=
  r.executor.executing = false ∧ ∃ name cause r',
    nameFor processId r.vehicle.rig.clock = .ok name ∧
    Runs undisturbed code timeout (named name r) (.failed cause) r' ∧ cause.isWritable = false

section
variable {hidden : Event → Bool} {code processId timeout : Value}

theorem Runs.beside {r t r' : Runner} {ending : Ending} (h : Beside hidden r t)
    (hrun : Runs undisturbed code timeout r ending r') :
    ∃ t', Runs undisturbed code timeout t ending t' := by
  obtain ⟨rig, rfl, log, events, rfl, hshown⟩ := h
  obtain @⟨tree, deadline, hcode, hdue, hrun⟩ := hrun
  have hbeside : Beside hidden r.occupied
      (HasRig.withRig r ((HasRig.rig r).told log events)).occupied :=
    ⟨_, rfl, log, events, rfl, hshown⟩
  have hnext := alike_runUntil tree deadline _ _ hbeside
  rw [hrun] at hnext
  obtain ⟨_, _, t', heq, ht, -⟩ | ⟨_, _, _, heq, -⟩ := hnext.cases
  · cases heq
    exact ⟨t', .intro hcode hdue ht⟩
  · cases heq

theorem Unspeakable.beside {r t : Runner} (h : Beside hidden r t)
    (hr : r.Unspeakable code processId timeout) : t.Unspeakable code processId timeout := by
  obtain ⟨hexec, name, cause, r', hname, hrun, hcause⟩ := hr
  obtain ⟨rig, rfl, log, events, rfl, hshown⟩ := h
  have hbeside : Beside hidden (named name r)
      (named name (HasRig.withRig r ((HasRig.rig r).told log events))) :=
    ⟨_, rfl, _, events, rfl, hshown⟩
  obtain ⟨t', ht⟩ := hrun.beside hbeside
  exact ⟨hexec, name, cause, t', hname, ht, hcause⟩

end

section
variable {code processId timeout : Value} {r : Runner}

theorem rig_forgetName (r : Runner) : (forgetName.after r).vehicle.rig = r.vehicle.rig := by
  refine (wp_after_iff (P := fun t : Runner => t.vehicle.rig = r.vehicle.rig)).mp ?_
  simp [forgetName]

theorem start_reports (hr : r.vehicle.rig.Sound) {most : Int} (hhi : most ≤ 9223372036)
    (hlim : (limitFor timeout r.executor.timeout).Seconds most) :
    wp (start undisturbed code processId timeout)
      (fun report t => ¬ r.Unspeakable code processId timeout ∧ Spoken report ∧
        t.vehicle.rig.Sound ∧ t.vehicle.rig.sent = r.vehicle.rig.sent)
      (fun _ t => r.Unspeakable code processId timeout ∧
        t.vehicle.rig.sent = r.vehicle.rig.sent) r := by
  cases hexec : r.executor.executing with
  | true =>
    simp only [start, hexec, wp_bind, wp_get, wp_ite, if_true, wp_pure]
    refine ⟨fun h => ?_, ⟨⟨false, rfl⟩, ?_, ?_⟩, hr, trivial⟩
    · cases hexec.symm.trans h.1
    · exact (Json.writable_list_iff []).mpr (List.forall_mem_nil _)
    · exact writable_str _
  | false =>
    obtain ⟨name, hname⟩ : ∃ name, nameFor processId r.vehicle.rig.clock = .ok name := by
      obtain ⟨n, hn, -⟩ := Json.toInteger_of_isFinite hr.clock
      unfold nameFor
      split
      · exact ⟨_, rfl⟩
      · rw [hn]
        exact ⟨_, rfl⟩
    rw [wp_start_of_name hexec hname]
    simp only [rig_forgetName]
    have hnamed : (named name r).vehicle.rig.Sound := { hr with }
    have hout := outcome_execute undisturbed code timeout (r := named name r) hexec
    unfold wp
    generalize execute undisturbed code timeout (named name r) = outcome at hout ⊢
    cases hout with
    | refused hcode =>
      refine ⟨?_, spoken_report false (writable_str _) _ _, { hr with }, rfl⟩
      rintro ⟨-, name', cause, r', hname', ⟨hcode', -, -⟩, -⟩
      cases hcode.symm.trans hcode'
    | unlimited hcode hnone =>
      obtain ⟨d, hd, -⟩ := exists_deadlineAt hr.clock hhi hlim
      cases hd.symm.trans hnone
    | @unreported ending s hrun hend =>
      obtain ⟨hs, hsent⟩ := hrun.sound hnamed hhi hlim
      cases ending with
      | failed cause =>
        exact ⟨⟨hexec, name, cause, s, hname, hrun, Bool.eq_false_iff.mpr hend⟩, hsent⟩
      | finished => exact absurd trivial hend
      | overdue => exact absurd trivial hend
    | @reported ending s hrun hend =>
      obtain ⟨hs, hsent⟩ := hrun.sound hnamed hhi hlim
      refine ⟨?_, spoken_report _ (writable_complaint _ _) _ _, ⟨hs.clock, hs.faults⟩, hsent⟩
      rintro ⟨-, name', cause, r', hname', hrun', hcause⟩
      cases hname.symm.trans hname'
      obtain ⟨rfl, -⟩ := hrun.unique hrun'
      exact absurd (hcause.symm.trans hend) Bool.noConfusion

end

end Rover.Runner
