import Rover.Executor
import Rover.Proofs.Number
import Rover.Proofs.Program.World
import Rover.Proofs.Rig

/-!
# When the executor is free again

A program occupies the executor while it runs. Whether the executor is free after the call that
started a program depends on how the call ends: there are exactly three ways in which it stays
occupied.
-/

namespace Rover

open Program (Tree)

def Executor.Idle (e : Executor) : Prop := e.executing = false ∧ e.processId = .none

namespace Runner

variable (clock : Float)

/-! ## Operations of the runner -/

section
variable {α : Type} {Q : α → Runner → Prop} {E : Exit → Runner → Prop} {r : Runner}

@[simp] theorem wp_update {Q : PUnit → Runner → Prop} (f : Executor → Executor) :
    wp (update f) Q E r ↔ Q ⟨⟩ { r with executor := f r.executor } := Iff.rfl

@[simp] theorem liftM_rig (op : Op Rig α) : (liftM op : Op Runner α) = onRig op :=
  Op.onPart_onPart ..

@[simp] theorem wp_onRig (op : Op Rig α) :
    wp (onRig op) Q E r ↔ wp op (fun a rig => Q a { r with vehicle.rig := rig })
      (fun e rig => E e { r with vehicle.rig := rig }) r.vehicle.rig :=
  wp_onPart ..

theorem keeps_executor_onVehicle {P : Executor → Prop} (op : Op Vehicle α) :
    Keeps (fun r => P r.executor) (liftM op : Op Runner α) :=
  .onPart (fun _ _ => trivial) (fun _ _ h _ => h) (keeps_true op)

end

/-! ## What others ask for while a program runs -/

inductive Plea where
  | start (code processId timeout : Value)
  | stop
  | emergencyStop
  | status

def Plea.answer : Plea → Op Runner Value
  | .start code processId timeout => do
    return record (← Runner.start undisturbed code processId timeout)
  | .stop => do return .bool (← Runner.stop)
  | .emergencyStop => do
    Runner.emergencyStop
    return .none
  | .status => do return record (Runner.status (← get).executor)

def asking (pleas : Nat → Option Plea) : Meanwhile := fun n => (pleas n).map Plea.answer

def Occupied (r : Runner) : Prop := r.executor.executing

theorem Plea.answer_occupied (p : Plea) : Keeps Occupied p.answer := by
  intro r hr
  unfold Occupied at hr ⊢
  cases p with
  | start code processId timeout => simp [answer, Runner.start, hr]
  | stop => simp [answer, Runner.stop, interrupt, hr]
  | emergencyStop => simp [answer, Runner.emergencyStop, Runner.stop, interrupt, hr]
  | status => simp [answer, hr]

theorem keeps_host_of {K : Runner → Prop} {c : Command} {args : List Value} {named : Record}
    (hcall : Keeps K (liftM (c.call args named) : Op Runner Value))
    (hanswer : ∀ p : Plea, Keeps K p.answer)
    (hans : ∀ r answers, K r → K { r with answers }) (pleas : Nat → Option Plea)
    (sleeps : Nat) : Keeps K (host (asking pleas) sleeps c args named) := by
  refine .bind .get fun before => .bind hcall fun v => .bind .get fun after => .ite ?_ (.pure _)
  unfold asking
  cases pleas (after.vehicle.rig.sleeps - sleeps) with
  | none => exact .pure _
  | some p => exact .bind (.attempt (hanswer p)) fun _ => .map (.modify fun r => hans r _)

def withDeadline (deadline : Option Float) (r : Runner) : Runner :=
  { r with vehicle := { r.vehicle with rig := { r.vehicle.rig with deadline } } }

theorem wp_runUntil {Q : Ending → Runner → Prop} {E : Exit → Runner → Prop} {r : Runner}
    (m : Meanwhile) (tree : Tree) (deadline : Option Float) :
    wp (runUntil m tree deadline) Q E r ↔
      wp (tree.run (host m r.vehicle.rig.sleeps) r.executor.commands)
        (fun _ t => Q .finished (withDeadline none t))
        (fun e t => match e with
          | .fault f => Q (.failed f) (withDeadline none t)
          | .ended => Q .overdue (withDeadline none t))
        (withDeadline deadline r) := by
  unfold wp withDeadline
  simp only [runUntil]
  generalize tree.run _ _ _ = outcome
  rcases outcome with _ | ⟨_ | _, _⟩ <;> rfl

theorem runUntil_ok (m : Meanwhile) (tree : Tree) (deadline : Option Float) (r : Runner) :
    ∃ ending r', runUntil m tree deadline r = .ok ending r' := by
  have hwp : wp (runUntil m tree deadline) (fun _ _ => True) never r := by
    rw [wp_runUntil]
    refine wp_of_forall (fun _ _ => trivial) fun e _ => ?_
    cases e <;> trivial
  obtain ⟨ending, r', h, -⟩ := wp_false_iff.mp hwp
  exact ⟨ending, r', h⟩

theorem runUntil_of_keeps {K : Runner → Prop} {m : Meanwhile} {tree : Tree}
    {deadline : Option Float} {r r' : Runner} {ending : Ending}
    (hhost : ∀ c ∈ Command.all, ∀ args named, Keeps K (host m r.vehicle.rig.sleeps c args named))
    (h : runUntil m tree deadline r = .ok ending r') (hr : K (withDeadline deadline r)) :
    ∃ s, K s ∧ r' = withDeadline none s := by
  have hrun := Program.Tree.run_keeps hhost r.executor.commands tree
  refine (wp_of_ok (Q := fun _ t => ∃ s, K s ∧ t = withDeadline none s)
    (E := fun _ _ => True) h).mp ?_
  rw [wp_runUntil]
  refine wp_mono (hrun.wp hr) (fun _ s hs => ⟨s, hs, rfl⟩) fun e s hs => ?_
  cases e <;> exact ⟨s, hs, rfl⟩

/-! ## A call from its beginning to its end -/

def named (name : Value) (r : Runner) : Runner :=
  { r with
    executor := { r.executor with stopRequested := false, processId := name }
    vehicle.rig.log := r.vehicle.rig.log.push ⟨.info, "开始执行代码: process_id=" ++ name.text⟩ }

def occupied (r : Runner) : Runner :=
  { r with executor := { r.executor with executing := true, interrupted := false, printed := [] } }

def abandon (tree : Tree) (r : Runner) : Runner :=
  { r with executor := { r.executor with abandoned := r.executor.abandoned ++ [tree] } }

def Ending.Reportable : Ending → Prop
  | .failed cause => cause.isWritable
  | _ => True

/-- A time limit for which nothing can be waited: no number, or one that is too large or undefined. -/
def Unusable (limit : Value) : Prop :=
  limit ≠ .none ∧ ∀ x, limit.num? = some x → x.less (.float waitLimit) = false

theorem deadlineAt_of_num {limit : Value} {x : Num} (h : limit.num? = some x) :
    deadlineAt clock limit = (waitTime x).map fun seconds => some (clock + seconds) := by
  cases limit <;> cases h <;> rfl

theorem deadlineAt_of_not_num {limit : Value} (hlim : limit ≠ .none) (h : limit.num? = none) :
    deadlineAt clock limit = .error (.order ">" "int" limit.className) := by
  cases limit with
  | none => exact absurd rfl hlim
  | bool b => cases h
  | int n => cases h
  | float z => cases h
  | _ => rfl

theorem waitTime_eq_error_iff (x : Num) :
    (∃ f, waitTime x = .error f) ↔ x.less (.float waitLimit) = false := by
  unfold waitTime
  cases x.less (.float waitLimit) with
  | true => exact iff_of_false (fun ⟨_, h⟩ => nomatch h) nofun
  | false =>
    refine iff_of_true ?_ rfl
    cases x with
    | int n => exact ⟨_, rfl⟩
    | float y =>
      change ∃ f, (if y.isNaN then _ else _) = _
      cases y.isNaN <;> exact ⟨_, rfl⟩

theorem deadlineAt_eq_error_iff (limit : Value) :
    (∃ f, deadlineAt clock limit = .error f) ↔ Unusable limit := by
  by_cases hlim : limit = .none
  · subst hlim
    exact iff_of_false (fun ⟨_, h⟩ => nomatch h) fun h => h.1 rfl
  · unfold Unusable
    cases hnum : limit.num? with
    | none => exact iff_of_true ⟨_, deadlineAt_of_not_num clock hlim hnum⟩ ⟨hlim, nofun⟩
    | some x =>
      rw [deadlineAt_of_num clock hnum]
      simp only [Option.some.injEq, forall_eq', hlim, ne_eq, not_false_eq_true, true_and,
        ← waitTime_eq_error_iff]
      cases waitTime x with
      | ok y => exact iff_of_false (fun ⟨_, h⟩ => nomatch h) fun ⟨_, h⟩ => nomatch h
      | error f => exact iff_of_true ⟨f, rfl⟩ ⟨f, rfl⟩

/-- The program runs in the executor, and this is how the run ends. -/
inductive Runs (m : Meanwhile) (code timeout : Value) (r : Runner) (ending : Ending)
    (r' : Runner) : Prop where
  | intro {tree : Tree} {deadline : Option Float} (hcode : treeOf code = .ok tree)
      (hdue : deadlineAt r.vehicle.rig.clock (limitFor timeout r.executor.timeout) = .ok deadline)
      (hrun : runUntil m tree deadline (occupied r) = .ok ending r')

section
variable {m : Meanwhile} {code processId timeout : Value} {r r' : Runner} {ending : Ending}

theorem Runs.usable (h : Runs m code timeout r ending r') :
    ¬ Unusable (limitFor timeout r.executor.timeout) := by
  obtain ⟨-, hdue, -⟩ := h
  rw [← deadlineAt_eq_error_iff r.vehicle.rig.clock, hdue]
  rintro ⟨f, hf⟩
  cases hf

theorem Runs.unique {ending' : Ending} {r'' : Runner} (h : Runs m code timeout r ending r')
    (h' : Runs m code timeout r ending' r'') : ending' = ending ∧ r'' = r' := by
  obtain ⟨hcode, hdue, hrun⟩ := h
  obtain ⟨hcode', hdue', hrun'⟩ := h'
  cases hcode.symm.trans hcode'
  cases hdue.symm.trans hdue'
  cases hrun.symm.trans hrun'
  exact ⟨rfl, rfl⟩

theorem conclude_of_not_reportable (h : ¬ ending.Reportable) (limit : Value) :
    conclude limit ending r = .error (.fault .unwritable) r := by
  cases ending with
  | finished => exact absurd trivial h
  | failed cause =>
    have hcause : cause.isWritable = false := by simpa [Ending.Reportable] using h
    simp only [conclude, hcause]
    rfl
  | overdue => exact absurd trivial h

theorem execute_of_free (hr : r.executor.executing = false) :
    execute m code timeout r = match treeOf code with
      | .error text => .ok (report false (.str "代码编译失败"))
          { r with vehicle.rig.log := r.vehicle.rig.log.push ⟨.error, text⟩ }
      | .ok tree =>
        match deadlineAt r.vehicle.rig.clock (limitFor timeout r.executor.timeout) with
        | .ok deadline => (do
            let ending ← runUntil m tree deadline
            conclude (limitFor timeout r.executor.timeout) ending) (occupied r)
        | .error f => .error (.fault f) ((occupied r).abandon tree) := by
  unfold execute compile
  change (if r.executor.executing then _ else _ : Op Runner _) r = _
  rw [if_neg (by simp [hr])]
  cases treeOf code with
  | error text => rfl
  | ok tree =>
    change ((match deadlineAt r.vehicle.rig.clock (limitFor timeout r.executor.timeout) with
      | .ok deadline => _
      | .error f => _) >>= conclude _) (occupied r) = _
    cases deadlineAt r.vehicle.rig.clock (limitFor timeout r.executor.timeout) <;> rfl

def Ending.complaint (limit : Value) : Ending → Value
  | .finished => .none
  | .failed cause => .str ("执行错误: " ++ cause.message)
  | .overdue => .str ("执行超时（" ++ limit.text ++ "秒）")

def Ending.succeeded : Ending → Bool
  | .finished => true
  | _ => false

def Ending.records (limit : Value) : Ending → List LogRecord
  | .finished => []
  | .failed cause => [⟨.error, "代码执行错误: " ++ cause.message⟩]
  | .overdue => [⟨.warning, "代码执行超时: " ++ limit.text ++ "秒"⟩]

def concluded (limit : Value) (ending : Ending) (r : Runner) : Runner :=
  { r with
    executor := { r.executor with
      executing := false
      interrupted := match ending with
        | .overdue => true
        | _ => r.executor.interrupted }
    vehicle.rig.log := r.vehicle.rig.log ++ ending.records limit }

theorem conclude_apply (h : ending.Reportable) (limit : Value) (r : Runner) :
    conclude limit ending r =
      .ok (report ending.succeeded (ending.complaint limit) r.executor.printed)
        (concluded limit ending r) := by
  cases ending with
  | finished => simp [concluded, Ending.records]; rfl
  | failed cause =>
    have hcause : (!cause.isWritable) = false := by
      rw [show cause.isWritable from h]
      rfl
    simp only [conclude, hcause]
    rfl
  | overdue => rfl

/-- What a call that finds the executor free comes to, in full. -/
inductive Outcome (m : Meanwhile) (code timeout : Value) (r : Runner) :
    EStateM.Result Exit Runner Record → Prop where
  | refused {text : String} (hcode : treeOf code = .error text) :
      Outcome m code timeout r (.ok (report false (.str "代码编译失败"))
        { r with vehicle.rig.log := r.vehicle.rig.log.push ⟨.error, text⟩ })
  | unlimited {tree : Tree} {f : Fault} (hcode : treeOf code = .ok tree)
      (hlim : deadlineAt r.vehicle.rig.clock (limitFor timeout r.executor.timeout) = .error f) :
      Outcome m code timeout r (.error (.fault f) ((occupied r).abandon tree))
  | unreported {ending : Ending} {s : Runner} (hrun : Runs m code timeout r ending s)
      (hend : ¬ ending.Reportable) : Outcome m code timeout r (.error (.fault .unwritable) s)
  | reported {ending : Ending} {s : Runner} (hrun : Runs m code timeout r ending s)
      (hend : ending.Reportable) :
      Outcome m code timeout r
        (.ok (report ending.succeeded (ending.complaint (limitFor timeout r.executor.timeout))
            s.executor.printed)
          (concluded (limitFor timeout r.executor.timeout) ending s))

theorem outcome_execute (m : Meanwhile) (code timeout : Value) (hr : r.executor.executing = false) :
    Outcome m code timeout r (execute m code timeout r) := by
  rw [execute_of_free hr]
  cases hcode : treeOf code with
  | error text => exact .refused hcode
  | ok tree =>
    dsimp only
    cases hlim : deadlineAt r.vehicle.rig.clock (limitFor timeout r.executor.timeout) with
    | error f => exact .unlimited hcode hlim
    | ok deadline =>
      refine (wp_outcome_iff (R := Outcome m code timeout r)).mp ((wp_bind ..).mpr ?_)
      -- a run always has an ending; only the report on it can fail
      obtain ⟨ending, s, hrun⟩ := runUntil_ok m tree deadline (occupied r)
      have hruns : Runs m code timeout r ending s := .intro hcode hlim hrun
      refine (wp_of_ok hrun).mpr ?_
      by_cases hend : ending.Reportable
      · exact (wp_of_ok (conclude_apply hend _ s)).mpr (.reported hruns hend)
      · exact (wp_of_error (conclude_of_not_reportable hend _)).mpr (.unreported hruns hend)

/-! ## The ways in which the executor stays occupied -/

/-- A call that does not free the executor: the time limit is none, or the program fails in a way
that cannot be put into words. -/
inductive Stuck (m : Meanwhile) (code timeout : Value) (r : Runner) : Prop where
  | limit {tree : Tree} (hcode : treeOf code = .ok tree)
      (hlim : Unusable (limitFor timeout r.executor.timeout))
  | ending {ending : Ending} {r' : Runner} (hrun : Runs m code timeout r ending r')
      (hend : ¬ ending.Reportable)

/-- A start after which the executor is not free: the call does not free it, or the name of the
program stays because a stop was asked for and failed before the name was forgotten. -/
inductive Jams (m : Meanwhile) (code processId timeout : Value) (r : Runner) : Prop where
  | stuck {name : Value} (hname : nameFor processId r.vehicle.rig.clock = .ok name)
      (h : Stuck m code timeout (named name r))
  | name {name : Value} {ending : Ending} {r' : Runner}
      (hname : nameFor processId r.vehicle.rig.clock = .ok name)
      (hrun : Runs m code timeout (named name r) ending r')
      (hstop : r'.executor.stopRequested) (hkept : r'.executor.processId ≠ .none)

variable {pleas : Nat → Option Plea}

theorem Runs.occupied (h : Runs (asking pleas) code timeout r ending r') : Occupied r' := by
  obtain ⟨-, -, hrun⟩ := h
  obtain ⟨s, hs, rfl⟩ := runUntil_of_keeps (K := Occupied) (fun c _ args named => keeps_host_of
    (keeps_executor_onVehicle (P := fun e => e.executing) _) Plea.answer_occupied
    (fun _ _ hr => hr) pleas _) hrun rfl
  exact hs

theorem stuck_of_unlimited {tree : Tree} {f : Fault} (hcode : treeOf code = .ok tree)
    (hlim : deadlineAt r.vehicle.rig.clock (limitFor timeout r.executor.timeout) = .error f) :
    Stuck m code timeout r :=
  .limit hcode ((deadlineAt_eq_error_iff ..).mp ⟨f, hlim⟩)

theorem not_stuck_of_refused {text : String} (hcode : treeOf code = .error text) :
    ¬ Stuck m code timeout r := by
  rintro (⟨h, -⟩ | ⟨⟨h, -, -⟩, -⟩) <;> cases hcode.symm.trans h

theorem not_stuck_of_reported (hrun : Runs m code timeout r ending r')
    (hend : ending.Reportable) : ¬ Stuck m code timeout r := by
  rintro (⟨-, hlim⟩ | ⟨hrun', hend'⟩)
  · exact hrun.usable hlim
  · obtain ⟨rfl, -⟩ := hrun.unique hrun'
    exact hend' hend

section

variable (hr : r.executor.executing = false)
include hr

theorem execute_frees_iff :
    ((execute (asking pleas) code timeout).after r).executor.executing = false ↔
      ¬ Stuck (asking pleas) code timeout r := by
  have hout := outcome_execute (asking pleas) code timeout hr
  unfold Op.after
  generalize execute (asking pleas) code timeout r = outcome at hout ⊢
  cases hout with
  | refused hcode => exact iff_of_true hr (not_stuck_of_refused hcode)
  | unlimited hcode hlim =>
    exact iff_of_false Bool.noConfusion (not_not_intro (stuck_of_unlimited hcode hlim))
  | unreported hrun hend =>
    refine iff_of_false ?_ (not_not_intro (.ending hrun hend))
    simp [show _ = true from hrun.occupied]
  | reported hrun hend => exact iff_of_true rfl (not_stuck_of_reported hrun hend)

theorem forgetName_idle_iff :
    (forgetName.after r).executor.Idle ↔
      ¬ (r.executor.stopRequested ∧ r.executor.processId ≠ .none) := by
  refine (wp_after_iff (P := fun t : Runner => t.executor.Idle)).symm.trans ?_
  unfold Executor.Idle
  cases hstop : r.executor.stopRequested <;> simp [forgetName, hr, hstop]

variable {E : Exit → Runner → Prop}

omit hr in
theorem wp_forgetName {Q : PUnit → Runner → Prop} :
    wp forgetName Q E r ↔ Q ⟨⟩ (forgetName.after r) := by
  obtain ⟨t, ht⟩ : ∃ t, forgetName r = .ok ⟨⟩ t := by
    have hends : wp forgetName (fun _ _ => True) never r := by
      simp [forgetName]
    obtain ⟨_, t, ht, -⟩ := wp_false_iff.mp hends
    exact ⟨t, ht⟩
  rw [wp_of_ok ht, after_of_ok ht]

theorem start_after_of_error {f : Fault}
    (hname : nameFor processId r.vehicle.rig.clock = .error f) :
    (start m code processId timeout).after r = r := by
  refine (wp_after_iff (P := fun t => t = r)).mp ?_
  simp [start, hr, hname]

theorem wp_start_of_name {Q : Record → Runner → Prop} {name : Value}
    (hname : nameFor processId r.vehicle.rig.clock = .ok name) :
    wp (start m code processId timeout) Q E r ↔
      wp (execute m code timeout) (fun report t =>
        Q (report ++ [("process_id", t.executor.processId)]) (forgetName.after t)) E
        (named name r) := by
  simp only [start, named, hr, hname, wp_bind, wp_get, wp_ofExcept, liftM_except,
    Bool.false_eq_true, if_false, liftM_rig, wp_onRig, Rig.wp_now, wp_info, wp_update,
    wp_forgetName, wp_pure]

end

theorem jams_iff {name : Value} (hname : nameFor processId r.vehicle.rig.clock = .ok name) :
    Jams m code processId timeout r ↔ Stuck m code timeout (named name r) ∨
      ∃ ending r', Runs m code timeout (named name r) ending r' ∧
        r'.executor.stopRequested ∧ r'.executor.processId ≠ .none := by
  constructor
  · rintro (⟨hname', h⟩ | ⟨hname', hrun, hstop, hkept⟩)
    · cases hname.symm.trans hname'
      exact .inl h
    · cases hname.symm.trans hname'
      exact .inr ⟨_, _, hrun, hstop, hkept⟩
  · rintro (h | ⟨ending, r', hrun, hstop, hkept⟩)
    · exact .stuck hname h
    · exact .name hname hrun hstop hkept

theorem start_frees_iff (hr : r.executor.Idle) :
    ((start (asking pleas) code processId timeout).after r).executor.Idle ↔
      ¬ Jams (asking pleas) code processId timeout r := by
  cases hname : nameFor processId r.vehicle.rig.clock with
  | error f =>
    rw [start_after_of_error hr.1 hname]
    refine iff_of_true hr ?_
    rintro (⟨h, -⟩ | ⟨h, -⟩) <;> cases hname.symm.trans h
  | ok name =>
    rw [← wp_after_iff (P := fun t : Runner => t.executor.Idle), wp_start_of_name hr.1 hname,
      jams_iff hname]
    have hout := outcome_execute (r := named name r) (asking pleas) code timeout hr.1
    unfold wp
    generalize execute (asking pleas) code timeout (named name r) = outcome at hout ⊢
    cases hout with
    -- a program that is refused never occupied the executor
    | refused hcode =>
      refine iff_of_true ((forgetName_idle_iff ?_).mpr fun h => nomatch h.1) ?_
      · exact hr.1
      · rintro (h | ⟨_, _, ⟨h, -, -⟩, -⟩)
        · exact not_stuck_of_refused hcode h
        · cases hcode.symm.trans h
    | unlimited hcode hlim =>
      refine iff_of_false (fun h => nomatch h.1) (not_not_intro (.inl ?_))
      exact stuck_of_unlimited hcode hlim
    | unreported hrun hend =>
      refine iff_of_false ?_ (not_not_intro (.inl (.ending hrun hend)))
      exact fun h => nomatch hrun.occupied.symm.trans h.1
    | reported hrun hend =>
      -- the executor is free again, and the name is what remains to be forgotten
      refine (forgetName_idle_iff rfl).trans ?_
      refine not_congr ⟨fun h => .inr ⟨_, _, hrun, h⟩, ?_⟩
      rintro (h | ⟨_, _, hrun', h⟩)
      · exact absurd h (not_stuck_of_reported hrun hend)
      · obtain ⟨-, rfl⟩ := hrun.unique hrun'
        exact h

/-- From an idle executor, a start leaves it idle exactly if it does not jam it, and an execution
frees it exactly if it does not get stuck, whatever the program does and others ask for. A program
with a time limit that cannot be used was started all the same. -/
theorem idle_after_iff (pleas : Nat → Option Plea) (code processId timeout : Value) (r : Runner)
    (hr : r.executor.Idle) :
    (((start (asking pleas) code processId timeout).after r).executor.Idle ↔
        ¬ Jams (asking pleas) code processId timeout r) ∧
      (((execute (asking pleas) code timeout).after r).executor.executing = false ↔
        ¬ Stuck (asking pleas) code timeout r) ∧
      ∀ tree, treeOf code = .ok tree → Unusable (limitFor timeout r.executor.timeout) →
        ((execute (asking pleas) code timeout).after r).executor.abandoned =
          r.executor.abandoned ++ [tree] := by
  refine ⟨start_frees_iff hr, execute_frees_iff hr.1, fun tree htree hlim => ?_⟩
  obtain ⟨f, hf⟩ := (deadlineAt_eq_error_iff r.vehicle.rig.clock _).mpr hlim
  unfold Op.after
  rw [execute_of_free hr.1, htree, hf]
  rfl

/-- Time limits that are a text, too large or undefined jam the executor. -/
theorem idle_after_iff_bad_limits :
    let jammed (limit : Value) : Prop :=
      Jams (asking fun _ => none) (.str "x = 1") (.str "p1") limit {} ∧
        ¬ ((start (asking fun _ => none) (.str "x = 1") (.str "p1") limit).after {}).executor.Idle
    jammed (.str "abc") ∧ jammed (.float 1e10) ∧ jammed (.float (0 / 0)) := by
  intro jammed
  have hjams (limit : Value) (h : Unusable (limitFor limit ({} : Executor).timeout)) :
      jammed limit := by
    obtain ⟨tree, hcode⟩ : ∃ tree, treeOf (.str "x = 1") = .ok tree :=
      exists_ok_of_isOk (by decide +kernel)
    have hjams : Jams (asking fun _ => none) (.str "x = 1") (.str "p1") limit {} :=
      .stuck rfl (.limit hcode h)
    exact ⟨hjams, fun h => (idle_after_iff _ _ _ _ {} ⟨rfl, rfl⟩).1.mp h hjams⟩
  refine ⟨hjams _ ⟨Value.noConfusion, ?_⟩, hjams _ ⟨Value.noConfusion, ?_⟩,
    hjams _ ⟨Value.noConfusion, ?_⟩⟩
  · exact nofun
  all_goals
    intro x hx
    cases hx
    decide +kernel

theorem start_text_limit_not_idle :
    ¬ ((start undisturbed (.str "x = 1") (.str "p1") (.str "abc")).after {}).executor.Idle := by
  intro h
  have hexecuting : ((start undisturbed (.str "x = 1") (.str "p1") (.str "abc")).after
      {}).executor.executing = true := by decide +kernel
  exact nomatch hexecuting.symm.trans h.1

end

end Runner

end Rover
