import Rover.Proofs.Executor.Run

/-!
# Programs that print or sleep

A program that prints is refused or fails, whatever it prints, and nothing that it prints is
collected. A program that sleeps by the clock fails as well, and no time passes.
-/

namespace Rover

namespace Program

open Grammar (Parse Reader)
variable {k : Nat} {r : Reader}

theorem exists_of_bind {α β : Type} {op : Parse α} {f : α → Parse β} {x : β × Reader}
    (h : (op >>= f) r = .ok x) : ∃ a r', op r = .ok (a, r') ∧ f a r' = .ok x := by
  obtain ⟨⟨a, r'⟩, hop, hf⟩ := eq_ok_of_bind (e := op r) h
  exact ⟨a, r', hop, hf⟩

def Reads (source : String) (words : List Lexeme) : Prop :=
  ∃ tokens, Token.scan source = .ok tokens ∧ tokens.map (·.lexeme) = words

theorem Reads.of_tree {source : String} {words : List Lexeme} {tree : Tree}
    (hsrc : Reads source words) (h : Tree.ofText source = .ok tree) :
    ∃ k tokens body r, tokens.map (·.lexeme) = words ∧
      Grammar.program (k + 100) { tokens } = .ok (body, r) ∧
      tree = ⟨Fold.stmts (if r.prints then ownCollector :: body else body)⟩ := by
  obtain ⟨tokens, hscan, htokens⟩ := hsrc
  obtain ⟨_, hscan', h⟩ := eq_ok_of_bind h
  cases hscan.symm.trans hscan'
  obtain ⟨⟨body, r⟩, hrun, h⟩ := eq_ok_of_bind h
  refine ⟨_, tokens, body, r, htokens, hrun, ?_⟩
  dsimp only at h
  split at h
  · cases h
  · cases h
    rfl

namespace Grammar

def said (s : String) : List Lexeme := [.name "print", .sign "(", .text s, .sign ")"]

def further : List String → List Lexeme
  | [] => [.newline, .finish]
  | s :: rest => .sign ";" :: said s ++ further rest

/-- The words of a program that prints texts, one after the other. -/
def printing : List String → List Lexeme
  | [] => [.finish]
  | s :: rest => said s ++ further rest

def lexemes (r : Reader) : List Lexeme := r.tokens.map (·.lexeme)

variable {ss : List String} {s : String}

theorem simple_said (hr : lexemes r = said s ++ further ss) :
    ∃ x r', simple (rules (k + 5)) r = .ok (x, r') ∧ r'.prints ∧ lexemes r' = further ss := by
  obtain ⟨tokens, scopes, prints, misplaced, atHead⟩ := r
  obtain ⟨⟨_, line, column⟩, tokens, rfl, rfl, hopen⟩ := List.map_eq_cons_iff.mp hr
  obtain ⟨⟨_, _, _⟩, tokens, rfl, rfl, htext⟩ := List.map_eq_cons_iff.mp hopen
  obtain ⟨⟨_, _, _⟩, tokens, rfl, rfl, hclose⟩ := List.map_eq_cons_iff.mp htext
  obtain ⟨⟨_, _, _⟩, tokens, rfl, rfl, hrest⟩ := List.map_eq_cons_iff.mp hclose
  cases ss
  all_goals
    obtain ⟨⟨_, _, _⟩, tokens, rfl, rfl, hmore⟩ := List.map_eq_cons_iff.mp hrest
    -- the words are known, so reading them is a calculation, up to whether the program starts here
    rcases line with _ | _ | line <;> rcases column with _ | column
    all_goals
      refine ⟨_, _, rfl, ?_⟩
      exact ⟨rfl, hrest⟩

theorem collect_further {n : Nat} {r' : Reader} {xs : List (List Stmt)}
    (hr : lexemes r = further ss) (hprints : r.prints)
    (h : collect (another (rules (k + 5))) n r = .ok (xs, r')) :
    r'.prints ∧ lexemes r' = [.newline, .finish] := by
  induction ss generalizing n r xs with
  | nil =>
    obtain ⟨tokens, scopes, prints, misplaced, atHead⟩ := r
    obtain ⟨⟨_, _, _⟩, tokens, rfl, rfl, hfinish⟩ := List.map_eq_cons_iff.mp hr
    cases n with
    | zero => cases h
    | succ n =>
      cases h
      exact ⟨hprints, hr⟩
  | cons s rest ih =>
    obtain ⟨tokens, scopes, prints, misplaced, atHead⟩ := r
    obtain ⟨⟨_, _, _⟩, tokens, rfl, rfl, hsaid⟩ := List.map_eq_cons_iff.mp hr
    obtain ⟨x, r₁, hsimple, hprints₁, hr₁⟩ := simple_said (k := k)
      (r := ⟨tokens, scopes, prints, misplaced, atHead⟩) hsaid
    obtain ⟨⟨_, _, _⟩, tokens, rfl, rfl, -⟩ := List.map_eq_cons_iff.mp hsaid
    cases n with
    | zero => cases h
    | succ n =>
      obtain ⟨a, r₂, hanother, h⟩ := exists_of_bind h
      obtain ⟨_, _, hsimple', hsome⟩ := exists_of_bind (f := fun x => pure (some x)) hanother
      cases hsimple.symm.trans hsimple'
      cases hsome
      obtain ⟨ys, r₃, hmore, hpure⟩ := exists_of_bind h
      cases hpure
      exact ih hr₁ hprints₁ hmore

theorem line_printing {r' : Reader} {xs : List Stmt} (h : line (rules (k + 5)) r = .ok (xs, r'))
    (hr : lexemes r = printing (s :: ss)) : r'.prints ∧ lexemes r' = [.finish] := by
  obtain ⟨x, r₁, hsimple, hprints, hr₁⟩ := simple_said (k := k) hr
  obtain ⟨_, _, hsimple', h⟩ := exists_of_bind h
  cases hsimple.symm.trans hsimple'
  obtain ⟨_, r₂, hmore, h⟩ := exists_of_bind h
  obtain ⟨hprints₂, hr₂⟩ := collect_further hr₁ hprints hmore
  obtain ⟨tokens, scopes, prints, misplaced, atHead⟩ := r₂
  obtain ⟨⟨_, _, _⟩, tokens, rfl, rfl, hfinish⟩ := List.map_eq_cons_iff.mp hr₂
  cases h
  exact ⟨hprints₂, hfinish⟩

theorem prints_of_program {tokens : List Token} {body : List Stmt}
    (htokens : tokens.map (·.lexeme) = printing (s :: ss))
    (h : program (k + 100) { tokens } = .ok (body, r)) : r.prints := by
  obtain ⟨⟨_, line, column⟩, tokens, rfl, rfl, -⟩ := List.map_eq_cons_iff.mp htokens
  obtain ⟨⟨_, _⟩, r₁, hnested, h⟩ := exists_of_bind h
  obtain ⟨_, _, hopen, hnested⟩ := exists_of_bind hnested
  cases hopen
  obtain ⟨_, r₂, hstatements, hnested⟩ := exists_of_bind hnested
  obtain ⟨_, _, hcollect, hflat⟩ := exists_of_bind hstatements
  cases hflat
  obtain ⟨_, r₃, hstep, hcollect⟩ := exists_of_bind hcollect
  obtain ⟨_, _, hline, hsome⟩ := exists_of_bind (f := fun x => pure (some x)) hstep
  cases hsome
  obtain ⟨hprints, hfinish⟩ := line_printing (k := k + 94) hline htokens
  obtain ⟨tokens, scopes, prints, misplaced, atHead⟩ := r₃
  obtain ⟨⟨_, _, _⟩, tokens, rfl, rfl, -⟩ := List.map_eq_cons_iff.mp hfinish
  cases hcollect
  obtain ⟨_, _, hscope, hnested⟩ := exists_of_bind hnested
  cases hscope
  obtain ⟨_, r₄, hheight, hnested⟩ := exists_of_bind hnested
  unfold refuseIf at hheight
  split at hheight
  · cases hheight
  · cases hheight
    cases hnested
    cases h
    exact hprints

end Grammar

section
variable {source : String} {tree : Tree} {σ : Type} (host : Host σ) (commands : Bool) (w : σ)

theorem run_printing {s : String} {ss : List String}
    (hsrc : Reads source (Grammar.printing (s :: ss))) (htree : Tree.ofText source = .ok tree) :
    tree.run host commands w = .error (.fault (.oneArgument "PrintCollector.__call__" 1)) w := by
  obtain ⟨k, tokens, body, r, htokens, hprog, rfl⟩ := hsrc.of_tree htree
  -- the collector is called before anything else is done
  rw [if_pos (Grammar.prints_of_program htokens hprog)]
  cases commands <;> rfl

/-- The words of a program that sleeps by the clock. -/
def sleeping (x : Item) : List Lexeme :=
  [.name "time", .sign ".", .name "sleep", .sign "(", .number x, .sign ")", .newline, .finish]

def asleep (x : Item) : Stmt := .eval (.call (.member (.name "time") "sleep") [.const x] [])

theorem program_sleeping {tokens : List Token} {x : Item}
    (htokens : tokens.map (·.lexeme) = sleeping x) :
    ∃ r, Grammar.program (k + 100) { tokens } = .ok ([asleep x], r) ∧ r.prints = false := by
  simp only [sleeping, List.map_eq_cons_iff, List.map_eq_nil_iff] at htokens
  obtain ⟨⟨_, line, column⟩, _, rfl, rfl, ⟨_, _, _⟩, _, rfl, rfl, ⟨_, _, _⟩, _, rfl, rfl,
    ⟨_, _, _⟩, _, rfl, rfl, ⟨_, _, _⟩, _, rfl, rfl, ⟨_, _, _⟩, _, rfl, rfl, ⟨_, _, _⟩, _, rfl, rfl,
    ⟨_, _, _⟩, _, rfl, rfl, rfl⟩ := htokens
  rcases line with _ | _ | line <;> rcases column with _ | column
  all_goals
    refine ⟨_, by with_unfolding_all rfl, ?_⟩
    rfl

theorem run_sleeping {x : Item} (hsrc : Reads source (sleeping x))
    (htree : Tree.ofText source = .ok tree) :
    tree.run host commands w =
      .error (.fault (.oneArgument "SandboxGlobals.__init__.<locals>.<lambda>" 1)) w := by
  obtain ⟨k, tokens, body, r, htokens, hprog, rfl⟩ := hsrc.of_tree htree
  obtain ⟨r', hsleeping, hprints⟩ := program_sleeping htokens
  cases hsleeping.symm.trans hprog
  rw [hprints]
  cases commands <;> rfl

end

end Program

namespace Runner

open Program (Tree)
open Program.Grammar (printing)

/-- How a program comes out that ends in this way and does nothing else. -/
def Ending.outcome (w : Runner) : Ending → EStateM.Result Exit Runner Unit
  | .finished => .ok () w
  | .failed cause => .error (.fault cause) w
  | .overdue => .error .ended w

section
variable {m : Meanwhile} {source : String} {timeout : Value} {r : Runner}
  (hr : r.executor.executing = false) (hlimit : ¬ Unusable (limitFor timeout r.executor.timeout))
include hr hlimit

theorem execute_of_tree_run {tree : Tree} (ending : Ending) (hend : ending.Reportable)
    (hcode : Tree.ofText source = .ok tree)
    (h : ∀ (host : Program.Host Runner) commands w, tree.run host commands w = ending.outcome w) :
    ∃ t, execute m (.str source) timeout r = .ok (report ending.succeeded
        (ending.complaint (limitFor timeout r.executor.timeout))) t ∧
      t.vehicle.rig.clock = r.vehicle.rig.clock ∧ t.vehicle.rig.events = r.vehicle.rig.events := by
  have htree : treeOf (.str source) = .ok tree := congrArg (Except.mapError refusalText) hcode
  rw [execute_of_free hr, htree]
  cases hdue : deadlineAt r.vehicle.rig.clock (limitFor timeout r.executor.timeout) with
  | error f => exact absurd ((deadlineAt_eq_error_iff ..).mp ⟨f, hdue⟩) hlimit
  | ok deadline =>
    obtain ⟨s, hrun, hprinted, hclock, hev⟩ : ∃ s,
        runUntil m tree deadline (occupied r) = .ok ending s ∧ s.executor.printed = [] ∧
        s.vehicle.rig.clock = r.vehicle.rig.clock ∧
        s.vehicle.rig.events = r.vehicle.rig.events := by
      unfold runUntil
      dsimp only
      rw [h]
      cases ending <;> exact ⟨_, rfl, rfl, rfl, rfl⟩
    have hends := conclude_apply hend (limitFor timeout r.executor.timeout) s
    rw [hprinted] at hends
    exact ⟨_, (Op.bind_of_ok hrun).trans hends, hclock, hev⟩

theorem execute_fails {cause : Fault} (hcause : cause.isWritable)
    (h : ∀ tree, Tree.ofText source = .ok tree → ∀ (host : Program.Host Runner) commands w,
      tree.run host commands w = .error (.fault cause) w) :
    ∃ error t, execute m (.str source) timeout r = .ok (report false error) t ∧
      ((Tree.ofText source).isOk → error = .str ("执行错误: " ++ cause.message)) ∧
      t.vehicle.rig.clock = r.vehicle.rig.clock ∧ t.vehicle.rig.events = r.vehicle.rig.events := by
  cases hcode : Tree.ofText source with
  | error refusal =>
    have htree : treeOf (.str source) = .error (refusalText refusal) :=
      congrArg (Except.mapError refusalText) hcode
    rw [execute_of_free hr, htree]
    exact ⟨_, _, rfl, nofun, rfl, rfl⟩
  | ok tree =>
    obtain ⟨t, hexecute, hsame⟩ :=
      execute_of_tree_run (m := m) hr hlimit (.failed cause) hcause hcode (h tree hcode)
    exact ⟨_, t, hexecute, fun _ => rfl, hsame⟩

theorem empty_succeeds (hsrc : Program.Reads source (printing [])) :
    ∃ t, execute m (.str source) timeout r = .ok (report true .none) t := by
  obtain ⟨tokens, hscan, htokens⟩ := hsrc
  have hcode : Tree.ofText source = .ok ⟨[]⟩ := by
    obtain ⟨⟨_, _, _⟩, _, rfl, rfl, hnil⟩ := List.map_eq_cons_iff.mp htokens
    unfold Tree.ofText
    rw [hscan]
    rfl
  obtain ⟨t, hexe, -⟩ := execute_of_tree_run (m := m) hr hlimit .finished trivial hcode
    fun _ commands _ => by cases commands <;> rfl
  exact ⟨t, hexe⟩

end

def collectorComplaint : Value :=
  .str "执行错误: PrintCollector.__call__() takes 1 positional argument but 2 were given"

/-- Texts that a program prints are not collected: it succeeds exactly if there are none, and its
output is empty. If it can be read at all, it fails because the collector is an object that takes no
argument. -/
theorem printing_succeeds_iff (m : Meanwhile) (r : Runner) (hr : r.executor.executing = false)
    (timeout : Value) (hlimit : ¬ Unusable (limitFor timeout r.executor.timeout)) (source : String)
    (texts : List String) (hsource : Program.Reads source (printing texts)) :
    ∃ result t, execute m (.str source) timeout r = .ok result t ∧
      (result.lookup "success" = some (.bool true) ↔ texts = []) ∧
      result.lookup "output" = some (.list []) ∧
      (texts ≠ [] → (Tree.ofText source).isOk → result.lookup "error" = some collectorComplaint) := by
  cases texts with
  | nil =>
    obtain ⟨t, hexecute⟩ := empty_succeeds (m := m) hr hlimit hsource
    exact ⟨_, t, hexecute, iff_of_true rfl rfl, rfl, fun h => absurd rfl h⟩
  | cons s ss =>
    obtain ⟨error, t, hexecute, herror, -⟩ := execute_fails (m := m) hr hlimit rfl
      fun tree htree host c w => Program.run_printing host c w hsource htree
    exact ⟨_, t, hexecute, iff_of_false nofun (List.cons_ne_nil s ss), rfl,
      fun _ hok => congrArg some (herror hok)⟩

theorem usable_usual : ¬ Unusable (limitFor .none (.int 30)) := fun h =>
  absurd (h.2 (.int 30) rfl) (by decide +kernel)

theorem reads_print : Program.Reads "print('a')" (printing ["a"]) := by
  refine ⟨_, by with_unfolding_all rfl, ?_⟩
  rfl

theorem printing_succeeds_iff_one :
    ∃ result t, execute undisturbed (.str "print('a')") .none {} = .ok result t ∧
      result.lookup "error" = some collectorComplaint := by
  obtain ⟨result, t, hexecute, -, -, herror⟩ := printing_succeeds_iff undisturbed {} rfl .none
    usable_usual _ ["a"] reads_print
  exact ⟨result, t, hexecute, herror (by decide) (by decide +kernel)⟩

theorem printed_text_not_collected :
    ¬ ∃ t, execute undisturbed (.str "print('a')") .none {} =
      .ok [("success", .bool true), ("error", .none), ("output", .list [.str "a"])] t := by
  rintro ⟨t, h⟩
  have hlimit : ¬ Unusable (limitFor .none (.int 30)) := usable_usual
  obtain ⟨error, t', hfails, -⟩ := execute_fails (m := undisturbed) (r := {}) rfl hlimit rfl
    fun tree htree host c w => Program.run_printing host c w reads_print htree
  cases h.symm.trans hfails

/-- A program that sleeps by the clock fails, however long it wants to sleep, and no time passes. -/
theorem sleeping_fails (m : Meanwhile) (r : Runner) (hr : r.executor.executing = false)
    (timeout : Value) (hlimit : ¬ Unusable (limitFor timeout r.executor.timeout)) (source : String)
    (seconds : Program.Item) (hsource : Program.Reads source (Program.sleeping seconds)) :
    ∃ error t, execute m (.str source) timeout r = .ok (report false error) t ∧
      t.vehicle.rig.clock = r.vehicle.rig.clock ∧
      t.vehicle.rig.events = r.vehicle.rig.events := by
  obtain ⟨error, t, hexecute, -, hsame⟩ := execute_fails (m := m) hr hlimit rfl
    fun _ htree host c w => Program.run_sleeping host c w hsource htree
  exact ⟨error, t, hexecute, hsame⟩

theorem reads_sleep_one : Program.Reads "time.sleep(1)" (Program.sleeping (.int .value 1)) := by
  refine ⟨_, by with_unfolding_all rfl, ?_⟩
  rfl

theorem sleeping_fails_one :
    ∃ error t, execute undisturbed (.str "time.sleep(1)") .none {} = .ok (report false error) t ∧
      t.vehicle.rig.clock = 1000 ∧ t.vehicle.rig.events = #[] :=
  sleeping_fails undisturbed {} rfl .none usable_usual _ _ reads_sleep_one

theorem second_not_slept :
    ¬ ∃ t, execute undisturbed (.str "time.sleep(1)") .none {} = .ok (report true .none) t := by
  rintro ⟨t, h⟩
  have hlimit : ¬ Unusable (limitFor .none (.int 30)) := usable_usual
  obtain ⟨error, t', hfails, -⟩ := execute_fails (m := undisturbed) (r := {}) rfl hlimit rfl
    fun _ htree host c w => Program.run_sleeping host c w reads_sleep_one htree
  cases h.symm.trans hfails

end Runner

end Rover
