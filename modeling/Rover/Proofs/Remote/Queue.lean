import Mathlib.Data.List.Nodup
import Rover.Proofs.Games.Play
import Rover.Remote.Server

/-!
# The queue of the main loop

Callers put errands into the queue while the main loop does one job after the other, until none is
left or one fails; then it plays, and looks again. The steps of both sides come in any order, and
other things happen in between.
-/

namespace Rover.Remote

open Server (onBoard take serve drain turn perform)
open List hiding take
variable (job : Job)

abbrev Handler := Errand → Op (Play Switchboard) Value

/-! ## Steps -/

inductive Stage where
  | looking
  | serving (job : Job)
  | playing
  | ended

namespace Stage

def held : Stage → List Job
  | serving job => [job]
  | _ => []

def advance (handler : Handler) : Stage → Server.M Stage
  | looking => do
    match ← take with
    | none => return playing
    | some job => return serving job
  | serving job => do
    if ← serve handler job then return looking else return playing
  | playing => do
    match ← Op.attempt Server.play with
    | .ok _ => return looking
    | .error f =>
      Play.update ({ · with crash := some f })
      return ended
  | ended => return ended

end Stage

structure Floor where
  play : Play Server
  stage : Stage

namespace Floor

def queue (f : Floor) : List Job := f.play.game.queue

def pending (f : Floor) : List Job := f.stage.held ++ f.queue

end Floor

def capacity : Nat := 10

/-- A step: a caller puts an errand, the main loop goes on, or anything else happens to the vehicle
and its games. -/
inductive Action where
  | put (errand : Errand)
  | proceed
  | meanwhile (op : Op (Play Switchboard) Unit)

/-- What is noted of the steps: a job that was put, and a job that was done with what its handler
returned, if it returned. -/
inductive Entry where
  | put (job : Job)
  | done (job : Job) (answer : Option Value)

namespace Entry

def put? : Entry → Option Job
  | put job => some job
  | done .. => none

def done? : Entry → Option Job
  | put _ => none
  | done job _ => some job

end Entry

def putJobs (entries : List Entry) : List Job := entries.filterMap Entry.put?

def doneJobs (entries : List Entry) : List Job := entries.filterMap Entry.done?

def answer? (handler : Handler) (job : Job) (p : Play Server) : Option Value :=
  match onBoard (handler job.errand) p with
  | .ok v _ => some v
  | .error _ _ => none

def answerEntries (handler : Handler) (p : Play Server) (job : Job) : List (Nat × Value) :=
  (answer? handler job p).toList.map fun v => (job.number, v)

/-- The handler of a job has done what it does, and the answer is noted, if there is one. After a
fault the main loop plays, with the jobs behind this one left in the queue. -/
def served (handler : Handler) (job : Job) (p : Play Server) : Floor :=
  match onBoard (handler job.errand) p with
  | .ok v q =>
    ⟨{ q with game := { q.game with answers := (job.number, v) :: q.game.answers } }, .looking⟩
  | .error (.fault _) q => ⟨q, .playing⟩
  | .error .ended q => ⟨q, .ended⟩

namespace Action

/-- Makes a step. A caller who finds the queue full has to wait, and the main loop does not go on
after it was cut short. -/
def step (handler : Handler) : Action → Floor → Floor
  | put errand, f =>
    if f.queue.length < capacity then { f with play := (Server.put errand).after f.play } else f
  | proceed, f =>
    match f.stage.advance handler f.play with
    | .ok stage p => ⟨p, stage⟩
    | .error _ p => ⟨p, .ended⟩
  | meanwhile op, f => { f with play := (onBoard op).after f.play }

def entries (handler : Handler) : Action → Floor → List Entry
  | put errand, f =>
    if f.queue.length < capacity then [.put ⟨f.play.game.next, errand⟩] else []
  | proceed, f => f.stage.held.map fun job => .done job (answer? handler job f.play)
  | meanwhile _, _ => []

def isProceed : Action → Bool
  | proceed => true
  | _ => false

end Action

def run (handler : Handler) (actions : List Action) (f : Floor) : Floor :=
  actions.foldl (fun f a => a.step handler f) f

def chronicle (handler : Handler) : List Action → Floor → List Entry
  | [], _ => []
  | a :: rest, f => a.entries handler f ++ chronicle handler rest (a.step handler f)

/-! ## The books of the server -/

structure SameBooks (s t : Server) : Prop where
  queue : t.queue = s.queue
  answers : t.answers = s.answers
  next : t.next = s.next

section
variable {handler : Handler} {p : Play Server} {α : Type}

theorem keeps_onBoard (s : Server) (op : Op (Play Switchboard) α) :
    Keeps (fun p => SameBooks s p.game) (onBoard op) := by
  refine Play.keeps_within (I := SameBooks s) ?_ op
  intro _ _ h
  exact { h with }

theorem sameBooks_onBoard (op : Op (Play Switchboard) α) (p : Play Server) :
    SameBooks p.game ((onBoard op).after p).game :=
  (keeps_onBoard p.game op).after ⟨rfl, rfl, rfl⟩

theorem keeps_play (s : Server) : Keeps (fun p => SameBooks s p.game) Server.play := by
  have hshown : ∀ size, Keeps (fun p => SameBooks s p.game)
      (Play.update fun t : Server => { t with shown := size }) := fun size =>
    Play.keeps_update (I := SameBooks s) fun _ h => { h with }
  refine .state fun t => ?_
  refine .except fun _ => .except fun _ => .ite ?_ (hshown _)
  cases t.frame with
  | none => exact hshown _
  | some picture =>
    refine .bind (keeps_onBoard s _) fun _ => .ite (hshown _) ?_
    exact .except fun _ => .except fun _ => hshown _

theorem take_of_nil (h : p.game.queue = []) : take p = .ok none p := by
  refine (wp_outcome_iff (R := (· = .ok none p))).mp ?_
  unfold take
  rw [wp_bind, wp_state, h]
  exact rfl

theorem take_of_cons {job : Job} {rest : List Job} (h : p.game.queue = job :: rest) :
    take p = .ok (some job) { p with game := { p.game with queue := rest } } := by
  refine (wp_outcome_iff (R := (· = .ok (some job) _))).mp ?_
  unfold take
  rw [wp_bind, wp_state, h]
  exact rfl

theorem wp_serve {Q : Bool → Play Server → Prop} {E : Exit → Play Server → Prop} :
    wp (serve handler job) Q E p ↔ wp (onBoard (handler job.errand))
      (fun v q => Q true { q with game := { q.game with
        answers := (job.number, v) :: q.game.answers } })
      (fun e q => match e with
        | .fault _ => Q false q
        | .ended => E .ended q) p := by
  unfold serve
  rw [wp_bind, Op.wp_attempt]
  rfl

end

/-! ## What one step does -/

namespace Stage

/-- The number of steps within which the main loop has done `n` jobs that wait or that it has taken,
unless it ends. -/
def due (n : Nat) : Stage → Nat
  | looking => 3 * n
  | serving _ => 3 * n - 1
  | playing => 3 * n + 1
  | ended => 0

end Stage

/-- What a step of the main loop does: it gets on with the jobs, of which the one that it had taken
is done and answered. -/
structure Proceeds (handler : Handler) (f g : Floor) : Prop where
  pending : f.pending = f.stage.held ++ g.pending
  shorter : g.queue.length ≤ f.queue.length
  next : g.play.game.next = f.play.game.next
  answers : g.play.game.answers =
    f.stage.held.flatMap (answerEntries handler f.play) ++ f.play.game.answers
  sooner : ∀ n, 0 < n → n ≤ f.pending.length →
    g.stage = .ended ∨ g.stage.due (n - f.stage.held.length) < f.stage.due n

section
variable {handler : Handler} {f : Floor}
variable (p : Play Server)

theorem step_proceed_iff {P : Floor → Prop} :
    P (Action.proceed.step handler f) ↔ wp (f.stage.advance handler) (fun stage p => P ⟨p, stage⟩)
      (fun _ p => P ⟨p, .ended⟩) f.play := by
  unfold wp
  change P (match f.stage.advance handler f.play with
    | .ok stage p => ⟨p, stage⟩
    | .error _ p => ⟨p, .ended⟩) ↔ _
  cases f.stage.advance handler f.play <;> rfl

theorem step_put (errand : Errand) : (Action.put errand).step handler f =
    if f.queue.length < capacity then ⟨(Server.put errand).after f.play, f.stage⟩ else f :=
  rfl

theorem step_serving (handler : Handler) (p : Play Server) :
    Action.proceed.step handler ⟨p, .serving job⟩ = served handler job p := by
  rw [step_proceed_iff (P := (· = served handler job p))]
  unfold Stage.advance
  rw [wp_bind, wp_serve]
  unfold served
  cases hout : onBoard (handler job.errand) p with
  | ok v q => exact (wp_of_ok hout).mpr rfl
  | error e q =>
    rw [wp_of_error hout]
    cases e <;> rfl

theorem proceeds_of_sameBooks {p q : Play Server} {stage stage' : Stage}
    (hbooks : SameBooks p.game q.game) (hheld : stage.held = []) (hheld' : stage'.held = [])
    (hsooner : ∀ n, 0 < n → n ≤ p.game.queue.length → stage' = .ended ∨ stage'.due n < stage.due n) :
    Proceeds handler ⟨p, stage⟩ ⟨q, stage'⟩ := by
  have hqueue : q.game.queue = p.game.queue := hbooks.queue
  refine ⟨?_, ?_, hbooks.next, ?_, ?_⟩
  · simp only [Floor.pending, Floor.queue, hheld, hheld', hqueue, nil_append]
  · simp only [Floor.queue, hqueue, Nat.le_refl]
  · simp only [hheld, hbooks.answers, flatMap_nil, nil_append]
  · simpa only [Floor.pending, Floor.queue, hheld, nil_append, length_nil, Nat.sub_zero]
      using hsooner

theorem proceeds_looking :
    Proceeds handler ⟨p, .looking⟩ (Action.proceed.step handler ⟨p, .looking⟩) := by
  rw [step_proceed_iff (P := Proceeds handler _)]
  unfold Stage.advance
  rw [wp_bind]
  cases hqueue : p.game.queue with
  | nil =>
    rw [wp_of_ok (take_of_nil hqueue)]
    refine proceeds_of_sameBooks ⟨rfl, rfl, rfl⟩ rfl rfl fun n hn hle => ?_
    rw [hqueue, length_nil] at hle
    omega
  | cons job rest =>
    rw [wp_of_ok (take_of_cons hqueue)]
    refine ⟨hqueue, ?_, rfl, rfl, fun n hn _ => .inr ?_⟩
    · simp only [Floor.queue, hqueue, length_cons]
      omega
    · simp only [Stage.due, Stage.held, length_nil]
      omega

theorem proceeds_serving (job : Job) :
    Proceeds handler ⟨p, .serving job⟩ (Action.proceed.step handler ⟨p, .serving job⟩) := by
  -- however the job ends, it is out of the queue and its answer is noted
  have hdone : ∀ {q : Play Server} {stage : Stage}, q.game.queue = p.game.queue →
      q.game.next = p.game.next →
      q.game.answers = answerEntries handler p job ++ p.game.answers → stage.held = [] →
      (∀ n, stage.due n ≤ 3 * n + 1) → Proceeds handler ⟨p, .serving job⟩ ⟨q, stage⟩ := by
    intro q stage hqueue hnext hans hheld hdue
    refine ⟨?_, ?_, hnext, ?_, fun n hn _ => .inr ?_⟩
    · change [job] ++ p.game.queue = [job] ++ (stage.held ++ q.game.queue)
      rw [hheld, hqueue, nil_append]
    · simp only [Floor.queue, hqueue, Nat.le_refl]
    · simp only [Stage.held, flatMap_singleton, hans]
    · have hless := hdue (n - 1)
      change stage.due (n - 1) < 3 * n - 1
      omega
  have hbooks := (keeps_onBoard p.game (handler job.errand)).wp ⟨rfl, rfl, rfl⟩
  rw [step_serving]
  unfold served
  unfold answerEntries answer? at hdone
  cases hout : onBoard (handler job.errand) p with
  | ok v q =>
    rw [wp_of_ok hout] at hbooks
    rw [hout] at hdone
    exact hdone hbooks.queue hbooks.next (congrArg _ hbooks.answers) rfl fun n => by simp [Stage.due]
  | error e q =>
    rw [wp_of_error hout] at hbooks
    rw [hout] at hdone
    cases e <;> exact hdone hbooks.queue hbooks.next hbooks.answers rfl fun n => by simp [Stage.due]

theorem proceeds_playing :
    Proceeds handler ⟨p, .playing⟩ (Action.proceed.step handler ⟨p, .playing⟩) := by
  have hover : ∀ {q : Play Server}, SameBooks p.game q.game →
      Proceeds handler ⟨p, .playing⟩ ⟨q, .ended⟩ := fun hbooks =>
    proceeds_of_sameBooks hbooks rfl rfl fun _ _ _ => .inl rfl
  rw [step_proceed_iff (P := Proceeds handler _)]
  unfold Stage.advance
  rw [wp_bind]
  refine wp_mono ((keeps_play p.game).attempt.wp ⟨rfl, rfl, rfl⟩) ?_ fun _ q hq => hover hq
  intro result q hq
  cases result with
  | ok _ =>
    refine proceeds_of_sameBooks hq rfl rfl fun n _ _ => .inr ?_
    simp only [Stage.due]
    omega
  | error f => exact hover { hq with }

theorem proceeds (handler : Handler) (f : Floor) :
    Proceeds handler f (Action.proceed.step handler f) := by
  obtain ⟨p, stage⟩ := f
  cases stage with
  | looking => exact proceeds_looking p
  | serving job => exact proceeds_serving p job
  | playing => exact proceeds_playing p
  | ended => exact proceeds_of_sameBooks ⟨rfl, rfl, rfl⟩ rfl rfl fun _ _ _ => .inl rfl

end

/-! ## What any number of steps does -/

theorem putJobs_append (c d : List Entry) : putJobs (c ++ d) = putJobs c ++ putJobs d :=
  filterMap_append

theorem doneJobs_append (c d : List Entry) : doneJobs (c ++ d) = doneJobs c ++ doneJobs d :=
  filterMap_append

theorem putJobs_proceed (handler : Handler) (f : Floor) :
    putJobs (Action.proceed.entries handler f) = [] := by
  obtain ⟨p, stage⟩ := f
  cases stage <;> rfl

theorem doneJobs_proceed (handler : Handler) (f : Floor) :
    doneJobs (Action.proceed.entries handler f) = f.stage.held := by
  obtain ⟨p, stage⟩ := f
  cases stage <;> rfl

/-- The jobs that were put are numbered from `first` on; they are those done, in order, and then
those pending. The answers are those of the handlers of the jobs that were done. -/
structure Orderly (first : Nat) (c : List Entry) (f : Floor) : Prop where
  order : doneJobs c ++ f.pending = putJobs c
  numbers : (putJobs c).map Job.number = range' first (putJobs c).length
  next : f.play.game.next = first + (putJobs c).length
  answers : ∀ n v, (n, v) ∈ f.play.game.answers ↔
    ∃ job, Entry.done job (some v) ∈ c ∧ job.number = n
  room : f.queue.length ≤ capacity

section
variable {handler : Handler} {first : Nat} {c : List Entry} {f g : Floor}

section

variable (h : Orderly first c f)
include h

theorem Orderly.put (errand : Errand) (hroom : f.queue.length < capacity) :
    Orderly first (c ++ [.put ⟨f.play.game.next, errand⟩])
      ⟨(Server.put errand).after f.play, f.stage⟩ := by
  have hput : putJobs (c ++ [.put ⟨f.play.game.next, errand⟩]) =
      putJobs c ++ [⟨f.play.game.next, errand⟩] := putJobs_append _ _
  have hdone : doneJobs (c ++ [.put ⟨f.play.game.next, errand⟩]) = doneJobs c := by
    rw [doneJobs_append]
    exact append_nil _
  refine ⟨?_, ?_, ?_, fun n v => ?_, ?_⟩
  · rw [hdone, hput, ← h.order, append_assoc]
    exact congrArg _ (append_assoc ..).symm
  -- the new job has the number after those given so far
  · rw [hput, map_append, h.numbers, length_append, length_singleton,
      range'_concat, Nat.one_mul, ← h.next]
    rfl
  · rw [hput, length_append, length_singleton, ← Nat.add_assoc, ← h.next]
    rfl
  · refine (h.answers n v).trans (exists_congr fun job => and_congr_left fun _ => ?_)
    rw [mem_append, mem_singleton]
    exact (or_iff_left (by simp)).symm
  · have hlen : (f.queue ++ [(⟨f.play.game.next, errand⟩ : Job)]).length = f.queue.length + 1 :=
      length_append
    exact Nat.le_trans (Nat.le_of_eq hlen) hroom

theorem Orderly.proceed (hstep : Proceeds handler f g) :
    Orderly first (c ++ Action.proceed.entries handler f) g := by
  have hput : putJobs (c ++ Action.proceed.entries handler f) = putJobs c := by
    rw [putJobs_append, putJobs_proceed, append_nil]
  refine ⟨?_, hput ▸ h.numbers, ?_, fun n v => ?_, Nat.le_trans hstep.shorter h.room⟩
  · rw [hput, doneJobs_append, doneJobs_proceed, append_assoc, ← hstep.pending, h.order]
  · rw [hput, hstep.next, h.next]
  · rw [hstep.answers, mem_append, h.answers]
    simp only [mem_flatMap, answerEntries, mem_map, Option.mem_toList, Prod.mk.injEq,
      Action.entries, mem_append, Entry.done.injEq]
    constructor
    · rintro (⟨job, hjob, w, hw, rfl, rfl⟩ | ⟨job, hjob, rfl⟩)
      · exact ⟨job, .inr ⟨job, hjob, rfl, hw⟩, rfl⟩
      · exact ⟨job, .inl hjob, rfl⟩
    · rintro ⟨job, hjob | ⟨other, hother, rfl, hv⟩, rfl⟩
      · exact .inr ⟨job, hjob, rfl⟩
      · exact .inl ⟨other, hother, v, hv, rfl, rfl⟩

theorem Orderly.of_sameBooks {p : Play Server}
    (hbooks : SameBooks f.play.game p.game) : Orderly first c ⟨p, f.stage⟩ := by
  have hqueue : p.game.queue = f.queue := hbooks.queue
  refine ⟨?_, h.numbers, hbooks.next.trans h.next, fun n v => ?_, ?_⟩
  · simp only [Floor.pending, Floor.queue, hqueue]
    exact h.order
  · rw [hbooks.answers]
    exact h.answers n v
  · simp only [Floor.queue, hqueue]
    exact h.room

theorem Orderly.step (handler : Handler) (a : Action) :
    Orderly first (c ++ a.entries handler f) (a.step handler f) := by
  cases a with
  | put errand =>
    rw [step_put]
    unfold Action.entries
    by_cases hroom : f.queue.length < capacity
    · simp only [hroom, if_true]
      exact h.put errand hroom
    · simp only [hroom, if_false, append_nil]
      exact h
  | proceed => exact h.proceed (proceeds handler f)
  | meanwhile op =>
    unfold Action.entries Action.step
    rw [append_nil]
    exact h.of_sameBooks (sameBooks_onBoard op f.play)

theorem Orderly.run (handler : Handler) (actions : List Action) :
    Orderly first (c ++ chronicle handler actions f) (run handler actions f) := by
  induction actions generalizing c f with
  | nil =>
    unfold chronicle
    rw [append_nil]
    exact h
  | cons a rest ih =>
    unfold chronicle
    rw [← append_assoc]
    exact ih (h.step handler a)

end

end

/-! ## Nobody waits for ever -/

section
variable {handler : Handler} {f : Floor}
variable (actions : List Action)

theorem run_append (handler : Handler) (actions later : List Action) (f : Floor) :
    run handler (actions ++ later) f = run handler later (run handler actions f) :=
  foldl_append

theorem step_ended (a : Action) (h : f.stage = .ended) : (a.step handler f).stage = .ended := by
  obtain ⟨p, stage⟩ := f
  cases h
  cases a with
  | put errand =>
    rw [step_put]
    split <;> rfl
  | proceed => rfl
  | meanwhile op => rfl

theorem run_ended (h : f.stage = .ended) : (run handler actions f).stage = .ended := by
  induction actions generalizing f with
  | nil => exact h
  | cons a rest ih => exact ih (step_ended a h)

theorem step_of_not_isProceed (handler : Handler) (f : Floor) {a : Action}
    (ha : a.isProceed = false) :
    (a.step handler f).stage = f.stage ∧ f.pending.length ≤ (a.step handler f).pending.length := by
  cases a with
  | put errand =>
    rw [step_put]
    split
    · refine ⟨rfl, ?_⟩
      have hpend : (⟨(Server.put errand).after f.play, f.stage⟩ : Floor).pending =
          f.stage.held ++ (f.queue ++ [⟨f.play.game.next, errand⟩]) := rfl
      rw [hpend, ← append_assoc, length_append]
      exact Nat.le_add_right _ _
    · exact ⟨rfl, Nat.le_refl _⟩
  | proceed => exact absurd ha (by decide)
  | meanwhile op =>
    refine ⟨rfl, ?_⟩
    have hqueue : ((onBoard op).after f.play).game.queue = f.queue :=
      (sameBooks_onBoard op f.play).queue
    simp only [Floor.pending, Floor.queue, Action.step, hqueue, Nat.le_refl]

theorem le_length_doneJobs {n : Nat} (hn : n ≤ f.pending.length)
    (hsteps : f.stage.due n ≤ actions.countP Action.isProceed)
    (hrun : (run handler actions f).stage ≠ .ended) :
    n ≤ (doneJobs (chronicle handler actions f)).length := by
  -- a step of the main loop lowers what is due, and no other step raises it
  induction actions generalizing f n with
  | nil =>
    rw [countP_nil, Nat.le_zero] at hsteps
    have hnone : n = 0 := by
      cases hstage : f.stage with
      | ended => exact absurd hstage hrun
      | looking | serving job | playing =>
        rw [hstage] at hsteps
        simp only [Stage.due] at hsteps
        omega
    rw [hnone]
    exact Nat.zero_le _
  | cons a rest ih =>
    rw [chronicle, doneJobs_append, length_append]
    change (run handler rest (a.step handler f)).stage ≠ .ended at hrun
    cases ha : a.isProceed with
    | false =>
      obtain ⟨hstage, hpend⟩ := step_of_not_isProceed handler f ha
      rw [countP_cons_of_neg (by simp [ha]), ← hstage] at hsteps
      exact Nat.le_trans (ih (Nat.le_trans hn hpend) hsteps hrun) (Nat.le_add_left _ _)
    | true =>
      obtain rfl : a = .proceed := by
        cases a with
        | proceed => rfl
        | put errand => cases ha
        | meanwhile op => cases ha
      have hstep := proceeds handler f
      have hlen : f.pending.length = f.stage.held.length +
          (Action.proceed.step handler f).pending.length := by
        rw [hstep.pending, length_append]
      rw [doneJobs_proceed]
      rcases Nat.eq_zero_or_pos n with rfl | hpos
      · exact Nat.zero_le _
      rcases hstep.sooner n hpos hn with hover | hsooner
      -- a main loop that has ended stays so
      · exact absurd (run_ended rest hover) hrun
      · rw [countP_cons_of_pos rfl] at hsteps
        have hrest := ih (n := n - f.stage.held.length) (by omega) (by omega) hrun
        omega

end

/-! ## Turns -/

def Reaches (handler : Handler) (f g : Floor) : Prop :=
  ∃ n, run handler (replicate n .proceed) f = g

section
variable {handler : Handler} {f g : Floor} {p : Play Server}

theorem Reaches.step (h : Action.proceed.step handler f = g) : Reaches handler f g := ⟨1, h⟩

theorem Reaches.trans {k : Floor} (h : Reaches handler f g) (h' : Reaches handler g k) :
    Reaches handler f k := by
  obtain ⟨m, rfl⟩ := h
  obtain ⟨n, rfl⟩ := h'
  refine ⟨m + n, ?_⟩
  rw [← replicate_append_replicate, run_append]

theorem advance_reaches (handler : Handler) (f : Floor) :
    wp (f.stage.advance handler) (fun stage q => Reaches handler f ⟨q, stage⟩)
      (fun _ q => Reaches handler f ⟨q, .ended⟩) f.play :=
  step_proceed_iff.mp (.step rfl)

theorem serve_reaches :
    wp (serve handler job)
      (fun done q => q.game.queue = p.game.queue ∧
        Reaches handler ⟨p, .serving job⟩ ⟨q, if done then .looking else .playing⟩)
      (fun _ q => Reaches handler ⟨p, .serving job⟩ ⟨q, .ended⟩) p := by
  have hbooks := (keeps_onBoard p.game (handler job.errand)).wp ⟨rfl, rfl, rfl⟩
  have hstep := step_serving job handler p
  unfold served at hstep
  rw [wp_serve]
  cases hout : onBoard (handler job.errand) p with
  | ok v q =>
    rw [wp_of_ok hout] at hbooks ⊢
    rw [hout] at hstep
    exact ⟨hbooks.queue, .step hstep⟩
  | error e q =>
    rw [wp_of_error hout] at hbooks ⊢
    rw [hout] at hstep
    cases e with
    | fault f => exact ⟨hbooks.queue, .step hstep⟩
    | ended => exact .step hstep

theorem drain_reaches {n : Nat} (h : p.game.queue.length ≤ n) :
    wp (drain handler n) (fun _ q => Reaches handler ⟨p, .looking⟩ ⟨q, .playing⟩)
      (fun _ q => Reaches handler ⟨p, .looking⟩ ⟨q, .ended⟩) p := by
  have hstep := advance_reaches handler ⟨p, .looking⟩
  unfold Stage.advance at hstep
  rw [wp_bind] at hstep
  -- each job of the round takes two steps: one to take it and one to serve it
  induction n generalizing p with
  | zero =>
    rwa [wp_of_ok (take_of_nil (eq_nil_of_length_eq_zero (Nat.le_zero.mp h)))] at hstep
  | succ n ih =>
    unfold drain
    rw [wp_bind]
    cases hqueue : p.game.queue with
    | nil =>
      rw [wp_of_ok (take_of_nil hqueue)] at hstep ⊢
      exact hstep
    | cons job rest =>
      rw [wp_of_ok (take_of_cons hqueue)] at hstep ⊢
      rw [wp_bind]
      refine wp_mono (serve_reaches job) ?_ fun _ _ hserved => hstep.trans hserved
      · rintro done q ⟨hrest, hserved⟩
        cases done with
        -- after a fault the round is over, with the rest of the queue left for the next one
        | false => exact hstep.trans hserved
        | true =>
          have hlen : q.game.queue.length ≤ n := by
            rw [hrest]
            rw [hqueue, length_cons] at h
            exact Nat.le_of_succ_le_succ h
          have hgoOn := advance_reaches handler ⟨q, .looking⟩
          unfold Stage.advance at hgoOn
          rw [wp_bind] at hgoOn
          exact wp_mono (ih hlen hgoOn) (fun _ _ hr => (hstep.trans hserved).trans hr)
            fun _ _ hr => (hstep.trans hserved).trans hr

theorem turn_reaches (h : p.game.alive) :
    wp turn
      (fun _ q => Reaches perform ⟨p, .looking⟩ ⟨q, .looking⟩ ∨
        Reaches perform ⟨p, .looking⟩ ⟨q, .ended⟩ ∧ q.game.alive = false)
      (fun _ q => Reaches perform ⟨p, .looking⟩ ⟨q, .ended⟩) p := by
  unfold turn
  rw [wp_bind, wp_state]
  simp only [h, if_true]
  rw [wp_bind]
  refine wp_post (drain_reaches (Nat.le_refl _)) ?_
  intro _ q hdrained
  have hstep := advance_reaches perform ⟨q, .playing⟩
  unfold Stage.advance at hstep
  rw [wp_bind] at hstep ⊢
  refine wp_mono hstep ?_ fun _ _ hr => hdrained.trans hr
  intro result r hr
  cases result with
  | ok _ => exact .inl (hdrained.trans hr)
  | error fault => exact .inr ⟨hdrained.trans hr, rfl⟩

end

/-! ## Once and in order -/

theorem orderly_of_empty {p : Play Server} (hqueue : p.game.queue = [])
    (hans : p.game.answers = []) : Orderly p.game.next [] ⟨p, .looking⟩ := by
  refine ⟨hqueue, rfl, rfl, fun n v => ?_, ?_⟩
  · simp [hans]
  · simp [Floor.queue, hqueue]

theorem chronicle_append (handler : Handler) (actions later : List Action) (f : Floor) :
    chronicle handler (actions ++ later) f =
      chronicle handler actions f ++ chronicle handler later (run handler actions f) := by
  induction actions generalizing f with
  | nil => rfl
  | cons a rest ih =>
    rw [cons_append, chronicle, chronicle, ih, append_assoc]
    rfl

section
variable {first : Nat} {c d : List Entry} {f g : Floor}

theorem Orderly.nodup (h : Orderly first c f) : ((doneJobs c).map Job.number).Nodup := by
  have hall : ((putJobs c).map Job.number).Nodup := by
    rw [h.numbers]
    exact nodup_range'
  rw [← h.order, map_append] at hall
  exact (nodup_append.mp hall).1

theorem Orderly.isPrefix_of_length_le (h : Orderly first (c ++ d) g)
    (hlen : (putJobs c).length ≤ (doneJobs (c ++ d)).length) :
    putJobs c <+: doneJobs (c ++ d) := by
  refine prefix_of_prefix_length_le ?_ (prefix_append _ g.pending) hlen
  rw [h.order, putJobs_append]
  exact prefix_append _ _

theorem Stage.due_le (n : Nat) (stage : Stage) : stage.due n ≤ 3 * n + 1 := by
  cases stage <;> simp only [Stage.due] <;> omega

end

/-- In whatever order callers put errands, the main loop goes on and other things happen, and
whichever errands fail: the jobs are done in the order in which they were put and no job twice, at
most ten wait, and the answers are those that the handlers of the jobs have returned. After three
more steps of the main loop for each job that is pending, and one, each job is done exactly once.
To serve a job is to run its handler, and the turns of the main loop are made of its steps. -/
theorem errands_done_once_in_order (handler : Handler) {p : Play Server}
    (hqueue : p.game.queue = []) (hanswers : p.game.answers = []) (actions : List Action) :
    Orderly p.game.next (chronicle handler actions ⟨p, .looking⟩)
        (run handler actions ⟨p, .looking⟩) ∧
      (∀ later : List Action,
        3 * (run handler actions ⟨p, .looking⟩).pending.length + 1 ≤ later.countP Action.isProceed →
        (run handler (actions ++ later) ⟨p, .looking⟩).stage ≠ .ended →
        putJobs (chronicle handler actions ⟨p, .looking⟩) <+:
            doneJobs (chronicle handler (actions ++ later) ⟨p, .looking⟩) ∧
          ∀ job ∈ putJobs (chronicle handler actions ⟨p, .looking⟩),
            ((doneJobs (chronicle handler (actions ++ later) ⟨p, .looking⟩)).map
              Job.number).count job.number = 1) ∧
      (∀ (job : Job) (q : Play Server),
        Action.proceed.step handler ⟨q, .serving job⟩ = served handler job q) ∧
      ∀ q : Play Server, q.game.alive →
        wp turn
          (fun _ r => Reaches perform ⟨q, .looking⟩ ⟨r, .looking⟩ ∨
            Reaches perform ⟨q, .looking⟩ ⟨r, .ended⟩ ∧ r.game.alive = false)
          (fun _ r => Reaches perform ⟨q, .looking⟩ ⟨r, .ended⟩) q := by
  have hstart := orderly_of_empty hqueue hanswers
  have hrun : ∀ actions, Orderly p.game.next (chronicle handler actions ⟨p, .looking⟩)
      (run handler actions ⟨p, .looking⟩) := fun actions => hstart.run handler actions
  refine ⟨hrun actions, fun later hsteps hstage => ?_, fun job q => step_serving job handler q,
    fun _ h => turn_reaches h⟩
  have hlater := hrun (actions ++ later)
  rw [run_append] at hstage
  have hdone := le_length_doneJobs later (Nat.le_refl _)
    (Nat.le_trans (Stage.due_le _ _) hsteps) hstage
  have hdoneFirst : putJobs (chronicle handler actions ⟨p, .looking⟩) <+:
      doneJobs (chronicle handler (actions ++ later) ⟨p, .looking⟩) := by
    rw [chronicle_append] at hlater ⊢
    refine hlater.isPrefix_of_length_le ?_
    rw [← (hrun actions).order, doneJobs_append, length_append, length_append]
    exact Nat.add_le_add_left hdone _
  refine ⟨hdoneFirst, fun job hjob => ?_⟩
  exact count_eq_one_of_mem hlater.nodup (mem_map_of_mem (hdoneFirst.subset hjob))

def fourErrands : List Action :=
  [.put (.load (.int 1)), .proceed, .put (.spot (.int 5)), .put .report, .put .unload]

/-- The first job fails, and the targets that the second one names are set. -/
theorem errands_done_once_in_order_first_fails :
    let f : Floor := ⟨{ game := {} }, .looking⟩
    let actions := fourErrands ++ replicate 13 .proceed
    let g := run perform actions f
    (putJobs (chronicle perform fourErrands f)).map Job.number = [0, 1, 2, 3] ∧
      putJobs (chronicle perform fourErrands f) <+: doneJobs (chronicle perform actions f) ∧
      g.play.game.answers.map Prod.fst = [3, 2, 1] ∧
      g.play.game.board.arcade.spotter.targets.same (.int 5) = true := by
  intro f actions g
  have hstage : g.stage.due 1 ≠ 0 := by decide +kernel
  refine ⟨by decide +kernel, ?_, by decide +kernel⟩
  refine ((errands_done_once_in_order perform rfl rfl fourErrands).2.1 _ ?_ ?_).1
  · decide +kernel
  · exact fun hover => hstage (congrArg (Stage.due 1) hover)

end Rover.Remote
