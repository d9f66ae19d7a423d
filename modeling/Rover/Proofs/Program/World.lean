import Rover.Program.Machine
import Rover.Proofs.Op

/-!
# One program in two worlds

All that a program learns of its world are the outcomes of its commands. So if each command has
the same outcome in two worlds and leads to worlds that are alike again, the whole program takes the
same course in both and ends alike. What every command keeps, the program keeps.
-/

namespace Rover.Program

namespace Machine

variable {σ : Type}

def Action.machine : Action σ → Machine σ
  | .answer _ m | .run _ _ m | .handOut _ m | .stop m => m

theorem writeName_world (m : Machine σ) (layers : List Layer) (name : String) (i : Item) :
    (m.writeName layers name i).world = m.world := by
  unfold writeName
  split <;> rfl

theorem deleteName_world {m m' : Machine σ} {layers : List Layer} {name : String}
    (h : m.deleteName layers name = .ok m') : m'.world = m.world := by
  unfold deleteName at h
  split at h <;> split at h <;> cases h <;> rfl

theorem callClosure_world (s : Signature Item) (shape : Shape) (body : List Stmt)
    (layers : List Layer) (args : List Item) (named : List (String × Item)) (next : Next)
    (m : Machine σ) :
    (callClosure s shape body layers args named next m).machine.world = m.world := by
  unfold callClosure
  split
  · rfl
  · split
    · rfl
    · split
      cases hyields : shape.yields <;> rfl

theorem takeNext_world (id : Nat) (next : Next) (m : Machine σ) :
    (takeNext id next m).machine.world = m.world := by
  unfold takeNext
  split <;> rfl

theorem resume_world {m m' : Machine σ} {r : Result Reply} {job : Job Reply}
    (h : m.resume r = some (job, m')) : m'.world = m.world := by
  unfold resume at h
  split at h
  · cases h
  · cases h; rfl
  · cases h; rfl
  · split at h <;> cases h <;> rfl

def inWorld (m : Machine σ) (w : σ) : Machine σ := { m with world := w }

def Action.inWorld (w : σ) : Action σ → Action σ
  | .answer r m => .answer r (m.inWorld w)
  | .run job waiting m => .run job waiting (m.inWorld w)
  | .handOut i m => .handOut i (m.inWorld w)
  | .stop m => .stop (m.inWorld w)

section
variable (m : Machine σ) (w : σ)

theorem nameIn_inWorld (unbound : String → Fault) (name : String) (layers : List Layer) :
    (m.inWorld w).nameIn unbound name layers = m.nameIn unbound name layers := by
  induction layers generalizing unbound with
  | nil => rfl
  | cons l outer ih =>
    unfold nameIn
    rw [ih]
    rfl

variable (layers : List Layer)

theorem readName_inWorld (name : String) :
    (m.inWorld w).readName layers name = m.readName layers name :=
  m.nameIn_inWorld w .unboundLocal name layers

theorem writeName_inWorld (name : String) (i : Item) :
    (m.inWorld w).writeName layers name i = (m.writeName layers name i).inWorld w := by
  unfold writeName
  split <;> rfl

theorem deleteName_inWorld (name : String) :
    (m.inWorld w).deleteName layers name = (m.deleteName layers name).map fun m => m.inWorld w := by
  unfold deleteName
  split
  · rw [apply_ite (Except.map _)]
    rfl
  · rw [apply_ite (Except.map _)]
    rfl

theorem callClosure_inWorld (s : Signature Item) (shape : Shape) (body : List Stmt)
    (layers : List Layer) (args : List Item) (named : List (String × Item)) (next : Next) :
    callClosure s shape body layers args named next (m.inWorld w) =
      (callClosure s shape body layers args named next m).inWorld w := by
  unfold callClosure
  split
  · rfl
  · by_cases hdepth : deepestCall ≤ m.depth
    · rw [if_pos hdepth, if_pos (show deepestCall ≤ (m.inWorld w).depth from hdepth)]
      rfl
    · rw [if_neg hdepth, if_neg (show ¬ deepestCall ≤ (m.inWorld w).depth from hdepth)]
      cases hyields : shape.yields <;> rfl

theorem takeNext_inWorld (id : Nat) (next : Next) :
    takeNext id next (m.inWorld w) = (takeNext id next m).inWorld w := by
  unfold takeNext
  rw [show (m.inWorld w).things = m.things from rfl]
  generalize m.things[id]? = thing
  match thing with
  | none | some (.closure ..) => rfl
  | some (.iteration (.items [])) | some (.iteration (.items (_ :: _))) => rfl
  | some (.iteration (.span _ _ 0)) | some (.iteration (.span _ _ (_ + 1))) => rfl
  | some (.iteration (.mapped ..)) | some (.iteration (.filtered ..)) => rfl
  | some (.iteration (.zipped ..)) | some (.iteration (.numbered ..)) => rfl
  | some (.generator p) => cases p <;> rfl

theorem resume_inWorld (r : Result Reply) :
    (m.inWorld w).resume r = (m.resume r).map fun (job, m) => (job, m.inWorld w) := by
  unfold resume
  rw [show (m.inWorld w).stack = m.stack from rfl]
  generalize m.stack = stack
  match stack with
  | [] | .user _ :: _ | .caller _ :: _ => rfl
  | .taker _ _ _ :: _ => cases r <;> rfl

end

section
variable {R : σ → σ → Prop} {host : Host σ}

def Follows (R : σ → σ → Prop) (a a' : Action σ) : Prop :=
  ∃ w, R a.machine.world w ∧ a' = a.inWorld w

variable {m : Machine σ} {w : σ}

theorem Follows.of_world {a a' : Action σ} (h : R m.world w)
    (hworld : a.machine.world = m.world) (heq : a' = a.inWorld w) : Follows R a a' := by
  refine ⟨w, ?_, heq⟩
  rw [hworld]
  exact h

variable (hhost : ∀ c ∈ Command.all, ∀ args named, Alike R (host c args named))
include hhost

theorem callCommand_follows (name : String) (args : List Item) (named : List (String × Item))
    (h : R m.world w) : Follows R (callCommand host name args named m)
      (callCommand host name args named (m.inWorld w)) := by
  unfold callCommand
  cases hfind : Command.find? name with
  | none => exact .of_world h rfl rfl
  | some c =>
    generalize List.map _ named = values
    have hsame := hhost c (List.mem_of_find?_eq_some hfind) (args.map Item.toValue) values
      m.world w h
    rcases hsame.cases with ⟨v, u, u', hm, hw, hnext⟩ | ⟨e, u, u', hm, hw, hnext⟩
    · simp only [inWorld, hm, hw]
      exact ⟨u', hnext, rfl⟩
    · simp only [inWorld, hm, hw]
      cases e with
      | fault f => exact ⟨u', hnext, rfl⟩
      | ended => exact ⟨u', hnext, rfl⟩

theorem call_follows (f : Item) (args : List Item) (named : List (String × Item)) (next : Next)
    (h : R m.world w) :
    Follows R (call host f args named next m) (call host f args named next (m.inWorld w)) := by
  cases f with
  | function id =>
    unfold call
    simp only
    rw [show (m.inWorld w).things = m.things from rfl]
    generalize m.things[id]? = thing
    match thing with
    | some (.closure ..) => exact .of_world h (callClosure_world ..) (callClosure_inWorld ..)
    | none | some (.iteration _) | some (.generator _) => exact .of_world h rfl rfl
  | command name => exact callCommand_follows hhost name args named h
  | _ => exact .of_world h rfl rfl

theorem act_follows (r : Request) (next : Next) (h : R m.world w) :
    Follows R (m.act host r next) ((m.inWorld w).act host r next) := by
  cases r with
  | call f args named => exact call_follows hhost f args named next h
  | next id => exact .of_world h (takeNext_world ..) (takeNext_inWorld ..)
  | read layers name =>
    refine .of_world h rfl ?_
    change Action.answer (((m.inWorld w).readName layers name).map some) _ = _
    rw [readName_inWorld]
    rfl
  | write layers name i =>
    refine .of_world h (writeName_world ..) ?_
    change Action.answer (.ok none) ((m.inWorld w).writeName layers name i) = _
    rw [writeName_inWorld]
    rfl
  | delete layers name =>
    unfold act
    simp only
    rw [deleteName_inWorld]
    cases hdelete : m.deleteName layers name with
    | ok m' => exact .of_world h (deleteName_world hdelete) rfl
    | error f => exact .of_world h rfl rfl
  | close layers f defaults namedDefaults =>
    cases f
    exact .of_world h rfl rfl
  | yield i =>
    unfold act
    simp only
    rw [show (m.inWorld w).stack = m.stack from rfl]
    split <;> exact .of_world h rfl rfl
  | outcome id =>
    unfold act
    simp only
    rw [show (m.inWorld w).things = m.things from rfl]
    split <;> exact .of_world h rfl rfl
  | again =>
    unfold act
    simp only
    rw [show (m.inWorld w).handling = m.handling from rfl]
    split <;> exact .of_world h rfl rfl
  | settle | iterate | renew | handle | handled | step | halt => exact .of_world h rfl rfl

theorem run_follows (fuel : Nat) (job : Job Reply) (h : R m.world w) :
    ∃ w', R (run host fuel job m).2.world w' ∧
      run host fuel job (m.inWorld w) =
        ((run host fuel job m).1, (run host fuel job m).2.inWorld w') := by
  induction fuel generalizing job m w with
  | zero => cases job <;> exact ⟨w, h, rfl⟩
  | succ fuel ih =>
    have hresume : ∀ r : Result Reply, ∀ p, m.resume r = some p →
        ∃ w', R (run host fuel p.1 p.2).2.world w' ∧
          run host fuel p.1 (p.2.inWorld w) =
            ((run host fuel p.1 p.2).1, (run host fuel p.1 p.2).2.inWorld w') := by
      intro r p hp
      refine ih p.1 ?_
      rw [resume_world hp]
      exact h
    cases job with
    | done a =>
      unfold run
      rw [resume_inWorld]
      cases hnext : m.resume (.ok a) with
      | none => exact ⟨w, h, rfl⟩
      | some p => exact hresume _ p hnext
    | fail f =>
      unfold run
      rw [resume_inWorld]
      cases hnext : m.resume (.error f) with
      | none => exact ⟨w, h, rfl⟩
      | some p => exact hresume _ p hnext
    | ask r next =>
      obtain ⟨w', hw', heq⟩ := act_follows hhost r next h
      unfold run
      rw [heq]
      cases hact : m.act host r next with
      | answer a m' =>
        rw [hact] at hw'
        exact ih _ hw'
      | run job waiting m' =>
        rw [hact] at hw'
        exact ih job (m := { m' with stack := waiting :: m'.stack }) hw'
      | handOut i m' =>
        rw [hact] at hw'
        simp only [Action.inWorld]
        rw [show (m'.inWorld w').stack = m'.stack from rfl]
        cases m'.stack with
        | nil => exact ⟨w', hw', rfl⟩
        | cons waiting rest =>
          cases waiting with
          | caller => exact ⟨w', hw', rfl⟩
          | user => exact ⟨w', hw', rfl⟩
          | taker cell taker handling =>
            exact ih _ (m := { m' with stack := rest, handling, depth := m'.depth - 1 }) hw'
      | stop m' =>
        rw [hact] at hw'
        exact ⟨w', hw', rfl⟩

end

end Machine

theorem Tree.run_alike {σ : Type} {host : Host σ} {R : σ → σ → Prop}
    (hhost : ∀ c ∈ Command.all, ∀ args named, Alike R (host c args named))
    (commands : Bool) (t : Tree) : Alike R (t.run host commands) := by
  intro u w h
  unfold Tree.run
  obtain ⟨w', hw', heq⟩ := Machine.run_follows hhost requestLimit (Eval.body [] t.body)
    (m := Machine.start u commands) h
  have hstart : (Machine.start u commands).inWorld w = Machine.start w commands := rfl
  rw [← hstart, heq]
  generalize Machine.run host requestLimit (Eval.body [] t.body) (Machine.start u commands) =
    result at hw'
  match result with
  | (some (.ok _), _) | (some (.error _), _) | (none, _) => exact ⟨rfl, hw'⟩

theorem Tree.run_keeps {σ : Type} {host : Host σ} {I : σ → Prop}
    (hhost : ∀ c ∈ Command.all, ∀ args named, Keeps I (host c args named))
    (commands : Bool) (t : Tree) : Keeps I (t.run host commands) := by
  have hrun := run_alike (fun c hc args named => (Op.Alike.eq _).and_keeps (hhost c hc args named))
    commands t
  refine keeps_iff_wp.mpr fun w hw => ?_
  rcases (hrun w w ⟨rfl, hw⟩).cases with ⟨a, s, _, heq, -, -, hs⟩ | ⟨e, s, _, heq, -, -, hs⟩
  · exact (wp_of_ok heq).mpr hs
  · exact (wp_of_error heq).mpr hs

end Rover.Program
