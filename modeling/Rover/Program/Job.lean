import Rover.Program.Tree
import Rover.Signature

/-!
# Jobs

A job is a calculation of a program.
-/

namespace Rover.Program

/-- A level of names of a running function: those it binds itself, those it takes from the
outermost level, and the frame that holds its values. -/
structure Layer where
  locals : List String
  globals : List String
  frame : Nat

inductive Iteration where
  | items (rest : List Item)
  | span (start step : Int) (count : Nat)
  | mapped (f : Item) (sources : List Item)
  | filtered (f source : Item)
  | zipped (sources : List Item) (strict : Bool)
  | numbered (next : Int) (source : Item)

inductive Request where
  | settle (i : Item)
  | read (layers : List Layer) (name : String)
  | write (layers : List Layer) (name : String) (i : Item)
  | delete (layers : List Layer) (name : String)
  | close (layers : List Layer) (f : Function) (defaults : List Item)
      (namedDefaults : Named)
  | call (f : Item) (positional : List Item) (named : Named)
  | iterate (className : String) (it : Iteration)
  | next (id : Nat)
  | renew (id : Nat) (it : Iteration)
  | yield (i : Item)
  | outcome (id : Nat)
  | handle (f : Fault)
  | handled
  | again
  | step
  | halt

abbrev Reply := Option Item

inductive Job (α : Type) where
  | done (a : α)
  | fail (f : Fault)
  | ask (r : Request) (next : Result Reply → Job α)

namespace Job

variable {α β : Type}

def bind : Job α → (α → Job β) → Job β
  | .done a, f => f a
  | .fail e, _ => .fail e
  | .ask r next, f => .ask r fun answer => bind (next answer) f

instance : Monad Job where
  pure := .done
  bind := bind

def ofExcept : Result α → Job α
  | .ok a => .done a
  | .error f => .fail f

instance : MonadLift (Except Fault) Job := ⟨ofExcept⟩

def attempt : Job α → Job (Result α)
  | .done a => .done (.ok a)
  | .fail f => .done (.error f)
  | .ask r next => .ask r fun answer => attempt (next answer)

variable (r : Request)

def request? : Job Reply := .ask r ofExcept

def request : Job Item := do return (← request? r).getD .none

def perform : Job Unit := do
  let _ ← request? r

def refuse (reason : String) : Job α := .fail (.arguments reason)

def made (i : Item) : Job Item := if i.isUnborn then request (.settle i) else .done i

def madeAll (items : List Item) : Job (List Item) := do
  if items.any Item.isUnborn then
    match ← request (.settle (.list .unborn items)) with
    | .list _ settled => return settled
    | _ => return items
  return items

def call (f : Item) (positional : List Item) : Job Item := request (.call f positional [])

def plenty : Nat := 2000000

def loop {σ : Type} (step : σ → Job (σ ⊕ α)) : Nat → σ → Job α
  | 0, _ => .ask .halt fun _ => .fail .outOfMemory
  | fuel + 1, s => do
    match ← step s with
    | .inl s => loop step fuel s
    | .inr a => return a

def each (f : α → Job Unit) : List α → Job Unit
  | [] => .done ()
  | a :: rest => bind (f a) fun _ => each f rest

def mapList (f : α → Job β) : List α → Job (List β)
  | [] => .done []
  | a :: rest => do return (← f a) :: (← mapList f rest)

end Job

export Job (made)

end Rover.Program
