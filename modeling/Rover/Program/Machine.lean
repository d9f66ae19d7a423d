import Rover.Commands
import Rover.Program.Eval

/-!
# The machine of programs

Runs the jobs of a program: it holds the names, the functions and the iterations that the program
made, and the world that its commands act on.
-/

namespace Rover.Program

abbrev Host (σ : Type) := Command → List Value → List (String × Value) → Op σ Value

abbrev Next := Result Reply → Job Reply

inductive Progress where
  | fresh (job : Job Reply)
  | suspended (next : Next) (handling : List Fault)
  | running
  | finished (outcome : Item)

inductive Thing where
  | closure (signature : Signature Item) (shape : Shape) (body : List Stmt) (layers : List Layer)
  | iteration (it : Iteration)
  | generator (p : Progress)

inductive Waiting where
  | caller (next : Next)
  | user (next : Next)
  | taker (id : Nat) (next : Next) (handling : List Fault)

structure Machine (σ : Type) where
  world : σ
  births : Nat := 0
  things : Array Thing := #[]
  globals : Named := []
  frames : Array Named := #[]
  handling : List Fault := []
  stack : List Waiting := []
  depth : Nat := 0

namespace Machine

variable {σ : Type}

def aliases : List (String × String) := [("停止", "tingzhi"), ("前进", "qianjin"), ("后退", "houtui")]

def guards : List String :=
  ["__name__", "_getattr_", "_getiter_", "_iter_unpack_sequence_", "_unpack_sequence_"]

def givenNames (commands output : Bool) : List String :=
  guards
    ++ (if commands then
          Command.all.map (·.name) ++ aliases.map Prod.fst ++ Library.every.map Library.name
        else [])
    ++ (if output then ["_print_", "print"] else []) ++ ["time"]

def constants : Named := [("None", .none), ("True", .bool true),
  ("False", .bool false), ("NotImplemented", .notImplemented), ("Ellipsis", .ellipsis),
  ("__debug__", .bool true)]

def builtinNames : List String :=
  Builtin.every.map (·.name) ++ "print" :: constants.map Prod.fst

def builtins : Named :=
  Builtin.every.map (fun b => (b.name, .builtin b)) ++ constants

def given (commands : Bool) : Named :=
  (if commands then
    Command.all.map (fun c => (c.name, .command c.name))
      ++ aliases.map (fun (other, name) => (other, .command name))
      ++ Library.every.map (fun l => (l.name, .library l))
  else []) ++ [("time", .clock), ("_print_", .collector), ("_getattr_", .thing "function")]

def start (world : σ) (commands : Bool) : Machine σ := { world, globals := given commands }

variable (m : Machine σ)

def globalName (name : String) : Result Item :=
  match (m.globals.lookup name).or (builtins.lookup name) with
  | some i => .ok i
  | none => .error (.unknownName name)

def frameName (frame : Nat) (name : String) : Option Item :=
  ((m.frames[frame]?).getD []).lookup name

/-- What a name stands for within the given layers. One that has nothing yet is reported in one way in
the innermost layer and in another way further out. -/
def nameIn (unbound : String → Fault) (name : String) : List Layer → Result Item
  | [] => m.globalName name
  | l :: outer =>
    if l.globals.contains name then m.globalName name
    else if l.locals.contains name then
      match m.frameName l.frame name with
      | some i => .ok i
      | none => .error (unbound name)
    else nameIn .unboundFree name outer

variable (layers : List Layer)

variable (name : String)

def readName : Result Item :=
  m.nameIn .unboundLocal name layers

def store (entries : Named) (name : String) (i : Item) : Named :=
  (name, i) :: entries.filter (·.1 != name)

def frameOf? : Option Nat :=
  match layers with
  | [] => none
  | l :: _ => if l.globals.contains name then none else some l.frame

def writeName (i : Item) : Machine σ :=
  match frameOf? layers name with
  | none => { m with globals := store m.globals name i }
  | some frame => { m with frames := m.frames.modify frame (store · name i) }

def deleteName : Result (Machine σ) :=
  match frameOf? layers name with
  | none =>
    if m.globals.any (·.1 == name) then
      .ok { m with globals := m.globals.filter (·.1 != name) }
    else .error (.unknownName name)
  | some frame =>
    if ((m.frames[frame]?).getD []).any (·.1 == name) then
      .ok { m with frames := m.frames.modify frame (·.filter (·.1 != name)) }
    else .error (.deletedLocal name)

def add (t : Thing) : Nat × Machine σ :=
  (m.things.size, { m with things := m.things.push t })

def change (id : Nat) (t : Thing) : Machine σ :=
  { m with things := m.things.setIfInBounds id t }

def settled (i : Item) : Item × Machine σ :=
  let (i, births) := i.settle m.births
  (i, { m with births })

def signature (shape : Shape) (defaults : List Item) (namedDefaults : Named) : Signature Item :=
  let plain := shape.positional.length - defaults.length
  { name := shape.name
    parameters := shape.positional.zipIdx.map fun (n, i) =>
      { name := n, default := if i < plain then none else defaults[i - plain]? }
    positionalOnly := shape.positionalOnly
    rest := shape.rest
    namedOnly := shape.namedOnly.map fun n => { name := n, default := namedDefaults.lookup n }
    namedRest := shape.namedRest }

def deepestCall : Nat := 980

inductive Action (σ : Type) where
  | answer (r : Result Reply) (m : Machine σ)
  | run (job : Job Reply) (w : Waiting) (m : Machine σ)
  | handOut (i : Item) (m : Machine σ)
  | stop (m : Machine σ)

def callClosure (s : Signature Item) (shape : Shape) (body : List Stmt)
    (layers : List Layer) (args : List Item) (named : Named) (next : Next)
    (m : Machine σ) : Action σ :=
  match s.bindNames ofTuple Item.record args named with
  | .error f => .answer (.error f) m
  | .ok bound =>
    if deepestCall ≤ m.depth then .answer (.error (.tooDeep "")) m
    else
      let (values, births) := Item.settleItems m.births (bound.map Prod.snd)
      let frame := m.frames.size
      let m := { m with births, frames := m.frames.push ((bound.map Prod.fst).zip values) }
      let layer : Layer := { locals := shape.locals, globals := shape.globals, frame }
      let job := Eval.body (layer :: layers) body
      if shape.yields then
        let (id, m) := m.add (.generator (.fresh job))
        .answer (.ok (some (.iterator "generator" id))) m
      else .run job (.caller next) { m with depth := m.depth + 1 }

variable (host : Host σ)

def callCommand (name : String) (args : List Item) (named : Named) (m : Machine σ) : Action σ :=
  match Command.find? name with
  | none => .answer (.error (.notCallable "function")) m
  | some c =>
    match host c (args.map Item.toValue) (named.map fun (n, i) => (n, i.toValue)) m.world with
    | .ok v world =>
      let (i, m) := { m with world }.settled (Item.ofValue v)
      .answer (.ok (some i)) m
    | .error (.fault f) world => .answer (.error f) { m with world }
    | .error .ended world => .stop { m with world }

def call (f : Item) (args : List Item) (named : Named) (next : Next) (m : Machine σ) : Action σ :=
  match f with
  | .function id =>
    match m.things[id]? with
    | some (.closure s shape body layers) => callClosure s shape body layers args named next m
    | _ => .answer (.error (.notCallable "function")) m
  | .command name => callCommand host name args named m
  | f => .run (do return some (← f.call ⟨args, named⟩)) (.user next) m

def takeNext (id : Nat) (next : Next) (m : Machine σ) : Action σ :=
  let resume (job : Job Reply) (handling : List Fault) : Action σ :=
    .run job (.taker id next m.handling)
      { m.change id (.generator .running) with
        depth := m.depth + 1, handling := handling ++ m.handling }
  match m.things[id]? with
  | some (.iteration (.items [])) => .answer (.ok none) m
  | some (.iteration (.items (x :: rest))) =>
    let (i, m) := (m.change id (.iteration (.items rest))).settled x
    .answer (.ok (some i)) m
  | some (.iteration (.span _ _ 0)) => .answer (.ok none) m
  | some (.iteration (.span a step (n + 1))) =>
    let (i, m) := (m.change id (.iteration (.span (a + step) step n))).settled (ofInt a)
    .answer (.ok (some i)) m
  | some (.iteration it) => .run (Job.advance id it) (.user next) m
  | some (.generator (.fresh job)) => resume job []
  | some (.generator (.suspended go handling)) => resume (go (.ok (some .none))) handling
  | some (.generator .running) => .answer (unfit "generator already executing") m
  | _ => .answer (.ok none) m

def act (r : Request) (next : Next) (m : Machine σ) : Action σ :=
  let nothing (m : Machine σ) : Action σ := .answer (.ok none) m
  match r with
  | .settle i =>
    let (i, m) := m.settled i
    .answer (.ok (some i)) m
  | .read layers name => .answer ((m.readName layers name).map some) m
  | .write layers name i => nothing (m.writeName layers name i)
  | .delete layers name =>
    match m.deleteName layers name with
    | .ok m => nothing m
    | .error f => .answer (.error f) m
  | .close layers (.mk shape _ _ _ body) defaults namedDefaults =>
    let (id, m) := m.add (.closure (signature shape defaults namedDefaults) shape body layers)
    .answer (.ok (some (.function id))) m
  | .call f args named => call host f args named next m
  | .iterate className it =>
    let (id, m) := m.add (.iteration it)
    .answer (.ok (some (.iterator className id))) m
  | .next id => takeNext id next m
  | .renew id it => nothing (m.change id (.iteration it))
  | .yield i =>
    match m.stack with
    | .taker id _ outer :: _ =>
      let own := m.handling.take (m.handling.length - outer.length)
      .handOut i (m.change id (.generator (.suspended next own)))
    | _ => nothing m
  | .outcome id =>
    match m.things[id]? with
    | some (.generator (.finished i)) => .answer (.ok (some i)) m
    | _ => .answer (.ok (some .none)) m
  | .handle f => nothing { m with handling := f :: m.handling }
  | .handled => nothing { m with handling := m.handling.drop 1 }
  | .again =>
    match m.handling with
    | f :: _ => .answer (.error f) m
    | [] => .answer (.error .nothingToRaise) m
  | .step => nothing m
  | .halt => .stop m

def resume (r : Result Reply) (m : Machine σ) : Option (Job Reply × Machine σ) :=
  match m.stack with
  | [] => none
  | .user next :: stack => some (next r, { m with stack })
  | .caller next :: stack => some (next r, { m with stack, depth := m.depth - 1 })
  | .taker id next handling :: stack =>
    let m := { m with stack, handling, depth := m.depth - 1 }
    match r with
    | .ok outcome =>
      some (next (.ok none), m.change id (.generator (.finished (outcome.getD .none))))
    | .error f => some (next (.error f), m.change id (.generator (.finished .none)))

def run : Nat → Job Reply → Machine σ → Option (Result Reply) × Machine σ
  | 0, _, m => (none, m)
  | fuel + 1, .done a, m =>
    match m.resume (.ok a) with
    | some (job, m) => run fuel job m
    | none => (some (.ok a), m)
  | fuel + 1, .fail f, m =>
    match m.resume (.error f) with
    | some (job, m) => run fuel job m
    | none => (some (.error f), m)
  | fuel + 1, .ask r next, m =>
    match m.act host r next with
    | .answer a m => run fuel (next a) m
    | .run job w m => run fuel job { m with stack := w :: m.stack }
    | .handOut i m =>
      match m.stack with
      | .taker _ taker handling :: stack =>
        run fuel (taker (.ok (some i))) { m with stack, handling, depth := m.depth - 1 }
      | _ => (none, m)
    | .stop m => (none, m)

end Machine

def requestLimit : Nat := 1000000000

def Tree.run {σ : Type} (host : Host σ) (commands : Bool) (t : Tree) : Op σ Unit := fun w =>
  match Machine.run host requestLimit (Eval.body [] t.body) (Machine.start w commands) with
  | (some (.ok _), m) => .ok () m.world
  | (some (.error f), m) => .error (.fault f) m.world
  | (none, m) => .error .ended m.world

end Rover.Program
