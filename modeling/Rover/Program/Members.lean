import Rover.Program.Braces
import Rover.Program.Members.Bytes
import Rover.Program.Members.Chance
import Rover.Program.Members.Mapping
import Rover.Program.Members.Number
import Rover.Program.Members.Sequence

/-!
# Members

What belongs to an item: parts of it, and functions that are called with it.
-/

namespace Rover.Program

namespace ThreadMember

def classes : List (String × String) := [("Thread", "Thread"), ("Timer", "Timer"),
  ("Lock", "_thread.lock"), ("RLock", "_thread.RLock"), ("Event", "Event"), ("Condition", "Condition"),
  ("Semaphore", "Semaphore"), ("BoundedSemaphore", "BoundedSemaphore"), ("Barrier", "Barrier"),
  ("local", "_thread._local")]

def functions : List String := ["active_count", "activeCount", "current_thread",
  "currentThread", "enumerate", "get_ident", "get_native_id", "main_thread", "settrace",
  "setprofile", "stack_size"]

def names : List String := classes.map Prod.fst ++ functions

def thingNames : List String := ["start", "join", "run", "is_alive", "cancel", "acquire",
  "release", "locked", "set", "is_set", "clear", "wait", "notify", "notify_all", "setDaemon",
  "isDaemon", "getName", "setName"]

variable (name : String)

def parameter (default : Item) : Parameter Item :=
  { name, default := some default }

def threadSignature : Signature Item :=
  { name := "Thread.__init__"
    parameters := { name := "self" } :: [parameter "group" .none, parameter "target" .none,
      parameter "name" .none, parameter "args" (.tuple .value []), parameter "kwargs" .none]
    namedOnly := [parameter "daemon" .none] }

def timerSignature : Signature Item :=
  { name := "Timer.__init__"
    parameters := [{ name := "self" }, { name := "interval" }, { name := "function" },
      parameter "args" .none, parameter "kwargs" .none] }

def namedOf : Item → Named
  | .dict _ es => es.filterMap fun (k, v) =>
    match k with
    | .str _ s => some (s, v)
    | _ => none
  | _ => []

def call (g : Given) : Job Item := do
  let bind (s : Signature Item) : Result Named :=
    s.bindNames ofTuple Item.record (.none :: g.positional) g.named
  match name with
  | "Thread" =>
    let bound ← bind threadSignature
    let part (n : String) : Item := (bound.lookup n).getD .none
    return .thread (part "target") [part "args"] (namedOf (part "kwargs"))
  | "Timer" =>
    let _ ← bind timerSignature
    return .thing "Timer"
  | "active_count" | "activeCount" => return .int .value 1
  | "get_ident" | "get_native_id" => made (ofNat 1000)
  | "enumerate" => made (ofList [.thing "Thread"])
  | "stack_size" => return .int .value 0
  | "settrace" | "setprofile" => return .none
  | name => return .thing ((classes.lookup name).getD "Thread")

def start (target : Item) (args : List Item) (named : Named) : Job Item := do
  let body : Job Item := do
    let positional ← match args with
      | [i] => Job.elements i
      | items => pure items
    Job.request (.call target positional named)
  match target with
  | .none => return .none
  | _ =>
    let _ ← body.attempt
    return .none

def callThing : Item :=
  match name with
  | "is_alive" | "locked" | "is_set" | "isDaemon" => .bool false
  | "acquire" | "wait" => .bool true
  | "getName" => Item.ofString "Thread-1"
  | _ => .none

end ThreadMember

namespace Item

def functionNames (className : String) : List String :=
  match className with
  | "str" => TextMember.names
  | "bytes" => BytesMember.names
  | "list" => SequenceMember.listNames
  | "tuple" | "range" => SequenceMember.names
  | "dict" => MappingMember.names
  | "dict_keys" | "dict_items" => MappingMember.viewNames
  | "set" => MappingMember.setNames
  | "int" | "bool" => NumberMember.wholeNames
  | "float" => NumberMember.realNames
  | "complex" => NumberMember.complexNames
  | "Thread" | "Timer" | "_thread.lock" | "_thread.RLock" | "Event" | "Condition" | "Semaphore"
  | "BoundedSemaphore" | "Barrier" => ThreadMember.thingNames
  | "Random" => ChanceMember.names
  | _ => []

def part? (i : Item) (name : String) : Option Item :=
  match i with
  | .bool b => NumberMember.wholePart? (if b then 1 else 0) name
  | .int _ n => NumberMember.wholePart? n name
  | .float _ x => NumberMember.realPart? x name
  | .complex _ z => NumberMember.complexPart? z name
  | .range _ a b c => SequenceMember.ofRange? a b c name
  | .clock => if name == "sleep" then some .sleeper else Option.none
  | _ => Option.none

def ofLibrary? (l : Library) (name : String) : Option Item :=
  match l with
  | .math =>
    if MathMember.names.contains name then some (.routine l name)
    else (MathMember.constant? name).map ofFloat
  | .random =>
    if ChanceMember.names.contains name || name == ChanceMember.className then
      some (.routine l name)
    else ChanceMember.constants.lookup name
  | .threading => if ThreadMember.names.contains name then some (.routine l name) else Option.none

variable (b : Builtin)

def describedNames : List String :=
  match b with
  | .int | .bool => ["real", "imag", "numerator", "denominator"]
  | .float => ["real", "imag"]
  | .range => ["start", "stop", "step"]
  | _ => []

def member (i : Item) (name : String) : Result Item :=
  match i with
  | .library l => .ok ((ofLibrary? l name).getD .none)
  | .str .. =>
    if name == "format" then .error (.unfitRuntime "Using format() on a str is not safe.")
    else .ok (if TextMember.names.contains name then .method i name else .none)
  | .builtin b =>
    if !b.isClass then .ok .none
    else if (functionNames b.name).contains name || name == "mro" then .ok (.method i name)
    else if (describedNames b).contains name then
      .ok (.thing (if b == .range then "member_descriptor" else "getset_descriptor"))
    else .ok .none
  | i =>
    match part? i name with
    | some p => .ok p
    | Option.none =>
      .ok (if (functionNames i.className).contains name then .method i name else .none)

def filledIn (s : String) (positional : Option (List Item)) (named : Item) : Result Item := do
  return newText (← Braces.fill { positional, named, member } s)

def callMember (owner : String) (receiver : Item) (name : String) (g : Given) : Job Item :=
  match receiver with
  | .str _ s =>
    match name with
    | "format" => do made (← filledIn s (some g.positional) (record g.named))
    | "format_map" => do
      made (← filledIn s Option.none (← g.single "str.format_map"))
    | name => TextMember.call receiver s name g
  | .bytes _ bs => BytesMember.call bs name g
  | .list _ items => SequenceMember.callList items name g
  | .tuple _ items => do made (← SequenceMember.callTuple items name g)
  | .range _ a b c => do made (← SequenceMember.callRange a b c name g)
  | .dict _ es => MappingMember.call es name g
  | .view facet es => MappingMember.callView facet es g
  | .set _ slots => MappingMember.callSet slots name g
  | .bool b => NumberMember.callWhole owner (if b then 1 else 0) name g
  | .int _ n => NumberMember.callWhole owner n name g
  | .float _ x => do made (← NumberMember.callReal x name g)
  | .complex _ z => do made (← NumberMember.callComplex z name g)
  | .thread target args named =>
    if name == "start" || name == "run" then ThreadMember.start target args named
    else made (ThreadMember.callThing name)
  | .thing "Random" => ChanceMember.call name g
  | .thing _ => made (ThreadMember.callThing name)
  | i => .fail (.notCallable i.className)

def callOfClass? (name : String) (g : Given) : Option (Job Item) :=
  match b, name with
  | .dict, "fromkeys" => some (MappingMember.ofKeys g)
  | .int, "from_bytes" | .bool, "from_bytes" => some (NumberMember.ofBytes b.name g)
  | .float, "fromhex" => some do made (← NumberMember.ofHex g)
  | .str, "maketrans" => some do made (← TextMember.tableOf g)
  | _, "mro" => some (made (ofList [.builtin b]))
  | _, _ => Option.none

def callUnbound (name : String) (g : Given) : Job Item :=
  let owner := if b == .bool then "int" else b.name
  match callOfClass? b name g with
  | some job => job
  | Option.none =>
    match g.positional with
    | [] => Job.refuse ("unbound method " ++ owner ++ "." ++ name ++ "() needs an argument")
    | i :: rest =>
      if i.className == owner || (owner == "int" && i.className == "bool") then do
        if owner == "str" && TextMember.searches.contains name then
          let _ ← g.unnamed (owner ++ "." ++ name)
        callMember owner i name { g with positional := rest }
      else .fail (.wrongType ("descriptor '" ++ name ++ "' for '" ++ owner
        ++ "' objects doesn't apply to a '" ++ i.className ++ "' object"))

def call (f : Item) (g : Given) : Job Item :=
  match f with
  | .builtin b => b.run g
  | .routine .math name => MathMember.call name g
  | .routine .random name =>
    if name == ChanceMember.className then .done (.thing name) else ChanceMember.call name g
  | .routine .threading name => ThreadMember.call name g
  | .method (.builtin b) name => callUnbound b name g
  | .method receiver name => callMember receiver.className receiver name g
  | .sleeper =>
    let n := g.positional.length + g.named.length
    if n = 0 then .fail (.order ">" "Time" "int")
    else .fail (.oneArgument "SandboxGlobals.__init__.<locals>.<lambda>" n)
  | .collector =>
    let n := g.positional.length + g.named.length
    if n = 0 then .done (ofString "") else .fail (.oneArgument "PrintCollector.__call__" n)
  | i => .fail (.notCallable i.className)

end Item

end Rover.Program
