import Rover.Yaml.Event
import Rover.Yaml.Scalar

/-!
# Nodes of marked up text

The tree of a document.
-/

namespace Rover.Yaml

inductive Node where
  | scalar (tag text : String) (start : Mark)
  | sequence (tag : String) (items : List Node) (start : Mark)
  | mapping (tag : String) (entries : List (Node × Node)) (start : Mark)
deriving Inhabited

namespace Node

def start : Node → Mark
  | scalar _ _ m | sequence _ _ m | mapping _ _ m => m

def tag : Node → String
  | scalar t _ _ | sequence t _ _ | mapping t _ _ => t

def word : Node → String
  | scalar .. => "scalar"
  | sequence .. => "sequence"
  | mapping .. => "mapping"

end Node

structure Composer where
  text : Chars
  events : List Event
  fault : Option Fault
  anchors : List (String × Mark × Option Node) := []

abbrev Compose := StateT Composer (Except Fault)

namespace Compose

def peek : Compose Event := do
  let c ← get
  match c.events, c.fault with
  | e :: _, _ => return e
  | [], some f => throw f
  | [], none => return ⟨.streamEnd, {}⟩

def next : Compose Event := do
  let e ← peek
  modify fun c => { c with events := c.events.tail }
  return e

def complain {α : Type} (context : Option (String × Mark)) (problem : String)
    (at' : Mark) : Compose α := do
  throw (complaint .references (← get).text context problem at')

variable (p : Properties)

def checkAnchor (start : Mark) : Compose Unit := do
  if let some name := p.anchor then
    if let some (first, _) := (← get).anchors.lookup name then
      complain (some ("found duplicate anchor " ++ Quoted.encode name ++ "; first occurrence", first))
        "second occurrence" start

def remember (start : Mark) (n : Option Node) : Compose Unit := do
  if let some name := p.anchor then
    modify fun c => { c with anchors := (name, start, n) :: c.anchors }

def collectionTag (usual : String) : String :=
  match p.tag with
  | some t => if t == "!" then usual else t
  | none => usual

mutual

def node : Nat → Compose Node
  | 0 => throw (.tooDeep "")
  | fuel + 1 => do
    let e ← next
    match e.kind with
    | .reference name =>
      match (← get).anchors.lookup name with
      | some (_, some n) => return n
      | some (_, none) => throw (.tooDeep "")
      | none => complain none ("found undefined alias " ++ Quoted.encode name) e.start
    | .scalar p text isPlain =>
      checkAnchor p e.start
      let tag := match p.tag with
        | some t => if t == "!" then resolve text else t
        | none => if isPlain then resolve text else Tag.text
      let n : Node := .scalar tag text e.start
      remember p e.start (some n)
      return n
    | .sequenceStart p =>
      checkAnchor p e.start
      remember p e.start none
      let n : Node := .sequence (collectionTag p Tag.list) (← items fuel) e.start
      remember p e.start (some n)
      return n
    | .mappingStart p =>
      checkAnchor p e.start
      remember p e.start none
      let n : Node := .mapping (collectionTag p Tag.mapping) (← entries fuel) e.start
      remember p e.start (some n)
      return n
    | _ => throw (.tooDeep "")

def items : Nat → Compose (List Node)
  | 0 => throw (.tooDeep "")
  | fuel + 1 => do
    if (← peek).kind matches .collectionEnd then
      let _ ← next
      return []
    let first ← node fuel
    return first :: (← items fuel)

def entries : Nat → Compose (List (Node × Node))
  | 0 => throw (.tooDeep "")
  | fuel + 1 => do
    if (← peek).kind matches .collectionEnd then
      let _ ← next
      return []
    let key ← node fuel
    let value ← node fuel
    return (key, value) :: (← entries fuel)

end

def document? : Compose (Option Node) := do
  if (← peek).kind matches .streamEnd then return none
  let _ ← next
  let n ← node ((← get).events.length + 1)
  let _ ← next
  let e ← peek
  unless e.kind matches .streamEnd do
    complain (some ("expected a single document in the stream", n.start))
      "but found another document" e.start
  return some n

end Compose

def Node.ofText? (text : Chars) : Result (Option Node) := do
  let events := Events.ofText text
  let (n, _) ← (Compose.document? : Compose _).run {
    text := text, events := events.list, fault := events.fault }
  return n

end Rover.Yaml
