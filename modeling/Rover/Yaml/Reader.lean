import Rover.Yaml.Date
import Rover.Yaml.Node

/-!
# Reading settings files

The value of a document: scalars by their tags, lists and mappings.
-/

namespace Rover.Yaml

open Tag

structure Trouble where
  level : Nat
  fault : Fault

def gather {α : Type} : List (Except Trouble α) → Except Trouble (List α)
  | [] => .ok []
  | first :: rest =>
    match first, gather rest with
    | .ok a, .ok as => .ok (a :: as)
    | .ok _, .error t => .error t
    | .error t, .ok _ => .error t
    | .error t, .error u => .error (if u.level < t.level then u else t)

variable (text : Chars)

def meaningless {α : Type} (context : Option (String × Mark))
    (problem : String) (at' : Mark) : Result α :=
  .error (complaint .meaning text context problem at')

def scalarText : Nat → Node → Result String
  | _, .scalar _ s _ => .ok s
  | 0, n => meaningless text none ("expected a scalar node, but found " ++ n.word) n.start
  | fuel + 1, n =>
    let own? : Option (Node × Node) := match n with
      | .mapping _ entries _ => entries.find? fun (k, _) => k.tag == Tag.value
      | _ => none
    match own? with
    | some (_, v) => scalarText fuel v
    | none => meaningless text none ("expected a scalar node, but found " ++ n.word) n.start

def allEntries : Nat → Node → Result (List (Node × Node))
  | 0, _ => .error (.tooDeep "")
  | fuel + 1, n =>
    match n with
    | .mapping _ entries start => do
      let context := some ("while constructing a mapping", start)
      let taken ← entries.mapM fun (k, v) => do
        if k.tag != merge then return []
        match v with
        | .mapping .. => allEntries fuel v
        | .sequence _ items _ =>
          let parts ← items.mapM fun item => do
            unless item matches .mapping .. do
              meaningless text context
                ("expected a mapping for merging, but found " ++ item.word) item.start
            allEntries fuel item
          return parts.reverse.flatten
        | .scalar .. =>
          meaningless text context
            ("expected a mapping or list of mappings for merging, but found " ++ v.word) v.start
      let own := entries.filterMap fun (k, v) =>
        if k.tag == merge then none
        else match k with
          | .scalar t s m => some (.scalar (if t == Tag.value then Tag.text else t) s m, v)
          | k => some (k, v)
      return taken.flatten ++ own
    | n => meaningless text none ("expected a mapping node, but found " ++ n.word) n.start

variable (t : String)

def isListTag : Bool := t == list || t == usual "python/list"

def isMappingTag : Bool := t == mapping || t == usual "python/dict"

def pairsContext? : Option String :=
  if t == usual "omap" then some "while constructing an ordered map"
  else if t == usual "pairs" then some "while constructing pairs"
  else none

def scalarValue (fuel : Nat) (n : Node) : Result Value := do
  let has (names : List String) : Bool := names.any fun name => n.tag == usual name
  if has ["null", "python/none"] then
    let _ ← scalarText text fuel n
    return .none
  if has ["bool", "python/bool"] then return .bool (← boolOf (← scalarText text fuel n))
  if has ["int", "python/int", "python/long"] then
    return .int (← intOf (← scalarText text fuel n))
  if has ["float", "python/float"] then return .float (← floatOf (← scalarText text fuel n))
  if has ["timestamp"] then return .str (← dateOf (← scalarText text fuel n))
  if has ["str", "python/str", "python/unicode"] then return .str (← scalarText text fuel n)
  meaningless text none
    ("could not determine a constructor for the tag " ++ Quoted.encode n.tag) n.start

def itemsOf (n : Node) : Result (List Node) :=
  match n with
  | .sequence _ items _ => .ok items
  | n => meaningless text none ("expected a sequence node, but found " ++ n.word) n.start

def pairsOf (words : String) (n : Node) : Result (List (Node × Node)) := do
  let context := some (words, n.start)
  match n with
  | .sequence _ items _ =>
    items.mapM fun item => do
      match item with
      | .mapping _ [entry] _ => return entry
      | .mapping _ entries start =>
        meaningless text context ("expected a single mapping item, but found "
          ++ natText entries.length ++ " items") start
      | item =>
        meaningless text context
          ("expected a mapping of length 1, but found " ++ item.word) item.start
  | n => meaningless text context ("expected a sequence, but found " ++ n.word) n.start

def checkKey (start : Mark) (n : Node) : Result Unit := do
  if isListTag n.tag || isMappingTag n.tag || (pairsContext? n.tag).isSome then
    meaningless text (some ("while constructing a mapping", start)) "found unhashable key" n.start

def build : Nat → Nat → Node → Except Trouble Value
  | 0, level, _ => .error ⟨level, .tooDeep ""⟩
  | fuel + 1, level, n => do
    let at' {α : Type} (level : Nat) (e : Result α) : Except Trouble α :=
      e.mapError (⟨level, ·⟩)
    if isListTag n.tag then
      let items ← at' (level + 1) (itemsOf text n)
      return .list (← gather (items.map (build fuel (level + 1))))
    else if n.tag == tuple then
      let items ← at' level (itemsOf text n)
      return .tuple (← gather (items.map (build fuel level)))
    else if isMappingTag n.tag then
      let entries ← at' (level + 1) (allEntries text fuel n)
      let pairs ← gather (entries.map fun (k, v) => do
        at' (level + 1) (checkKey text n.start k)
        let (key, value) ← pair (build fuel (level + 1) k) (build fuel (level + 1) v)
        at' (level + 1) key.hashable
        return (key, value))
      return .dict (pairs.foldl (fun entries (k, v) => Value.insert entries k v) [])
    else match pairsContext? n.tag with
      | some words =>
        let entries ← at' (level + 1) (pairsOf text words n)
        let pairs ← gather (entries.map fun (k, v) => do
          let (key, value) ← pair (build fuel (level + 1) k) (build fuel (level + 1) v)
          return Value.tuple [key, value])
        return .list pairs
      | none => at' level (scalarValue text fuel n)
where
  pair (a b : Except Trouble Value) : Except Trouble (Value × Value) := do
    match ← gather [a, b] with
    | [a, b] => return (a, b)
    | _ => return (.none, .none)

def isAcceptable (c : Char) : Bool :=
  let n := c.toNat
  n == 9 || n == 10 || n == 13 || (0x20 ≤ n && n ≤ 0x7e) || n == 0x85
    || (0xa0 ≤ n && n != 0xfffe && n != 0xffff)

def unifyLines : Chars → Chars
  | '\r' :: '\n' :: rest => '\n' :: unifyLines rest
  | '\r' :: rest => '\n' :: unifyLines rest
  | c :: rest => c :: unifyLines rest
  | [] => []

def parse (text : String) : Result Value := do
  let text := unifyLines text.toList
  if let some i := text.findIdx? (!isAcceptable ·) then
    let code := (text.getD i '\x00').toNat
    throw (.badMarkup .characters ("unacceptable character #x" ++ Quoted.hex 4 code
      ++ ": special characters are not allowed\n  in \"<unicode string>\", position "
      ++ natText i))
  match ← Node.ofText? text with
  | none => return .none
  | some n =>
    match build text (text.length + 2) 0 n with
    | .ok v => return v
    | .error t => throw t.fault

end Rover.Yaml
