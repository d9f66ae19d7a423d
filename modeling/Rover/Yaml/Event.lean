import Rover.Yaml.Scan

/-!
# Events of marked up text

The grammar: tokens become the beginnings and ends of documents and collections, and scalars.
-/

namespace Rover.Yaml

structure Properties where
  anchor : Option String := none
  tag : Option String := none
deriving DecidableEq, Repr

inductive EventKind where
  | streamEnd
  | documentStart
  | documentEnd
  | reference (anchor : String)
  | scalar (properties : Properties) (text : String) (isPlain : Bool)
  | sequenceStart (properties : Properties)
  | mappingStart (properties : Properties)
  | collectionEnd
deriving DecidableEq, Repr

structure Event where
  kind : EventKind
  start : Mark
deriving DecidableEq, Repr

inductive Expected where
  | implicitDocument
  | document
  | documentContent
  | documentEnd
  | blockNode
  | blockItem (start : Mark) (isFirst : Bool)
  | indentlessItem
  | blockKey (start : Mark) (isFirst : Bool)
  | blockValue (start : Mark)
  | flowItem (start : Mark) (isFirst : Bool)
  | pairKey (start : Mark)
  | pairValue (start : Mark)
  | pairEnd (start : Mark)
  | flowKey (start : Mark) (isFirst : Bool)
  | flowValue (start : Mark)
  | emptyFlowValue (start : Mark)
deriving DecidableEq, Repr

structure Grammar where
  text : Chars
  tokens : List Token
  fault : Option Fault
  handles : List (String × String) := []
  stack : List Expected := []

abbrev Parse := StateT Grammar (Except Fault)

namespace Parse

def usualHandles : List (String × String) := [("!", "!"), ("!!", "tag:yaml.org,2002:")]

def peek : Parse Token := do
  let g ← get
  match g.tokens, g.fault with
  | t :: _, _ => return t
  | [], some f => throw f
  | [], none => return ⟨.streamEnd, {}, {}⟩

def sees (p : TokenKind → Bool) : Parse Bool := return p (← peek).kind

def next : Parse Token := do
  let t ← peek
  modify fun g => { g with tokens := g.tokens.tail }
  return t

def later (e : Expected) : Parse Unit := modify fun g => { g with stack := e :: g.stack }

def complain {α : Type} (context : Option (String × Mark)) (problem : String)
    (at' : Mark) : Parse α := do
  throw (complaint .grammar (← get).text context problem at')

def unexpected {α : Type} (context : Option (String × Mark)) (problem : String) : Parse α := do
  let t ← peek
  complain context (problem ++ Quoted.encode t.kind.word) t.start

def emptyScalar (m : Mark) : Event := ⟨.scalar {} "" true, m⟩

def directives : Parse Unit := do
  let n := (← get).tokens.length
  modify ({ · with handles := [] })
  let rec go : Nat → Bool → Parse Unit
    | 0, _ => return
    | fuel + 1, hasVersion => do
      let t ← peek
      match t.kind with
      | .directive d =>
        let _ ← next
        match d with
        | .version major _ =>
          if hasVersion then complain none "found duplicate YAML directive" t.start
          if major ≠ 1 then
            complain none "found incompatible YAML document (version 1.* is required)" t.start
          go fuel true
        | .handle handle stands =>
          if ((← get).handles.lookup handle).isSome then
            complain none ("duplicate tag handle " ++ Quoted.encode handle) t.start
          modify fun g => { g with handles := g.handles ++ [(handle, stands)] }
          go fuel hasVersion
        | .unknown _ => go fuel hasVersion
      | _ => return
  go (n + 1) false
  modify fun g => { g with handles := g.handles ++ usualHandles }

def skipDocumentEnds : Nat → Parse Unit
  | 0 => return
  | fuel + 1 => do
    if ← sees (· matches .documentEnd) then
      let _ ← next
      skipDocumentEnds fuel

def document : Parse Event := do
  skipDocumentEnds (← get).tokens.length
  let t ← peek
  if t.kind matches .streamEnd then
    let _ ← next
    return ⟨.streamEnd, t.start⟩
  directives
  unless ← sees (· matches .documentStart) do
    unexpected none "expected '<document start>', but found "
  let _ ← next
  later .documentEnd
  later .documentContent
  return ⟨.documentStart, t.start⟩

def implicitDocument : Parse Event := do
  let t ← peek
  match t.kind with
  | .directive _ | .documentStart | .streamEnd => document
  | _ =>
    modify ({ · with handles := usualHandles })
    later .documentEnd
    later .blockNode
    return ⟨.documentStart, t.start⟩

def documentEnd : Parse Event := do
  let t ← peek
  if t.kind matches .documentEnd then
    let _ ← next
  later .document
  return ⟨.documentEnd, t.start⟩

structure Front where
  properties : Properties := {}
  start : Option Mark := none

variable (start : Mark)

def withHandle (at' : Mark) (handle : Option String) (suffix : String) : Parse String := do
  match handle with
  | none => return suffix
  | some h =>
    match (← get).handles.lookup h with
    | some stands => return stands ++ suffix
    | none =>
      complain (some ("while parsing a node", start))
        ("found undefined tag handle " ++ Quoted.encode h) at'

def front : Parse Front := do
  let t ← peek
  match t.kind with
  | .anchor name =>
    let _ ← next
    let u ← peek
    match u.kind with
    | .tag handle suffix =>
      let _ ← next
      return ⟨⟨some name, some (← withHandle t.start u.start handle suffix)⟩, some t.start⟩
    | _ => return ⟨⟨some name, none⟩, some t.start⟩
  | .tag handle suffix =>
    let _ ← next
    let u ← peek
    match u.kind with
    | .anchor name =>
      let _ ← next
      return ⟨⟨some name, some (← withHandle t.start t.start handle suffix)⟩, some t.start⟩
    | _ => return ⟨⟨none, some (← withHandle t.start t.start handle suffix)⟩, some t.start⟩
  | _ => return {}

def node (inBlock indentless : Bool) : Parse Event := do
  let t ← peek
  if let .reference name := t.kind then
    let _ ← next
    return ⟨.reference name, t.start⟩
  let f ← front
  let t ← peek
  let start := f.start.getD t.start
  let p := f.properties
  match t.kind with
  | .scalar text isPlain =>
    let _ ← next
    return ⟨.scalar p text ((isPlain && p.tag.isNone) || p.tag == some "!"), start⟩
  | .flowSequence =>
    later (.flowItem t.start true)
    return ⟨.sequenceStart p, start⟩
  | .flowMapping =>
    later (.flowKey t.start true)
    return ⟨.mappingStart p, start⟩
  | .blockEntry =>
    if indentless then
      later .indentlessItem
      return ⟨.sequenceStart p, start⟩
  | .blockSequence =>
    if inBlock then
      later (.blockItem t.start true)
      return ⟨.sequenceStart p, start⟩
  | .blockMapping =>
    if inBlock then
      later (.blockKey t.start true)
      return ⟨.mappingStart p, start⟩
  | _ => pure ()
  if p.anchor.isSome || p.tag.isSome then
    return ⟨.scalar p "" (p.tag.isNone || p.tag == some "!"), start⟩
  let context := if inBlock then "while parsing a block node" else "while parsing a flow node"
  unexpected (some (context, start)) "expected the node content, but found "

variable (t : Token)

def nodeAfter (ends : TokenKind → Bool) (after : Expected) (read : Parse Event) : Parse Event := do
  later after
  if ← sees ends then return emptyScalar t.stop else read

def close : Parse Event := do
  let t ← next
  return ⟨.collectionEnd, t.start⟩

def blockPart (mark : TokenKind) (what : String) (isFirst : Bool) (ends : TokenKind → Bool)
    (after : Expected) (read : Parse Event) : Parse Event := do
  if isFirst then
    let _ ← next
  let t ← peek
  if t.kind = mark then
    let _ ← next
    nodeAfter t ends after read
  else if t.kind matches .blockEnd then close
  else
    unexpected (some ("while parsing a block " ++ what, start)) "expected <block end>, but found "

def indentlessItem : Parse Event := do
  let t ← peek
  if t.kind matches .blockEntry then
    let _ ← next
    nodeAfter t (fun k => k matches .blockEntry | .key | .value | .blockEnd) .indentlessItem
      (node true false)
  else return ⟨.collectionEnd, t.start⟩

def valueAfter (ends : TokenKind → Bool) (after : Expected) (read : Parse Event) : Parse Event := do
  let t ← peek
  if t.kind matches .value then
    let _ ← next
    nodeAfter t ends after read
  else
    later after
    return emptyScalar t.start

def flowPart (stop : TokenKind) (what bracket : String) (isFirst : Bool)
    (read : Token → Parse Event) : Parse Event := do
  if isFirst then
    let _ ← next
  if ← sees (· = stop) then return ← close
  if !isFirst then
    unless ← sees (· matches .flowEntry) do
      unexpected (some ("while parsing a flow " ++ what, start))
        ("expected ',' or '" ++ bracket ++ "', but got ")
    let _ ← next
  let t ← peek
  if t.kind = stop then close else read t

def flowItem : Parse Event := do
  if t.kind matches .key then
    later (.pairKey start)
    return ⟨.mappingStart {}, t.start⟩
  else
    later (.flowItem start false)
    node false false

def pairKey : Parse Event := do
  let t ← next
  nodeAfter t (fun k => k matches .value | .flowEntry | .flowSequenceEnd) (.pairValue start)
    (node false false)

def pairEnd : Parse Event := do
  later (.flowItem start false)
  return ⟨.collectionEnd, (← peek).start⟩

def flowKey : Parse Event := do
  if t.kind matches .key then
    let _ ← next
    nodeAfter t (fun k => k matches .value | .flowEntry | .flowMappingEnd) (.flowValue start)
      (node false false)
  else
    later (.emptyFlowValue start)
    node false false

def emptyFlowValue : Parse Event := do
  later (.flowKey start false)
  return emptyScalar (← peek).start

def documentContent : Parse Event := do
  let t ← peek
  match t.kind with
  | .directive _ | .documentStart | .documentEnd | .streamEnd => return emptyScalar t.start
  | _ => node true false

def expected : Expected → Parse Event
  | .implicitDocument => implicitDocument
  | .document => document
  | .documentContent => documentContent
  | .documentEnd => documentEnd
  | .blockNode => node true false
  | .blockItem start isFirst =>
    blockPart start .blockEntry "collection" isFirst (· matches .blockEntry | .blockEnd)
      (.blockItem start false) (node true false)
  | .indentlessItem => indentlessItem
  | .blockKey start isFirst =>
    blockPart start .key "mapping" isFirst (· matches .key | .value | .blockEnd)
      (.blockValue start) (node true true)
  | .blockValue start =>
    valueAfter (· matches .key | .value | .blockEnd) (.blockKey start false) (node true true)
  | .flowItem start isFirst =>
    flowPart start .flowSequenceEnd "sequence" "]" isFirst (flowItem start)
  | .pairKey start => pairKey start
  | .pairValue start =>
    valueAfter (· matches .flowEntry | .flowSequenceEnd) (.pairEnd start) (node false false)
  | .pairEnd start => pairEnd start
  | .flowKey start isFirst =>
    flowPart start .flowMappingEnd "mapping" "\x7d" isFirst (flowKey start)
  | .flowValue start =>
    valueAfter (· matches .flowEntry | .flowMappingEnd) (.flowKey start false) (node false false)
  | .emptyFlowValue start => emptyFlowValue start

def event? : Parse (Option Event) := do
  match (← get).stack with
  | [] => return none
  | e :: rest =>
    modify ({ · with stack := rest })
    return some (← expected e)

end Parse

structure Events where
  list : List Event
  fault : Option Fault

def eventsFrom : Nat → List Event → Grammar → Events
  | 0, read, _ => ⟨read.reverse, none⟩
  | fuel + 1, read, g =>
    match Parse.event? g with
    | .error f => ⟨read.reverse, some f⟩
    | .ok (none, _) => ⟨read.reverse, none⟩
    | .ok (some e, g) => eventsFrom fuel (e :: read) g

def Events.ofText (text : Chars) : Events :=
  let tokens := Tokens.ofText text
  eventsFrom (4 * tokens.list.length + 8) [] {
    text := text, tokens := tokens.list, fault := tokens.fault, stack := [.implicitDocument] }

end Rover.Yaml
