import Rover.Yaml.Lexeme

/-!
# The tokens of a text

Tokens are read one after the other.
-/

namespace Rover.Yaml

namespace Scan

variable (kind : TokenKind)

def push (start stop : Mark) : Scan Unit :=
  modify fun s => { s with queue := s.queue ++ [⟨kind, start, stop⟩] }

def pushHere : Scan Unit := do
  let m ← mark
  push kind m m

def pushMark (length : Nat) : Scan Unit := do
  let start ← mark
  forward length
  push kind start (← mark)

def missingColon {α : Type} (c : Candidate) : Scan α :=
  complain (some ("while scanning a simple key", c.mark)) "could not find expected ':'"

def greatestKey : Nat := 1024

def dropStale : Scan Unit := do
  let s ← get
  let isStale (c : Candidate) : Bool :=
    c.mark.line != s.mark.line || greatestKey < s.mark.index - c.mark.index
  if let some (_, c) := s.candidates.find? fun (_, c) => isStale c && c.required then
    missingColon c
  set { s with candidates := s.candidates.filter fun (_, c) => !isStale c }

def dropCandidate : Scan Unit := do
  let s ← get
  if let some c := s.candidates.lookup s.flowLevel then
    if c.required then missingColon c
  set { s with candidates := s.candidates.filter fun (l, _) => l != s.flowLevel }

def saveCandidate : Scan Unit := do
  if (← get).keyAllowed then
    dropCandidate
    modify fun s =>
      let c : Candidate := {
        number := s.taken + s.queue.length
        required := s.flowLevel == 0 && s.indent == (s.mark.column : Int)
        mark := s.mark }
      { s with candidates := s.candidates ++ [(s.flowLevel, c)] }

def closeBlocks (column : Int) (m : Mark) : Nat → Scanner → Scanner
  | 0, s => s
  | fuel + 1, s =>
    if s.indent ≤ column then s
    else closeBlocks column m fuel { s with
      indent := s.indents.headD (-1), indents := s.indents.tail
      queue := s.queue ++ [⟨.blockEnd, m, m⟩] }

def unwind (column : Int) : Scan Unit :=
  modify fun s =>
    if s.flowLevel != 0 then s else closeBlocks column s.mark (s.indents.length + 1) s

def openBlock (column : Nat) : Scan Bool := do
  let s ← get
  if s.indent < column then
    set { s with indents := s.indent :: s.indents, indent := (column : Int) }
    return true
  return false

def allowKey (on : Bool) : Scan Unit := modify ({ · with keyAllowed := on })

def leaveDocument : Scan Unit := do
  unwind (-1)
  dropCandidate
  allowKey false

def streamEnd : Scan Unit := do
  leaveDocument
  modify ({ · with candidates := [], done := true })
  pushHere .streamEnd

def bracketOpen : Scan Unit := do
  saveCandidate
  modify fun s => { s with flowLevel := s.flowLevel + 1 }
  allowKey true
  pushMark kind 1

def bracketClose : Scan Unit := do
  dropCandidate
  modify fun s => { s with flowLevel := s.flowLevel - 1 }
  allowKey false
  pushMark kind 1

def blockMark (opens : TokenKind) (refusal : String) : Scan Unit := do
  let s ← get
  if s.flowLevel == 0 then
    unless s.keyAllowed do complain none refusal
    if ← openBlock s.mark.column then pushHere opens

def blockEntry : Scan Unit := do
  blockMark .blockSequence "sequence entries are not allowed here"
  allowKey true
  dropCandidate
  pushMark .blockEntry 1

def keyMark : Scan Unit := do
  blockMark .blockMapping "mapping keys are not allowed here"
  allowKey ((← get).flowLevel == 0)
  dropCandidate
  pushMark .key 1

def makeKey (c : Candidate) : Scan Unit := do
  let level := (← get).flowLevel
  let opens ← if level == 0 then openBlock c.mark.column else pure false
  let new : List Token :=
    (if opens then [⟨.blockMapping, c.mark, c.mark⟩] else []) ++ [⟨.key, c.mark, c.mark⟩]
  modify fun s =>
    let place := c.number - s.taken
    { s with
      candidates := s.candidates.filter fun (l, _) => l != level
      queue := s.queue.take place ++ new ++ s.queue.drop place }
  allowKey false

def valueMark : Scan Unit := do
  let s ← get
  match s.candidates.lookup s.flowLevel with
  | some c => makeKey c
  | none =>
    blockMark .blockMapping "mapping values are not allowed here"
    allowKey (s.flowLevel == 0)
    dropCandidate
  pushMark .value 1

def pushRead (read : Scan (TokenKind × Mark)) : Scan Unit := do
  let start ← mark
  let (kind, stop) ← read
  push kind start stop

def word (read : Scan (TokenKind × Mark)) : Scan Unit := do
  saveCandidate
  allowKey false
  pushRead read

def blockText (isFolded : Bool) : Scan Unit := do
  allowKey true
  dropCandidate
  pushRead (blockScalar isFolded)

def startsPlain (inFlow : Bool) (c next : Char) : Bool :=
  let marks := "-?:,[]\x7b\x7d#&*!|>'\"%@\x60".toList
  !(isGap c || marks.contains c)
    || (!isGap next && (c == '-' || (!inFlow && (c == '?' || c == ':'))))

def skipSpace : Scan Unit := do
  if (← mark).index = 0 && (← peek) == '\ufeff' then forward 1
  repeating (fun _ => do
    skipRun (· == ' ')
    if (← peek) == '#' then skipRun (!isEnd ·)
    if (← lineBreak).isEmpty then return ((), false)
    if (← get).flowLevel == 0 then allowKey true
    return ((), true)) (← charsLeft) ()

def fetch : Scan Unit := do
  skipSpace
  dropStale
  unwind (← mark).column
  let s ← get
  let inFlow := s.flowLevel != 0
  let c ← peek
  let next ← peekAt 1
  let atStart := s.mark.column = 0
  if c == '\x00' then streamEnd
  else if c == '%' && atStart then
    leaveDocument
    let (d, stop) ← directive
    push (.directive d) s.mark stop
  else if atStart && (c == '-' || c == '.') && (← atSeparator) then
    leaveDocument
    pushMark (if c == '-' then .documentStart else .documentEnd) 3
  else if c == '[' then bracketOpen .flowSequence
  else if c == '\x7b' then bracketOpen .flowMapping
  else if c == ']' then bracketClose .flowSequenceEnd
  else if c == '\x7d' then bracketClose .flowMappingEnd
  else if c == ',' then
    allowKey true
    dropCandidate
    pushMark .flowEntry 1
  else if c == '-' && isGap next then blockEntry
  else if c == '?' && (inFlow || isGap next) then keyMark
  else if c == ':' && (inFlow || isGap next) then valueMark
  else if c == '*' then word (return (.reference (← anchorName true), ← mark))
  else if c == '&' then word (return (.anchor (← anchorName false), ← mark))
  else if c == '!' then word (return (← tag, ← mark))
  else if c == '|' && !inFlow then blockText false
  else if c == '>' && !inFlow then blockText true
  else if c == '\'' || c == '"' then word (return (← quoted, ← mark))
  else if startsPlain inFlow c next then word plain
  else
    let shown := Quoted.encode (String.ofList [c])
    let m ← mark
    throw (complaint .words s.text.toList none ("while scanning for the next token\nfound character "
      ++ shown ++ " that cannot start any token") m)

def release? : Scan (Option Token) := do
  match (← get).queue with
  | [] => return none
  | t :: rest =>
    unless (← get).done do dropStale
    let s ← get
    if s.candidates.any fun (_, c) => c.number == s.taken then return none
    set { s with queue := rest, taken := s.taken + 1 }
    return some t

def turn : Scan (Option Token) := do
  match ← release? with
  | some t => return some t
  | none =>
    fetch
    return none

end Scan

structure Tokens where
  list : List Token
  fault : Option Fault

def scanFrom : Nat → List Token → Scanner → Tokens
  | 0, read, _ => ⟨read.reverse, none⟩
  | fuel + 1, read, s =>
    if s.done && s.queue.isEmpty then ⟨read.reverse, none⟩
    else match Scan.turn s with
      | .error f => ⟨read.reverse, some f⟩
      | .ok (some t, s) => scanFrom fuel (t :: read) s
      | .ok (none, s) => scanFrom fuel read s

def Tokens.ofText (text : Chars) : Tokens :=
  scanFrom (5 * text.length + 10) [] { text := text.toArray }

end Rover.Yaml
