import Rover.Yaml.Cursor

/-!
# Scalars, names, tags and directives

How the tokens are read that consist of more than a mark.
-/

namespace Rover.Yaml.Scan

variable (context : String)

variable (start : Mark)

def expect (what : String) (fits : Char → Bool) : Scan Unit := do
  let c ← peek
  unless fits c do complainAbout context start ("expected " ++ what ++ ", but found ") c

def name (mayFollow : Char → Bool) : Scan String := do
  let what := "alphabetic or numeric character"
  expect context start what isNameChar
  let word ← takeRun isNameChar
  expect context start what mayFollow
  return word

def anchorName (isReference : Bool) : Scan String := do
  let start ← mark
  forward 1
  name (if isReference then "while scanning an alias" else "while scanning an anchor") start
    fun c => isGap c || ['?', ':', ',', ']', '\x7d', '%', '@', '\x60'].contains c

variable (c : Char)

def isHexDigit : Bool :=
  c.isDigit || ('a' ≤ c && c ≤ 'f') || ('A' ≤ c && c ≤ 'F')

def hexDigits (problem : String) (n : Nat) : Scan Nat := do
  for k in List.range n do
    let c ← peekAt k
    unless isHexDigit c do complainAbout context start problem c
  return Number.digitsValue 16 (← ahead n).toList

def tagHandle : Scan String := do
  expect context start "'!'" (· == '!')
  if (← peekAt 1) == ' ' then return ← take 1
  let s ← get
  let length := ((s.text.toList.drop (s.mark.index + 1)).takeWhile isNameChar).length
  unless (← peekAt (length + 1)) == '!' do
    forward (length + 1)
    expect context start "'!'" (· == '!')
  take (length + 2)

def isUriChar : Bool :=
  c.isAlphanum || "-;/?:@&=+$,_.!~*'()[]%".toList.contains c

def uriEscapes : Scan String := do
  let first ← mark
  let bytes ← repeating (fun bytes => do
    if (← peek) != '%' then return (bytes, false)
    forward 1
    let code ← hexDigits context start
      "expected URI escape sequence of 2 hexadecimal numbers, but found " 2
    forward 2
    return (bytes ++ [code.toUInt8], true)) (← charsLeft) []
  match String.fromUTF8? (ByteArray.mk bytes.toArray) with
  | some s => return s
  | none =>
    throw (complaint .words (← get).text.toList (some (context, start))
      "'utf-8' codec can't decode bytes" first)

def tagUri (what : String) (start : Mark) : Scan String := do
  let text ← repeating (fun text => do
    let run ← takeRun fun c => isUriChar c && c != '%'
    if (← peek) == '%' then
      return (text ++ run ++ (← uriEscapes ("while scanning a " ++ what) start), true)
    else return (text ++ run, false)) (← charsLeft) ""
  if text.isEmpty then
    complainAbout ("while parsing a " ++ what) start "expected URI, but found " (← peek)
  return text

def tag : Scan TokenKind := do
  let start ← mark
  let c ← peekAt 1
  let (handle, suffix) : Option String × String ←
    if c == '<' then do
      forward 2
      let suffix ← tagUri "tag" start
      expect "while parsing a tag" start "'>'" (· == '>')
      forward 1
      pure (none, suffix)
    else if isGap c then do
      forward 1
      pure (none, "!")
    else do
      let s ← get
      let word := (s.text.toList.drop (s.mark.index + 1)).takeWhile (!isSpaceOrEnd ·)
      let handle ← if word.contains '!' then tagHandle "while scanning a tag" start else take 1
      pure (some handle, ← tagUri "tag" start)
  expect "while scanning a tag" start "' '" isSpaceOrEnd
  return .tag handle suffix

def inDirective : String := "while scanning a directive"

def restOfLine : Scan Unit := do
  skipRun (· == ' ')
  if (← peek) == '#' then skipRun (!isEnd ·)
  expect context start "a comment or a line break" isEnd
  let _ ← lineBreak

def versionNumber : Scan Nat := do
  expect inDirective start "a digit" Char.isDigit
  return Number.digitsValue 10 (← takeRun Char.isDigit).toList

def directive : Scan (Directive × Mark) := do
  let start ← mark
  forward 1
  let word ← name inDirective start isSpaceOrEnd
  if word == "YAML" then
    skipRun (· == ' ')
    let major ← versionNumber start
    expect inDirective start "a digit or '.'" (· == '.')
    forward 1
    let minor ← versionNumber start
    expect inDirective start "a digit or ' '" isSpaceOrEnd
    let stop ← mark
    restOfLine inDirective start
    return (.version major minor, stop)
  else if word == "TAG" then
    skipRun (· == ' ')
    let handle ← tagHandle inDirective start
    expect inDirective start "' '" (· == ' ')
    skipRun (· == ' ')
    let stands ← tagUri "directive" start
    expect inDirective start "' '" isSpaceOrEnd
    let stop ← mark
    restOfLine inDirective start
    return (.handle handle stands, stop)
  else
    let stop ← mark
    skipRun (!isEnd ·)
    restOfLine inDirective start
    return (.unknown word, stop)

inductive Chomping where
  | strip | clip | keep
deriving DecidableEq, Repr

def inBlock : String := "while scanning a block scalar"

def chomping? : Option Chomping :=
  if c == '+' then some .keep else if c == '-' then some .strip else none

def increment? : Scan (Option Nat) := do
  let c ← peek
  if !c.isDigit then return none
  if c == '0' then
    complain (some (inBlock, start))
      "expected indentation indicator in the range 1-9, but found 0"
  forward 1
  return some (c.toNat - '0'.toNat)

def blockMarks : Scan (Chomping × Option Nat) := do
  let marks ← match chomping? (← peek) with
    | some ch => do
      forward 1
      pure (ch, ← increment? start)
    | none => do
      match ← increment? start with
      | none => pure (.clip, none)
      | some n =>
        match chomping? (← peek) with
        | some ch => do
          forward 1
          pure (ch, some n)
        | none => pure (.clip, some n)
  expect inBlock start "chomping or indentation indicators" isSpaceOrEnd
  return marks

def skipIndent (indent : Nat) : Scan Unit := do
  let column := (← mark).column
  forward (min (← runLength (· == ' ')) (indent - column))

def emptyLines (indent : Nat) : Scan (List String × Mark) := do
  let stop ← mark
  skipIndent indent
  repeating (fun (breaks, stop) => do
    if !isBreak (← peek) then return ((breaks, stop), false)
    let b ← lineBreak
    let stop ← mark
    skipIndent indent
    return ((breaks ++ [b], stop), true)) (← charsLeft) ([], stop)

def leadingLines : Scan (List String × Nat × Mark) := do
  let stop ← mark
  repeating (fun (breaks, most, stop) => do
    let c ← peek
    if isBreak c then
      let b ← lineBreak
      return ((breaks ++ [b], most, ← mark), true)
    else if c == ' ' then
      forward 1
      return ((breaks, max most (← mark).column, stop), true)
    else return ((breaks, most, stop), false)) (← charsLeft) ([], 0, stop)

structure Lines where
  text : String := ""
  lineEnd : String := ""
  breaks : List String
  stop : Mark

def blockScalar (isFolded : Bool) : Scan (TokenKind × Mark) := do
  let start ← mark
  forward 1
  let (chomping, increment) ← blockMarks start
  restOfLine inBlock start
  let least := max ((← get).indent + 1) 1
  let (indent, breaks, stop) ← match increment with
    | none => do
      let (breaks, most, stop) ← leadingLines
      pure (max least.toNat most, breaks, stop)
    | some n => do
      let indent := least.toNat + n - 1
      let (breaks, stop) ← emptyLines indent
      pure (indent, breaks, stop)
  let isBlank (c : Char) : Bool := c == ' ' || c == '\t'
  let goesOn : Scan Bool := return (← mark).column == indent && (← peek) != '\x00'
  let lines ← repeating (fun (l : Lines) => do
    if !(← goesOn) then return (l, false)
    let indented := isBlank (← peek)
    let text := l.text ++ String.join l.breaks ++ (← takeRun (!isEnd ·))
    let lineEnd ← lineBreak
    let (breaks, stop) ← emptyLines indent
    if ← goesOn then
      let joins := isFolded && lineEnd == "\n" && !indented && !isBlank (← peek)
      let between := if !joins then lineEnd else if breaks.isEmpty then " " else ""
      return (⟨text ++ between, lineEnd, breaks, stop⟩, true)
    else return (⟨text, lineEnd, breaks, stop⟩, false)) (← charsLeft)
    { breaks, stop }
  let tail := match chomping with
    | .strip => ""
    | .clip => lines.lineEnd
    | .keep => lines.lineEnd ++ String.join lines.breaks
  return (.scalar (lines.text ++ tail) false, lines.stop)

def inDouble : String := "while scanning a double-quoted scalar"

def inQuotes : String := "while scanning a quoted scalar"

def escapes : List (Char × Char) := [
  ('0', '\x00'), ('a', '\x07'), ('b', '\x08'), ('t', '\t'), ('\t', '\t'), ('n', '\n'),
  ('v', '\x0b'), ('f', '\x0c'), ('r', '\r'), ('e', '\x1b'), (' ', ' '), ('"', '"'), ('\\', '\\'),
  ('/', '/'), ('N', '\u0085'), ('_', '\u00a0'), ('L', '\u2028'), ('P', '\u2029')]

def codeLength? : Option Nat :=
  if c == 'x' then some 2 else if c == 'u' then some 4 else if c == 'U' then some 8 else none

def quotedBreaks : Scan (List String) := do
  repeating (fun breaks => do
    if ← atSeparator then
      complain (some (inQuotes, start)) "found unexpected document separator"
    skipRun fun c => c == ' ' || c == '\t'
    if isBreak (← peek) then return (breaks ++ [← lineBreak], true)
    else return (breaks, false)) (← charsLeft) []

def foldedBreak (lineEnd : String) (breaks : List String) : String :=
  (if lineEnd != "\n" then lineEnd else if breaks.isEmpty then " " else "") ++ String.join breaks

def escaped : Scan String := do
  forward 1
  let c ← peek
  match escapes.lookup c, codeLength? c with
  | some d, _ =>
    forward 1
    return String.ofList [d]
  | none, some n =>
    forward 1
    let code ← hexDigits inDouble start
      ("expected escape sequence of " ++ natText n ++ " hexadecimal numbers, but found ") n
    if 0x80000000 ≤ code then throw (.beyondRange "Python int too large to convert to C int")
    if 0x110000 ≤ code then throw (.unfit "chr() arg not in range(0x110000)")
    forward n
    return String.ofList [Half.toChar code]
  | none, none =>
    if isBreak c then
      let _ ← lineBreak
      return String.join (← quotedBreaks start)
    complainAbout inDouble start "found unknown escape character " c

def quotedWord (isDouble : Bool) (start : Mark) : Scan String := do
  repeating (fun text => do
    let run ← takeRun fun c => !(isGap c || c == '\'' || c == '"' || c == '\\')
    let text := text ++ run
    let c ← peek
    if !isDouble && c == '\'' && (← peekAt 1) == '\'' then
      forward 2
      return (text ++ "'", true)
    else if (isDouble && c == '\'') || (!isDouble && (c == '"' || c == '\\')) then
      forward 1
      return (text ++ String.ofList [c], true)
    else if isDouble && c == '\\' then return (text ++ (← escaped start), true)
    else return (text, false)) (← charsLeft) ""

def quotedSpace : Scan String := do
  let blanks ← takeRun fun c => c == ' ' || c == '\t'
  let c ← peek
  if c == '\x00' then complain (some (inQuotes, start)) "found unexpected end of stream"
  if isBreak c then
    let lineEnd ← lineBreak
    return foldedBreak lineEnd (← quotedBreaks start)
  return blanks

def quoted : Scan TokenKind := do
  let start ← mark
  let quote ← peek
  let isDouble := quote == '"'
  forward 1
  let first ← quotedWord isDouble start
  let text ← repeating (fun text => do
    if (← peek) == quote then return (text, false)
    let space ← quotedSpace start
    return (text ++ space ++ (← quotedWord isDouble start), true)) (← charsLeft) first
  forward 1
  return .scalar text false

def isFlowMark : Bool := [',', '[', ']', '\x7b', '\x7d'].contains c

def plainLength (inFlow : Bool) : Chars → Nat
  | [] => 0
  | c :: rest =>
    let next := rest.headD '\x00'
    let isColon := c == ':' && (isGap next || (inFlow && isFlowMark next))
    if isGap c || isColon || (inFlow && (isFlowMark c || c == '?')) then 0
    else plainLength inFlow rest + 1

def plainSpace : Scan String := do
  let blanks ← takeRun (· == ' ')
  if !isBreak (← peek) then return blanks
  let lineEnd ← lineBreak
  modify ({ · with keyAllowed := true })
  if ← atSeparator then return ""
  let (breaks, ended) ← repeating (fun (breaks, _) => do
    let c ← peek
    if c == ' ' then
      forward 1
      return ((breaks, false), true)
    else if isBreak c then
      let b ← lineBreak
      if ← atSeparator then return ((breaks, true), false)
      return ((breaks ++ [b], false), true)
    else return ((breaks, false), false)) (← charsLeft) (([] : List String), false)
  return if ended then "" else foldedBreak lineEnd breaks

structure Plain where
  text : String := ""
  space : String := ""
  stop : Mark

def plain : Scan (TokenKind × Mark) := do
  let start ← mark
  let indent := (← get).indent + 1
  let result ← repeating (fun (p : Plain) => do
    if (← peek) == '#' then return (p, false)
    let s ← get
    let inFlow := s.flowLevel != 0
    let length := plainLength inFlow (s.text.toList.drop s.mark.index)
    if length = 0 then return (p, false)
    modify ({ · with keyAllowed := false })
    let text := p.text ++ p.space ++ (← take length)
    let stop ← mark
    let space ← plainSpace
    let left := !inFlow && ((← mark).column : Int) < indent
    return (⟨text, space, stop⟩, !(space.isEmpty || (← peek) == '#' || left)))
    (← charsLeft) { stop := start }
  return (.scalar result.text true, result.stop)

end Rover.Yaml.Scan
