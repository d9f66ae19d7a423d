import Rover.Yaml.Mark
import Rover.Yaml.Scalar

/-!
# Writing settings files

Mappings are written with their keys in order, one entry a line, and lists with one item a line;
only empty ones are written in brackets.
-/

namespace Rover.Yaml

def bestWidth : Nat := 80

def isSpaceLike (c : Char) : Bool :=
  isBreak c || ['\x00', ' ', '\t', '\r'].contains c

structure Looks where
  marks : Bool
  multiline : Bool
  special : Bool
  ragged : Bool
  looseBreak : Bool

def isMark (before : Option Char) (c : Char) (after : Option Char) : Bool :=
  let blankAfter := after.all isSpaceLike
  match before with
  | none =>
    ['#', ',', '[', ']', '\x7b', '\x7d', '&', '*', '!', '|', '>', '\'', '"', '%', '@', '\x60'].contains c
      || ((c == '?' || c == ':' || c == '-') && blankAfter)
  | some b => (c == ':' && blankAfter) || (c == '#' && isSpaceLike b)

def anyMark : Option Char → Chars → Bool
  | _, [] => false
  | before, c :: r => isMark before c r.head? || anyMark (some c) r

def looks (s : String) : Looks :=
  let cs := s.toList
  let neighbours := cs.zip (cs.drop 1)
  let atEnds (p : Char → Bool) : Bool := cs.head?.any p || cs.getLast?.any p
  { marks := s.startsWith "---" || s.startsWith "..." || anyMark none cs
    multiline := cs.any isBreak
    special := cs.any fun c => !(c == '\n' || (' ' ≤ c && c ≤ '~'))
    ragged := atEnds fun c => c == ' ' || isBreak c
    looseBreak := neighbours.any fun (a, b) =>
      (isBreak a && b == ' ') || (a == ' ' && isBreak b) }

def newLine (indent : Nat) : Chars := '\n' :: List.replicate indent ' '

def doubledQuotes (cs : Chars) : Chars :=
  cs.flatMap fun c => if c == '\'' then ['\'', '\''] else [c]

def writeRuns (indent : Nat) (isQuoted : Bool) : Bool → Nat → List Chars → Chars
  | _, _, [] => []
  | first, column, run :: rest =>
    let edge := isQuoted && (first || rest.isEmpty)
    let others (column : Nat) : Chars := writeRuns indent isQuoted false column rest
    if run.head? == some '\n' then run ++ newLine indent ++ others indent
    else if run == [' '] && bestWidth < column && !edge then newLine indent ++ others indent
    else
      let written := if isQuoted then doubledQuotes run else run
      written ++ others (column + written.length)

def runs (cs : Chars) : List Chars :=
  let class' (c : Char) : Nat := if c == ' ' then 1 else if c == '\n' then 2 else 0
  cs.splitBy fun a b => class' a == class' b

def escaped (c : Char) : Chars :=
  let short : List (Char × Char) := [
    ('\x00', '0'), ('\x07', 'a'), ('\x08', 'b'), ('\t', 't'), ('\n', 'n'), ('\x0b', 'v'),
    ('\x0c', 'f'), ('\r', 'r'), ('\x1b', 'e'), ('"', '"'), ('\\', '\\'), ('\u0085', 'N'),
    ('\u00a0', '_'), ('\u2028', 'L'), ('\u2029', 'P')]
  let code (mark : Char) (width : Nat) : Chars :=
    '\\' :: mark :: ((Quoted.hex width c.toNat).toUpper).toList
  match short.lookup c with
  | some d => ['\\', d]
  | none =>
    if ' ' ≤ c && c ≤ '~' then [c]
    else if c.toNat ≤ 0xFF then code 'x' 2
    else if c.toNat ≤ 0xFFFF then code 'u' 4
    else code 'U' 8

/-- Writes the characters of a text in double quotes. Once the line is too wide it is broken by a
backslash, at a blank or next to an escaped character, but not at the ends of the text. -/
def writeEscaped (indent : Nat) (total : Nat) : Nat → Nat → Nat → Chars → Chars
  | _, _, _, [] => []
  | index, column, run, c :: r =>
    let inner := 0 < index && index + 1 < total
    let guard (next : Option Char) : Chars := if next == some ' ' then ['\\'] else []
    let written := escaped c
    if written == [c] then
      if inner && (c == ' ' || run = 0) && bestWidth < column + run then
        '\\' :: newLine indent ++ guard (some c) ++ c
          :: writeEscaped indent total (index + 1) (indent + (guard (some c)).length) 1 r
      else c :: writeEscaped indent total (index + 1) column (run + 1) r
    else
      let column := column + run + written.length
      if inner && bestWidth + 1 < column then
        written ++ '\\' :: newLine indent ++ guard r.head?
          ++ writeEscaped indent total (index + 1) (indent + (guard r.head?).length) 0 r
      else written ++ writeEscaped indent total (index + 1) column 0 r

inductive Style where
  | plain | single | double
deriving DecidableEq, Repr

variable (isKey : Bool)

def styleOf (s : String) : Style :=
  let l := looks s
  if l.special || l.looseBreak || (isKey && l.multiline) then .double
  else if staysText s && !l.marks && !l.multiline && !l.ragged then .plain
  else .single

def writeText (indent column : Nat) (s : String) : Chars :=
  let cs := s.toList
  match styleOf isKey s with
  | .plain => if isKey then cs else writeRuns indent false true column (runs cs)
  | .single =>
    let body := if isKey then doubledQuotes cs else writeRuns indent true true (column + 1) (runs cs)
    '\'' :: body ++ ['\'']
  | .double =>
    let body := if isKey then cs.flatMap escaped else writeEscaped indent cs.length 0 (column + 1) 0 cs
    '"' :: body ++ ['"']

def floatText (x : Float) : String :=
  if x.isNaN then ".nan"
  else if x.isInf then (if x < 0 then "-.inf" else ".inf")
  else
    let text := Number.floatText x
    if text.contains '.' then text else text.replace "e" ".0e"

def writeScalar (indent column : Nat) : Value → Chars
  | .none => "null".toList
  | .bool b => (if b then "true" else "false").toList
  | .int n => (Number.intText n).toList
  | .float x => (floatText x).toList
  | .str s => writeText isKey indent column s
  | _ => []

def longestKey : Nat := 122

def isSimpleKey : Value → Bool
  | .str s => !s.isEmpty && !(looks s).multiline && s.length ≤ longestKey
  | _ => true

def tupleMark : Chars := " !!python/tuple".toList

def joined (indent : Nat) (lines : List Chars) : Chars :=
  List.intercalate (newLine indent) lines

def sorted (entries : List (String × Chars)) : List Chars :=
  (entries.mergeSort fun a b => decide (a.1 ≤ b.1)).map Prod.snd

mutual

def afterDash (indent : Nat) : Value → Chars
  | .list [] => " []".toList
  | .dict [] => " \x7b\x7d".toList
  | .tuple [] => tupleMark ++ " []".toList
  | .list vs => ' ' :: joined (indent + 2) (itemLines (indent + 2) vs)
  | .tuple vs => tupleMark ++ newLine (indent + 2) ++ joined (indent + 2) (itemLines (indent + 2) vs)
  | .dict es => ' ' :: joined (indent + 2) (sorted (entryLines (indent + 2) es))
  | v => ' ' :: writeScalar false (indent + 2) (indent + 2) v

def afterColon (indent column : Nat) : Value → Chars
  | .list [] => " []".toList
  | .dict [] => " \x7b\x7d".toList
  | .tuple [] => tupleMark ++ " []".toList
  | .list vs => newLine indent ++ joined indent (itemLines indent vs)
  | .tuple vs => tupleMark ++ newLine indent ++ joined indent (itemLines indent vs)
  | .dict es => newLine (indent + 2) ++ joined (indent + 2) (sorted (entryLines (indent + 2) es))
  | v => ' ' :: writeScalar false (indent + 2) (column + 1) v

def itemLines (indent : Nat) : List Value → List Chars
  | [] => []
  | v :: vs => ('-' :: afterDash indent v) :: itemLines indent vs

def entryLines (indent : Nat) : Entries → List (String × Chars)
  | [] => []
  | e :: es => entryLine indent e :: entryLines indent es

def entryLine (indent : Nat) : Value × Value → String × Chars
  | (k, v) =>
    if isSimpleKey k then
      let key := writeScalar true (indent + 2) indent k
      (k.text, key ++ ':' :: afterColon indent (indent + key.length + 1) v)
    else
      let key := writeScalar false (indent + 2) (indent + 2) k
      (k.text, '?' :: ' ' :: key ++ newLine indent ++ ':' :: afterDash indent v)

end

def render (v : Value) : String :=
  let body : Chars := match v with
    | .list [] => "[]".toList
    | .dict [] => "\x7b\x7d".toList
    | .list vs => joined 0 (itemLines 0 vs)
    | .dict es => joined 0 (sorted (entryLines 0 es))
    | .tuple [] => "!!python/tuple []".toList
    | .tuple vs => "!!python/tuple\n".toList ++ joined 0 (itemLines 0 vs)
    | v => writeScalar false 2 0 v
  let ending := match v with
    | .list _ | .dict _ | .tuple _ => "\n"
    | .str s => if styleOf false s = .plain then "\n...\n" else "\n"
    | _ => "\n...\n"
  String.ofList body ++ ending

end Rover.Yaml
