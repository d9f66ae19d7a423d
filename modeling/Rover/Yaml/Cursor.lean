import Rover.Yaml.Token

/-!
# Reading characters

The state of a reader that goes through a text from token to token: where it is, how deep it is in
brackets, and how far the lines are indented.
-/

namespace Rover.Yaml

variable (c : Char)

def isEnd : Bool := c == '\x00' || isBreak c

def isSpaceOrEnd : Bool := isEnd c || c == ' '

def isGap : Bool := isEnd c || c == ' ' || c == '\t'

def isNameChar : Bool := c.isAlphanum || c == '-' || c == '_'

structure Candidate where
  number : Nat
  required : Bool
  mark : Mark

structure Scanner where
  text : Array Char
  mark : Mark := {}
  flowLevel : Nat := 0
  queue : List Token := []
  taken : Nat := 0
  indent : Int := -1
  indents : List Int := []
  keyAllowed : Bool := true
  candidates : List (Nat × Candidate) := []
  done : Bool := false

abbrev Scan := StateT Scanner (Except Fault)

namespace Scan

def peekAt (k : Nat) : Scan Char := do
  let s ← get
  return s.text.getD (s.mark.index + k) '\x00'

def peek : Scan Char := peekAt 0

def mark : Scan Mark := return (← get).mark

def behind (m : Mark) (c : Char) : Mark :=
  if isBreak c then ⟨m.index + 1, m.line + 1, 0⟩
  else ⟨m.index + 1, m.line, if c == '\ufeff' then m.column else m.column + 1⟩

def forward : Nat → Scan Unit
  | 0 => return
  | n + 1 => do
    let c ← peek
    modify fun s => { s with mark := behind s.mark c }
    forward n

def runFrom (p : Char → Bool) (text : Array Char) : Nat → Nat → Nat
  | 0, _ => 0
  | fuel + 1, i => if p (text.getD i '\x00') then runFrom p text fuel (i + 1) + 1 else 0

variable (p : Char → Bool)

def runLength : Scan Nat := do
  let s ← get
  return runFrom p s.text (s.text.size - s.mark.index) s.mark.index

def ahead (n : Nat) : Scan String := do
  let s ← get
  return String.ofList (s.text.extract s.mark.index (s.mark.index + n)).toList

def take (n : Nat) : Scan String := do
  let cs ← ahead n
  forward n
  return cs

def takeRun : Scan String := do take (← runLength p)

def skipRun : Scan Unit := do forward (← runLength p)

def lineBreak : Scan String := do
  let c ← peek
  if isBreak c then
    forward 1
    return if c == '\u2028' || c == '\u2029' then String.ofList [c] else "\n"
  return ""

def atSeparator : Scan Bool := do
  let word ← ahead 3
  return (word == "---" || word == "...") && isGap (← peekAt 3)

def complain {α : Type} (context : Option (String × Mark)) (problem : String) : Scan α := do
  let s ← get
  throw (complaint .words s.text.toList context problem s.mark)

def complainAbout {α : Type} (context : String) (start : Mark) (problem : String) (c : Char) :
    Scan α :=
  complain (some (context, start)) (problem ++ Quoted.encode (String.ofList [c]))

def repeating {α : Type} (step : α → Scan (α × Bool)) : Nat → α → Scan α
  | 0, a => return a
  | fuel + 1, a => do
    let (a, more) ← step a
    if more then repeating step fuel a else return a

def charsLeft : Scan Nat := do
  let s ← get
  return s.text.size - s.mark.index + 1

end Scan

end Rover.Yaml
