import Rover.Program.Token
import Rover.Program.Tree

/-!
# Texts with fields

A text with fields consists of fixed parts and of expressions in braces.
-/

namespace Rover.Program

inductive Interpolation where
  | fixed (s : String)
  | field (source : Chars) (conversion : Conversion) (spec : List Interpolation)

namespace Interpolation

def openBrace : Char := '\x7b'
def closeBrace : Char := '\x7d'

/-- Where a fixed part ends: the characters of the part, the last one first, what follows them, and
whether a doubled brace ended it. -/
structure Fixed where
  reversed : Chars
  rest : Chars
  doubled : Bool := false

def atBrace (nested : Bool) (c : Char) (rest done : Chars) : Option Fixed :=
  if nested then some ⟨done, c :: rest, false⟩
  else
    match rest with
    | d :: after =>
      if d == c then some ⟨c :: done, after, true⟩
      else if c == closeBrace then none
      else some ⟨done, c :: rest, false⟩
    | [] => if c == closeBrace then none else some ⟨done, c :: rest, false⟩

def isBrace (c : Char) : Bool := c == openBrace || c == closeBrace

def fixedFrom (raw nested : Bool) : Chars → Chars → Option Fixed
  | '\\' :: c :: rest, done =>
    if raw then
      if isBrace c then atBrace nested c rest ('\\' :: done)
      else fixedFrom raw nested rest (c :: '\\' :: done)
    else if c == 'N' then none
    else if isBrace c then atBrace nested c rest ('\\' :: done)
    else fixedFrom raw nested rest (c :: '\\' :: done)
  | c :: rest, done =>
    if isBrace c then atBrace nested c rest done else fixedFrom raw nested rest (c :: done)
  | [], done => some ⟨done, [], false⟩

def fixedText? (raw : Bool) (cs : Chars) : Option String :=
  if raw then some (String.ofList cs) else Token.unescape? cs

structure Search where
  brackets : Chars := []
  quote : Option (Char × Bool) := none
  done : Chars := []

def closes (openSign closeSign : Char) : Bool :=
  (openSign == '(' && closeSign == ')') || (openSign == '[' && closeSign == ']')
    || (openSign == openBrace && closeSign == closeBrace)

def expressionFrom : Nat → Chars → Search → Option (Chars × Chars)
  | 0, _, _ => none
  | _ + 1, [], _ => none
  | fuel + 1, c :: rest, s =>
    let pass (n : Nat) (s : Search) : Option (Chars × Chars) :=
      expressionFrom fuel (rest.drop n)
        { s with done := (rest.take n).reverse ++ c :: s.done }
    if c == '\\' then none
    else
      match s.quote with
      | some (q, long) =>
        if c == q then
          if !long then pass 0 { s with quote := none }
          else if [q, q].isPrefixOf rest then pass 2 { s with quote := none }
          else pass 0 s
        else pass 0 s
      | none =>
        if c == '\'' || c == '"' then
          if [c, c].isPrefixOf rest then pass 2 { s with quote := some (c, true) }
          else pass 0 { s with quote := some (c, false) }
        else if c == '(' || c == '[' || c == openBrace then
          if s.brackets.length < Token.Scanner.bracketLimit then
            pass 0 { s with brackets := c :: s.brackets }
          else none
        else if c == '#' then none
        else if s.brackets.isEmpty && ['!', ':', closeBrace, '=', '<', '>'].contains c then
          if c != ':' && c != closeBrace && rest.head? == some '=' then pass 1 s
          else if c == '<' || c == '>' then pass 0 s
          else some (s.done.reverse, c :: rest)
        else if c == ')' || c == ']' || c == closeBrace then
          match s.brackets with
          | b :: outer => if closes b c then pass 0 { s with brackets := outer } else none
          | [] => none
        else pass 0 s

def isBlank (c : Char) : Bool := c == ' ' || c == '\t' || c == '\n' || c == '\x0c'

def isSpace (c : Char) : Bool := isBlank c || c == '\r' || c == '\x0b'

def conversion? (cs : Chars) : Option (Conversion × Chars) :=
  match cs with
  | '!' :: 's' :: rest => some (.text, rest)
  | '!' :: 'r' :: rest => some (.repr, rest)
  | '!' :: 'a' :: rest => some (.ascii, rest)
  | '!' :: _ => none
  | rest => some (.plain, rest)

/-- The parts at the start of some characters up to their end, or in a specification up to the
closing brace; and what follows them. -/
def partsFrom (raw : Bool) : Nat → Nat → Chars → Option (List Interpolation × Chars)
  | 0, _, _ => none
  | fuel + 1, depth, cs => do
    let f ← fixedFrom raw (0 < depth) cs []
    let text ← fixedText? raw f.reversed.reverse
    let before : List Interpolation := if text.isEmpty then [] else [.fixed text]
    let goOn (rest : Chars) (parts : List Interpolation) :
        Option (List Interpolation × Chars) := do
      let (more, rest) ← partsFrom raw fuel depth rest
      return (parts ++ more, rest)
    if f.doubled then goOn f.rest before
    else
      match f.rest with
      | [] => if depth = 0 then return (before, []) else none
      | c :: rest =>
        if c == closeBrace then return (before, f.rest)
        else
          if 2 ≤ depth then none
          let (source, rest) ← expressionFrom (rest.length + 1) rest {}
          if source.all isBlank then none
          let (shown, rest) := match rest with
            | '=' :: rest =>
              let blanks := rest.takeWhile isSpace
              (some (source ++ '=' :: blanks), rest.drop blanks.length)
            | rest => (none, rest)
          let (conversion, rest) ← conversion? rest
          let (spec, rest) ← match rest with
            | ':' :: rest => do
              if rest.isEmpty then none
              let (spec, rest) ← partsFrom raw fuel (depth + 1) rest
              pure (some spec, rest)
            | rest => pure (none, rest)
          match rest with
          | c :: rest =>
            if c != closeBrace then none
            let conversion :=
              if shown.isSome && spec.isNone && conversion == .plain then .repr else conversion
            let label := match shown with
              | some cs => [Interpolation.fixed (String.ofList cs)]
              | none => []
            goOn rest (before ++ label ++ [.field source conversion (spec.getD [])])
          | [] => none

def parts? (raw : Bool) (body : Chars) : Option (List Interpolation) :=
  (partsFrom raw (body.length + 1) 0 body).map Prod.fst

end Interpolation

end Rover.Program
