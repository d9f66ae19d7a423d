import Rover.Program.Item.Basic

/-!
# Tokens

The words of a program text.
-/

namespace Rover.Program

inductive Refusal where
  | malformed
  | misplaced (line column : Nat)
deriving DecidableEq, Repr

inductive Lexeme where
  | name (s : String)
  | keyword (s : String)
  | number (i : Item)
  | text (s : String)
  | bytes (bs : List Nat)
  | template (raw : Bool) (body : Chars)
  | sign (s : String)
  | newline
  | indent
  | dedent
  | finish
deriving Inhabited

/-- A word and the place where it starts; lines count from one, columns from zero. -/
structure Token where
  lexeme : Lexeme
  line : Nat
  column : Nat
deriving Inhabited

namespace Token

open Number (digitLimit digitValue digitsValue)

def atStart (t : Token) : Bool := t.line == 1 && t.column == 0

def keywords : List String := ["False", "None", "True", "and", "as", "assert", "async", "await",
  "break", "class", "continue", "def", "del", "elif", "else", "except", "finally", "for", "from",
  "global", "if", "import", "in", "is", "lambda", "nonlocal", "not", "or", "pass", "raise",
  "return", "try", "while", "with", "yield"]

def signs : List String := ["**=", "//=", ">>=", "<<=", "...", "**", "//", ">>", "<<", "<=", ">=",
  "==", "!=", "->", "+=", "-=", "*=", "/=", "%=", "&=", "|=", "^=", "@=", ":=", "+", "-", "*", "/",
  "%", "@", "&", "|", "^", "~", "<", ">", "(", ")", "[", "]", "\x7b", "\x7d", ",", ":", ".", ";",
  "="]

def groupedFrom (p : Char → Bool) : Chars → Chars → Nat → Chars × Nat
  | '_' :: c :: rest, digits, used =>
    if p c then groupedFrom p rest (c :: digits) (used + 2) else (digits.reverse, used)
  | c :: rest, digits, used =>
    if p c then groupedFrom p rest (c :: digits) (used + 1) else (digits.reverse, used)
  | [], digits, used => (digits.reverse, used)

def groupedRun (p : Char → Bool) (cs : Chars) : Chars × Nat := groupedFrom p cs [] 0

variable (cs : Chars)

def decimalRun : Chars × Nat :=
  match cs with
  | c :: _ => if c.isDigit then groupedRun Char.isDigit cs else ([], 0)
  | [] => ([], 0)

def endsNumber (rest : Chars) : Bool :=
  match rest with
  | [] => true
  | c :: _ =>
    !Letter.follows c ||
      ["and", "else", "for", "if", "in", "is", "not", "or"].any fun w => w.toList.isPrefixOf rest

def wholeNumber (n : Nat) : Item := .int .value n

def radix? (base : Nat) (cs : Chars) : Option (Item × Nat) :=
  let (digits, used) := groupedRun (fun c => digitValue c < base) cs
  if digits.isEmpty || !endsNumber (cs.drop used) then none
  else some (wholeNumber (digitsValue base digits), used + 2)

def exponent? : Option (Int × Nat) :=
  match cs with
  | e :: rest =>
    if e == 'e' || e == 'E' then
      let (negative, rest, sign) := match rest with
        | '-' :: r => (true, r, 1)
        | '+' :: r => (false, r, 1)
        | r => (false, r, 0)
      let (digits, used) := decimalRun rest
      if digits.isEmpty then none
      else
        let n : Int := Number.natOfDigits digits
        some (if negative then -n else n, used + sign + 1)
    else none
  | [] => none

def number? : Option (Item × Nat) :=
  match cs with
  | '0' :: 'x' :: rest | '0' :: 'X' :: rest => radix? 16 rest
  | '0' :: 'o' :: rest | '0' :: 'O' :: rest => radix? 8 rest
  | '0' :: 'b' :: rest | '0' :: 'B' :: rest => radix? 2 rest
  | cs =>
    let (whole, used) := decimalRun cs
    let rest := cs.drop used
    let (fraction, rest, used, pointed) := match rest with
      | '.' :: r =>
        let (f, n) := decimalRun r
        (f, r.drop n, used + n + 1, true)
      | r => ([], r, used, false)
    let (exponent, rest, used, scaled) := match exponent? rest with
      | some (e, n) => (e, rest.drop n, used + n, true)
      | none => (0, rest, used, false)
    let double := Number.ofDecimal false (Number.natOfDigits (whole ++ fraction))
      (exponent - fraction.length)
    match rest with
    | 'j' :: after | 'J' :: after =>
      if endsNumber after then some (.complex .value ⟨0, double⟩, used + 1) else none
    | rest =>
      if !endsNumber rest then none
      else if pointed || scaled then some (.float .value double, used)
      else if whole.length > 1 && whole.head? == some '0' && whole.any (· != '0') then none
      else if digitLimit < whole.length then none
      else some (wholeNumber (Number.natOfDigits whole), used)

def bodyFrom (quote : Char) (long : Bool) : Chars → Chars → Nat → Option (Chars × Nat)
  | [], _, _ => none
  | '\\' :: c :: rest, body, used => bodyFrom quote long rest (c :: '\\' :: body) (used + 2)
  | c :: rest, body, used =>
    if c == '\n' && !long then none
    else if c == quote && (!long || [quote, quote].isPrefixOf rest) then
      some (body.reverse, if long then used + 3 else used + 1)
    else bodyFrom quote long rest (c :: body) (used + 1)

def body? (quote : Char) (long : Bool) (cs : Chars) : Option (Chars × Nat) :=
  bodyFrom quote long cs [] 0

def isOctal (c : Char) : Bool := '0' ≤ c && c ≤ '7'

def hexEscape? (width : Nat) (cs : Chars) : Option (Option Nat × Nat) :=
  let digits := cs.take width
  let n := digitsValue 16 digits
  if digits.length = width ∧ digits.all (fun c => digitValue c < 16) ∧ n < 0x110000 then
    some (some n, width + 1)
  else none

def escapes : List (Char × Nat) := [('\\', 92), ('\'', 39), ('"', 34), ('a', 7), ('b', 8), ('f', 12),
  ('n', 10), ('r', 13), ('t', 9), ('v', 11)]

def escape? (wide : Bool) (cs : Chars) : Option (Option Nat × Nat) :=
  match cs with
  | '\n' :: _ => some (none, 1)
  | 'x' :: rest => hexEscape? 2 rest
  | 'u' :: rest => if wide then hexEscape? 4 rest else some (some 92, 0)
  | 'U' :: rest => if wide then hexEscape? 8 rest else some (some 92, 0)
  | 'N' :: _ => if wide then none else some (some 92, 0)
  | c :: rest =>
    match escapes.lookup c with
    | some n => some (some n, 1)
    | none =>
      if isOctal c then
        let digits := c :: (rest.take 2).takeWhile isOctal
        some (some (digitsValue 8 digits), digits.length)
      else some (some 92, 0)
  | [] => some (some 92, 0)

def unescapeFrom (wide : Bool) : Nat → Chars → List Nat → Option (List Nat)
  | 0, cs, codes => if cs.isEmpty then some codes.reverse else none
  | fuel + 1, cs, codes =>
    match cs with
    | [] => some codes.reverse
    | '\\' :: rest => do
      let (code, used) ← escape? wide rest
      unescapeFrom wide fuel (rest.drop used) (code.toList ++ codes)
    | c :: rest => unescapeFrom wide fuel rest (c.toNat :: codes)

def unescape? (body : Chars) : Option String := do
  return String.ofList ((← unescapeFrom true body.length body []).map Half.toChar)

def bytesOf? (raw : Bool) (body : Chars) : Option (List Nat) :=
  if body.any fun c => 128 ≤ c.toNat then none
  else if raw then some (body.map Char.toNat)
  else (unescapeFrom false body.length body []).map (·.map (· % 256))

structure Cursor where
  rest : Chars
  line : Nat := 1
  column : Nat := 0

def Cursor.skip : Nat → Cursor → Cursor
  | 0, c => c
  | n + 1, c =>
    match c.rest with
    | [] => c
    | '\n' :: rest => skip n { rest, line := c.line + 1, column := 0 }
    | _ :: rest => skip n { c with rest, column := c.column + 1 }

/-- The state of the scanner: open brackets, and the indentation of the open blocks, measured with
wide and with narrow tabs. -/
structure Scanner where
  cursor : Cursor
  brackets : Chars := []
  indents : List (Nat × Nat) := [(0, 0)]
  fresh : Bool := true
  tokens : List Token := []

namespace Scanner

variable (s : Scanner)

def push (l : Lexeme) (place : Cursor) : Scanner :=
  { s with tokens := ⟨l, place.line, place.column⟩ :: s.tokens }

def take (l : Lexeme) (n : Nat) : Scanner :=
  { s.push l s.cursor with cursor := s.cursor.skip n }

/-- The blanks at the start of a line: their width with wide and with narrow tabs, the width in
front of the first backslash that joins the line with the next, and their number. -/
structure Margin where
  wide : Nat := 0
  narrow : Nat := 0
  joined : Nat := 0
  used : Nat := 0

def margin? : Chars → Margin → Option Margin
  | ' ' :: rest, m =>
    margin? rest { m with wide := m.wide + 1, narrow := m.narrow + 1, used := m.used + 1 }
  | '\t' :: rest, m =>
    margin? rest
      { m with wide := (m.wide / 8 + 1) * 8, narrow := m.narrow + 1, used := m.used + 1 }
  | '\x0c' :: rest, m => margin? rest { m with wide := 0, narrow := 0, used := m.used + 1 }
  | '\\' :: '\n' :: c :: rest, m =>
    margin? (c :: rest)
      { m with joined := if m.joined = 0 then m.wide else m.joined, used := m.used + 2 }
  | '\\' :: _, _ => none
  | _, m => some m

def close (s : Scanner) (wide narrow : Nat) : List (Nat × Nat) → Option Scanner
  | [] => none
  | (w, n) :: outer =>
    if w = wide then
      if n = narrow then some { s with indents := (w, n) :: outer } else none
    else if wide < w then close (s.push .dedent s.cursor) wide narrow outer
    else none

def blockLimit : Nat := 100

def startLine (wide narrow : Nat) : Option Scanner :=
  match s.indents with
  | [] => none
  | (w, n) :: _ =>
    if w < wide then
      if n < narrow && s.indents.length < blockLimit then
        some { s.push .indent s.cursor with indents := (wide, narrow) :: s.indents }
      else none
    else s.close wide narrow s.indents

def quoted? (cs : Chars) : Option (Chars × Char × Bool × Nat) :=
  let letters := ((cs.take 2).takeWhile fun c => "rRbBuUfF".toList.contains c).map Char.toLower
  match cs.drop letters.length with
  | q :: rest =>
    if q == '"' || q == '\'' then
      if [q, q].isPrefixOf rest then some (letters, q, true, letters.length + 3)
      else some (letters, q, false, letters.length + 1)
    else none
  | [] => none

def textLexeme? (letters body : Chars) : Option Lexeme :=
  match letters with
  | [] | ['u'] => (unescape? body).map .text
  | ['r'] => some (.text (String.ofList body))
  | ['b'] => (bytesOf? false body).map .bytes
  | ['b', 'r'] | ['r', 'b'] => (bytesOf? true body).map .bytes
  | ['f'] => some (.template false body)
  | ['f', 'r'] | ['r', 'f'] => some (.template true body)
  | _ => none

def text? (cs : Chars) : Option (Option (Lexeme × Nat)) := do
  let (letters, q, long, start) ← quoted? cs
  some do
    let (b, used) ← body? q long (cs.drop start)
    return (← textLexeme? letters b, start + used)

def closes (openSign closeSign : Char) : Bool :=
  (openSign == '(' && closeSign == ')') || (openSign == '[' && closeSign == ']')
    || (openSign == '\x7b' && closeSign == '\x7d')

def bracketLimit : Nat := 200

def takeSign : Option Scanner := do
  let sign ← signs.find? fun w => w.toList.isPrefixOf s.cursor.rest
  let s := s.take (.sign sign) sign.length
  match sign.toList with
  | [c] =>
    if c == '(' || c == '[' || c == '\x7b' then
      if s.brackets.length < bracketLimit then return { s with brackets := c :: s.brackets }
      else none
    else if c == ')' || c == ']' || c == '\x7d' then
      match s.brackets with
      | b :: outer => if closes b c then return { s with brackets := outer } else none
      | [] => none
    else return s
  | _ => return s

def takeWord : Option Scanner := do
  match text? s.cursor.rest with
  | some found =>
    let (l, used) ← found
    return s.take l used
  | none =>
    let word := s.cursor.rest.takeWhile Letter.follows
    let written := String.ofList word
    return s.take
      (if keywords.contains written then .keyword written
        else .name (String.ofList (PlainForm.ofName word))) word.length

def takeNumber : Option Scanner := do
  let (i, used) ← number? s.cursor.rest
  return s.take (.number i) used

def atLineEnd : Bool :=
  match s.tokens with
  | [] => true
  | t :: _ => match t.lexeme with
    | .newline | .dedent => true
    | _ => false

def finish : Option Scanner := do
  if !s.brackets.isEmpty then none
  let s := s.indents.foldl (fun s (w, _) => if w = 0 then s else s.push .dedent s.cursor) s
  return s.push .finish s.cursor

def step : Option Scanner := do
  if s.fresh && s.brackets.isEmpty then
    let m ← margin? s.cursor.rest {}
    let s := { s with cursor := s.cursor.skip m.used, fresh := false }
    match s.cursor.rest with
    | [] => return s
    | c :: _ =>
      if c == '\n' || c == '#' then return s
      else if m.joined = 0 then s.startLine m.wide m.narrow
      else s.startLine m.joined m.joined
  else
    match s.cursor.rest with
    | [] => return s
    | c :: rest =>
      if c == '\n' then
        let after := { s with cursor := s.cursor.skip 1, fresh := s.brackets.isEmpty }
        return if !s.brackets.isEmpty || s.atLineEnd then after else after.push .newline s.cursor
      else if c == ' ' || c == '\t' || c == '\x0c' then
        return { s with cursor := s.cursor.skip 1 }
      else if c == '#' then
        return { s with cursor := s.cursor.skip ((rest.takeWhile (· != '\n')).length + 1) }
      else if c == '\\' then
        match rest with
        | '\n' :: _ :: _ => return { s with cursor := s.cursor.skip 2 }
        | _ => none
      else if c.isDigit || (c == '.' && (rest.headD ' ').isDigit) then s.takeNumber
      else if Letter.starts c || c == '"' || c == '\'' then s.takeWord
      else s.takeSign

def run : Nat → Scanner → Option Scanner
  | 0, _ => none
  | fuel + 1, s =>
    if s.cursor.rest.isEmpty then s.finish
    else match s.step with
      | some s => run fuel s
      | none => none

end Scanner

def plainLines : Chars → Chars → Chars
  | '\r' :: '\n' :: rest, done => plainLines rest ('\n' :: done)
  | '\r' :: rest, done => plainLines rest ('\n' :: done)
  | c :: rest, done => plainLines rest (c :: done)
  | [], '\n' :: done => ('\n' :: done).reverse
  | [], done => ('\n' :: done).reverse

def scanFrom (line : Nat) (cs : Chars) : Option (List Token) :=
  if cs.any fun c => c.toNat == 0 || Half.isHalf c then none
  else
    let cs := plainLines cs []
    (Scanner.run (2 * cs.length + 2) { cursor := { rest := cs, line } }).map (·.tokens.reverse)

def scan (source : String) : Except Refusal (List Token) :=
  match scanFrom 1 source.toList with
  | some tokens => .ok tokens
  | none => .error .malformed

end Token

end Rover.Program
