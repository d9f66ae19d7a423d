import Rover.Value.Arith

/-!
# Reading JSON

A recursive reader over the characters that are left.
-/

namespace Rover.Json

inductive ReadError where
  | unexpected (reason : String) (rest : Chars)
  | tooLong (digits : Nat)
  | tooDeep (what : String)

def deepest : Nat := 985

def isSpace (c : Char) : Bool := c == ' ' || c == '\t' || c == '\n' || c == '\r'

variable (cs : Chars)

def skipSpace : Chars := cs.dropWhile isSpace

def hex4? : Chars → Option (Nat × Chars)
  | a :: b :: c :: d :: rest => do
    let digits ← [a, b, c, d].mapM Number.hexDigit?
    return (digits.foldl (fun n d => n * 16 + d) 0, rest)
  | _ => none

def unitPair (high : Nat) (rest : Chars) : Char × Chars :=
  if 0xD800 ≤ high ∧ high < 0xDC00 then
    match rest with
    | '\\' :: 'u' :: more =>
      match hex4? more with
      | some (low, after) =>
        if 0xDC00 ≤ low ∧ low < 0xE000 then
          (Char.ofNat (0x10000 + (high - 0xD800) * 0x400 + (low - 0xDC00)), after)
        else (Half.toChar high, rest)
      | none => (Half.toChar high, rest)
    | _ => (Half.toChar high, rest)
  else (Half.toChar high, rest)

def stringRest (start : Chars) : Nat → Chars → Chars → Except ReadError (String × Chars)
  | 0, _, _ => .error (.unexpected "Unterminated string starting at" start)
  | fuel + 1, acc, cs =>
    match cs with
    | [] => .error (.unexpected "Unterminated string starting at" start)
    | '"' :: rest => .ok (String.ofList acc.reverse, rest)
    | '\\' :: rest =>
      match rest with
      | [] => .error (.unexpected "Unterminated string starting at" start)
      | 'u' :: more =>
        match hex4? more with
        | none => .error (.unexpected "Invalid \\uXXXX escape" rest)
        | some (unit, after) =>
          let (c, after) := unitPair unit after
          stringRest start fuel (c :: acc) after
      | e :: more =>
        let plain : Option Char := match e with
          | '"' => some '"'
          | '\\' => some '\\'
          | '/' => some '/'
          | 'b' => some (Char.ofNat 8)
          | 'f' => some (Char.ofNat 12)
          | 'n' => some '\n'
          | 'r' => some '\r'
          | 't' => some '\t'
          | _ => none
        match plain with
        | some c => stringRest start fuel (c :: acc) more
        | none => .error (.unexpected "Invalid \\escape" cs)
    | c :: rest =>
      if c.toNat < 32 then .error (.unexpected "Invalid control character at" cs)
      else stringRest start fuel (c :: acc) rest

def readString (start : Chars) : Except ReadError (String × Chars) :=
  stringRest start (start.length + 1) [] (start.drop 1)

def number? : Option (Except Nat Value × Chars) :=
  let (negative, body) := match cs with
    | '-' :: rest => (true, rest)
    | rest => (false, rest)
  let whole := body.takeWhile Char.isDigit
  -- a zero is followed by no further digit
  let whole := if whole.head? == some '0' then ['0'] else whole
  if whole.isEmpty then none
  else
    let rest := body.drop whole.length
    let (part, rest) := match rest with
      | '.' :: more =>
        let part := more.takeWhile Char.isDigit
        if part.isEmpty then ([], rest) else (part, more.drop part.length)
      | _ => ([], rest)
    let (power, rest) : Option Int × Chars := match rest with
      | e :: more =>
        if e == 'e' || e == 'E' then
          let (down, digits) := match more with
            | '-' :: d => (true, d)
            | '+' :: d => (false, d)
            | d => (false, d)
          let digits := digits.takeWhile Char.isDigit
          if digits.isEmpty then (none, rest)
          else
            let n : Int := Number.natOfDigits digits
            let signed := (match more with
              | '-' :: _ | '+' :: _ => 1
              | _ => 0) + digits.length
            (some (if down then -n else n), more.drop signed)
        else (none, rest)
      | [] => (none, rest)
    if part.isEmpty && power.isNone then
      let n : Int := Number.natOfDigits whole
      some (if Number.digitLimit < whole.length then .error whole.length
        else .ok (.int (if negative then -n else n)), rest)
    else
      let digits := Number.natOfDigits (whole ++ part)
      some (.ok (.float (Number.ofDecimal negative digits (power.getD 0 - part.length))), rest)

def literals : Record :=
  [("null", .none), ("true", .bool true), ("false", .bool false), ("NaN", .float (0.0 / 0.0)),
    ("Infinity", .float (1.0 / 0.0)), ("-Infinity", .float (-1.0 / 0.0))]

def literal? : Option (Value × Chars) :=
  literals.findSome? fun (word, v) =>
    if word.toList.isPrefixOf cs then some (v, cs.drop word.length) else none

mutual

def readValue (depth : Nat) : Nat → Chars → Except ReadError (Value × Chars)
  | 0, cs => .error (.unexpected "Expecting value" cs)
  | fuel + 1, cs =>
    match cs with
    | '"' :: _ => do
      let (s, rest) ← readString cs
      return (.str s, rest)
    | '{' :: rest =>
      if depth = 0 then .error (.tooDeep "object")
      else
        match skipSpace rest with
        | '}' :: after => .ok (.dict [], after)
        | body => readEntries (depth - 1) fuel [] body
    | '[' :: rest =>
      if depth = 0 then .error (.tooDeep "array")
      else
        match skipSpace rest with
        | ']' :: after => .ok (.list [], after)
        | body => readItems (depth - 1) fuel [] body
    | cs =>
      match literal? cs with
      | some found => .ok found
      | none =>
        match number? cs with
        | some (.ok v, rest) => .ok (v, rest)
        | some (.error digits, _) => .error (.tooLong digits)
        | none => .error (.unexpected "Expecting value" cs)

def readItems (depth : Nat) : Nat → List Value → Chars → Except ReadError (Value × Chars)
  | 0, _, cs => .error (.unexpected "Expecting value" cs)
  | fuel + 1, acc, cs => do
    let (v, rest) ← readValue depth fuel cs
    match skipSpace rest with
    | ']' :: after => return (.list (v :: acc).reverse, after)
    | ',' :: more => readItems depth fuel (v :: acc) (skipSpace more)
    | other => throw (.unexpected "Expecting ',' delimiter" other)

def readEntries (depth : Nat) :
    Nat → Entries → Chars → Except ReadError (Value × Chars)
  | 0, _, cs => .error (.unexpected "Expecting value" cs)
  | fuel + 1, acc, cs =>
    match cs with
    | '"' :: _ => do
      let (key, rest) ← readString cs
      match skipSpace rest with
      | ':' :: more =>
        let (v, rest) ← readValue depth fuel (skipSpace more)
        let acc := Value.insert acc (.str key) v
        match skipSpace rest with
        | '}' :: after => return (.dict acc, after)
        | ',' :: more => readEntries depth fuel acc (skipSpace more)
        | other => throw (.unexpected "Expecting ',' delimiter" other)
      | other => throw (.unexpected "Expecting ':' delimiter" other)
    | other => .error (.unexpected "Expecting property name enclosed in double quotes" other)

end

def fault (text : Chars) : ReadError → Fault
  | .unexpected reason rest =>
    let place := text.length - rest.length
    let before := text.take place
    let line := before.count '\n' + 1
    let column := (before.reverse.takeWhile (· != '\n')).length + 1
    .notJson reason line column place
  | .tooLong digits => .tooManyDigits digits
  | .tooDeep what => .tooDeep (" while decoding a JSON " ++ what ++ " from a unicode string")

def parse (s : String) : Result Value :=
  let text := s.toList
  match readValue deepest (2 * text.length + 2) (skipSpace text) with
  | .error e => .error (fault text e)
  | .ok (v, rest) =>
    match skipSpace rest with
    | [] => .ok v
    | extra => .error (fault text (.unexpected "Extra data" extra))

end Rover.Json
