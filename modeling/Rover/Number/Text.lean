import Rover.Number.Shortest
import Rover.Text.Digit

/-!
# Numbers as text

How numbers are written in log records, messages and sent data, and which texts are read as numbers.
-/

namespace Rover

namespace Number

def natText (n : Nat) : String := String.ofList (Nat.toDigits 10 n)

def intText (n : Int) : String :=
  if n < 0 then "-" ++ natText n.natAbs else natText n.natAbs

def zeros (n : Nat) : String := String.ofList (List.replicate n '0')

def decimalText (d : Decimal) : String :=
  let digits := Nat.toDigits 10 d.digits
  let count := digits.length
  -- the exponent of the first digit
  let top : Int := d.exponent + count - 1
  if -4 ≤ top ∧ top < 16 then
    if top < 0 then "0." ++ zeros (-top - 1).toNat ++ String.ofList digits
    else
      let whole := top.toNat + 1
      if count ≤ whole then String.ofList digits ++ zeros (whole - count) ++ ".0"
      else String.ofList (digits.take whole) ++ "." ++ String.ofList (digits.drop whole)
  else
    let lead := String.ofList (digits.take 1)
    let rest := digits.drop 1
    let mantissa := if rest.isEmpty then lead else lead ++ "." ++ String.ofList rest
    let power := natText top.natAbs
    let power := if power.length < 2 then "0" ++ power else power
    mantissa ++ (if top < 0 then "e-" else "e+") ++ power

def floatText (x : Float) : String :=
  match Binary.ofFloat? x with
  | none => if x.isNaN then "nan" else if x > 0 then "inf" else "-inf"
  | some b =>
    let sign := if b.negative then "-" else ""
    if b.mantissa = 0 then sign ++ "0.0"
    else
      let d := Decimal.shortest b
      -- trailing zeros belong to the exponent
      sign ++ decimalText (trim 17 d)
where
  trim : Nat → Decimal → Decimal
    | 0, d => d
    | n + 1, d =>
      if d.digits ≠ 0 ∧ d.digits % 10 = 0 then trim n ⟨d.digits / 10, d.exponent + 1⟩ else d

def natOfDigits (digits : Chars) : Nat :=
  digits.foldl (fun acc c => acc * 10 + (c.toNat - '0'.toNat)) 0

def ofDecimal (negative : Bool) (digits : Nat) (exponent : Int) : Float :=
  let size : Int := (Nat.toDigits 10 digits).length
  if digits = 0 ∨ exponent + size < -400 then nearest negative 0 1
  else if 400 < exponent + size then
    (if negative then -1.0 else 1.0) / 0.0
  else if 0 ≤ exponent then nearest negative (digits * tenPow exponent.toNat) 1
  else nearest negative digits (tenPow (-exponent).toNat)

def digitLimit : Nat := 4300

def writingBound : Nat := tenPow digitLimit

def isWritable (n : Int) : Bool := n.natAbs < writingBound

def isSpace (c : Char) : Bool := (9 ≤ c.toNat && c.toNat ≤ 13) || c == ' '

variable (cs : Chars)

def plainForm : Chars :=
  cs.map fun c =>
    if c.toNat < 0x80 then c
    else if isBlank c then ' '
    else match Digit.value? c with
      | some d => Char.ofNat ('0'.toNat + d)
      | none => '?'

def trimSpace : Chars :=
  ((cs.dropWhile isSpace).reverse.dropWhile isSpace).reverse

def digitValue (c : Char) : Nat :=
  if c.isDigit then c.toNat - '0'.toNat
  else if c.isLower then c.toNat - 'a'.toNat + 10
  else if c.isUpper then c.toNat - 'A'.toNat + 10
  else 36

def hexDigit? (c : Char) : Option Nat := (some (digitValue c)).filter (· < 16)

def digitsValue (base : Nat) (digits : Chars) : Nat :=
  digits.foldl (fun n c => n * base + digitValue c) 0

def groupedDigits? : Option Chars :=
  let rec go : Chars → Bool → Option Chars
    | [], afterDigit => if afterDigit then some [] else none
    | '_' :: rest, afterDigit => if afterDigit then go rest false else none
    | c :: rest, _ => if c.isDigit then (go rest true).map (c :: ·) else none
  go cs false

inductive ReadError where
  | unreadable
  | tooLong (digits : Nat)
deriving DecidableEq, Repr

def signed : Bool × Chars :=
  match cs with
  | '-' :: rest => (true, rest)
  | '+' :: rest => (false, rest)
  | rest => (false, rest)

def markedBase? : Chars → Option Nat
  | '0' :: m :: _ =>
    if m == 'x' || m == 'X' then some 16
    else if m == 'o' || m == 'O' then some 8
    else if m == 'b' || m == 'B' then some 2
    else none
  | _ => none

def wellGrouped (run : Chars) : Bool :=
  run.head? != some '_' && run.getLast? != some '_'
    && !(run.zip (run.drop 1)).any fun (a, b) => a == '_' && b == '_'

/-- The whole number that characters write in a base from 2 to 36. Base 0 takes the base from the
mark, and without one only numbers that do not start with a needless zero are read. -/
def readInt (base : Nat) (cs : Chars) : Except ReadError Int :=
  let (negative, body) := signed ((plainForm cs).dropWhile isSpace)
  let marked := markedBase? body
  let used := if base = 0 then marked.getD 10 else base
  let body := if marked = some used then
      (match body.drop 2 with
        | '_' :: rest => rest
        | rest => rest)
    else body
  let run := body.takeWhile fun c => digitValue c < used || c == '_'
  let rest := body.drop run.length
  let digits := run.filter (· != '_')
  -- bases that are powers of two have no limit
  let limited := !(used == 2 || used == 4 || used == 8 || used == 16 || used == 32)
  if !wellGrouped run then .error .unreadable
  else if limited && digitLimit < digits.length then .error (.tooLong digits.length)
  else if digits.isEmpty || !rest.all isSpace then .error .unreadable
  else
    let n := digitsValue used digits
    if base = 0 ∧ marked = none ∧ digits.head? = some '0' ∧ n ≠ 0 then .error .unreadable
    else .ok (if negative then -(n : Int) else n)

def parseUnsigned? (negative : Bool) (cs : Chars) : Option Float := do
  let isMark (c : Char) := c == 'e' || c == 'E'
  let mantissa := cs.takeWhile (!isMark ·)
  let rest := cs.dropWhile (!isMark ·)
  let whole := mantissa.takeWhile (· != '.')
  let part := (mantissa.dropWhile (· != '.')).drop 1
  if whole.isEmpty && part.isEmpty then none
  let whole ← if whole.isEmpty then some [] else groupedDigits? whole
  let part ← if part.isEmpty then some [] else groupedDigits? part
  let exponent : Int ← match rest with
    | [] => some (0 : Int)
    | _ :: '-' :: digits => (groupedDigits? digits).map fun d => -(natOfDigits d : Int)
    | _ :: '+' :: digits => (groupedDigits? digits).map fun d => (natOfDigits d : Int)
    | _ :: digits => (groupedDigits? digits).map fun d => (natOfDigits d : Int)
  some (ofDecimal negative (natOfDigits (whole ++ part)) (exponent - part.length))

def readFloat? : Option Float :=
  let (negative, cs) := signed (trimSpace (plainForm cs))
  let word := String.ofList (cs.map Char.toLower)
  let sign : Float := if negative then -1.0 else 1.0
  if word == "inf" || word == "infinity" then some (sign / 0.0)
  else if word == "nan" then some (0.0 / 0.0)
  else parseUnsigned? negative cs

end Number

export Number (natText)

end Rover
