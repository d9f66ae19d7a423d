import Rover.Number.Fixed
import Rover.Program.Item.Text

/-!
# Layouts

How a value is laid out in a text: filled up to a width, with a sign, with separated groups of
digits, in a base or with a number of places.
-/

namespace Rover.Program

open Number

/-- Where a text stands in its field; `inner` puts the filling between the sign and the digits. -/
inductive Side where
  | left | right | center | inner
deriving DecidableEq, Repr

inductive SignRule where
  | bare | plus | blank
deriving DecidableEq, Repr

structure Layout where
  fill : Char := ' '
  filled : Bool := false
  side : Option Side := none
  sign : Option SignRule := none
  plainZero : Bool := false
  alternate : Bool := false
  width : Nat := 0
  separator : Option Char := none
  precision : Option Nat := none
  notationMark : Option Char := none

namespace Layout

def sideOf? : Char → Option Side
  | '<' => some .left
  | '>' => some .right
  | '^' => some .center
  | '=' => some .inner
  | _ => none

def takeNumber (cs : Chars) : Result (Option Nat × Chars) :=
  let digits := cs.takeWhile fun c => (Digit.value? c).isSome
  let n := digits.foldl (fun n c => n * 10 + (Digit.value? c).getD 0) 0
  if digits.isEmpty then .ok (none, cs)
  else if twoPow 63 ≤ n then unfit "Too many decimal digits in format string"
  else .ok (some n, cs.drop digits.length)

def letterText (c : Char) : String :=
  if 32 < c.toNat && c.toNat < 128 then "'" ++ String.ofList [c] ++ "'"
  else "'\\x" ++ String.ofList (Nat.toDigits 16 c.toNat) ++ "'"

variable (l : Layout)

variable (cs : Chars)

def takeSide : Layout × Chars :=
  match cs with
  | f :: s :: rest =>
    match sideOf? s with
    | some side => ({ l with fill := f, filled := true, side := some side }, rest)
    | none =>
      match sideOf? f with
      | some side => ({ l with side := some side }, s :: rest)
      | none => (l, cs)
  | [s] =>
    match sideOf? s with
    | some side => ({ l with side := some side }, [])
    | none => (l, cs)
  | [] => (l, cs)

def takeSign : Layout × Chars :=
  match cs with
  | '+' :: rest => ({ l with sign := some .plus }, rest)
  | '-' :: rest => ({ l with sign := some .bare }, rest)
  | ' ' :: rest => ({ l with sign := some .blank }, rest)
  | _ => (l, cs)

def takeFlag (mark : Char) (set : Layout → Layout) (cs : Chars) : Layout × Chars :=
  if cs.head? = some mark then (set l, cs.tail) else (l, cs)

def takeZeros (numeric : Bool) (l : Layout) (cs : Chars) : Layout × Chars :=
  match cs with
  | '0' :: rest =>
    if l.filled then (l, cs)
    else ({ l with
      fill := '0', filled := true
      side := l.side.or (if numeric then some .inner else none) }, rest)
  | _ => (l, cs)

def takeSeparator : Result (Layout × Chars) := do
  let (l, cs) := match cs with
    | ',' :: rest => ({ l with separator := some ',' }, rest)
    | cs => (l, cs)
  let (l, cs) ← match cs with
    | '_' :: rest =>
      if l.separator.isSome then unfit "Cannot specify both ',' and '_'."
      pure ({ l with separator := some '_' }, rest)
    | cs => pure (l, cs)
  match cs with
  | ',' :: _ => if l.separator == some '_' then unfit "Cannot specify both ',' and '_'."
  | _ => pure ()
  return (l, cs)

def takePrecision : Result (Layout × Chars) := do
  match cs with
  | '.' :: rest =>
    match ← takeNumber rest with
    | (some n, rest) => return ({ l with precision := some n }, rest)
    | (none, _) => unfit "Format specifier missing precision"
  | cs => return (l, cs)

def checkSeparator (usual : Char) : Result Unit :=
  match l.separator with
  | none => .ok ()
  | some s =>
    let mark := l.notationMark.getD usual
    if "defgEG%F".toList.contains mark || mark == '\x00' then .ok ()
    else if "boxX".toList.contains mark && s == '_' then .ok ()
    else if 32 < mark.toNat && mark.toNat < 128 then
      unfit ("Cannot specify '" ++ String.ofList [s] ++ "' with '" ++ String.ofList [mark] ++ "'.")
    else unfit ("Cannot specify '" ++ String.ofList [s] ++ "' with " ++ letterText mark ++ ".")

def read (spec kind : String) (numeric : Bool) (usual : Char) : Result Layout := do
  let (l, cs) := takeSide {} spec.toList
  let (l, cs) := takeSign l cs
  let (l, cs) := takeFlag l 'z' ({ · with plainZero := true }) cs
  let (l, cs) := takeFlag l '#' ({ · with alternate := true }) cs
  let (l, cs) := takeZeros numeric l cs
  let (width, cs) ← takeNumber cs
  let (l, cs) ← takeSeparator { l with width := width.getD 0 } cs
  let (l, cs) ← takePrecision l cs
  let l ← match cs with
    | [] => pure l
    | [c] => pure { l with notationMark := some c }
    | _ => unfit ("Invalid format specifier '" ++ spec ++ "' for object of type '" ++ kind ++ "'")
  checkSeparator l usual
  return l

def unknown {α : Type} (kind : String) : Result α :=
  unfit ("Unknown format code " ++ letterText (l.notationMark.getD ' ') ++ " for object of type '"
    ++ kind ++ "'")

def fillUp (usual : Side) (cs : Chars) : String :=
  let missing := l.width - cs.length
  let blanks (n : Nat) : Chars := List.replicate n l.fill
  String.ofList (match l.side.getD usual with
    | .left => cs ++ blanks missing
    | .right | .inner => blanks missing ++ cs
    | .center => blanks (missing / 2) ++ cs ++ blanks (missing - missing / 2))

def text (spec s : String) : Result String := do
  if spec.isEmpty then return s
  let l ← read spec "str" false 's'
  match l.notationMark with
  | none | some 's' => pure ()
  | some _ => unknown l "str"
  match l.sign with
  | some .blank => unfit "Space not allowed in string format specifier"
  | some _ => unfit "Sign not allowed in string format specifier"
  | none => pure ()
  if l.plainZero then
    unfit "Negative zero coercion (z) not allowed in string format specifier"
  if l.alternate then unfit "Alternate form (#) not allowed in string format specifier"
  if l.side == some .inner then unfit "'=' alignment not allowed in string format specifier"
  let cs := s.toList
  return l.fillUp .left (match l.precision with
    | some n => cs.take n
    | none => cs)

def grouped (separator : Option Char) (size : Nat) : Nat → Chars → Nat → Chars → Chars
  | 0, _, _, done => done
  | fuel + 1, rest, width, done =>
    let count := min size (max (max rest.length width) 1)
    let taken := rest.take count
    let zeros := List.replicate (count - taken.length) '0'
    let rest := rest.drop count
    let width := width - count
    let done := zeros ++ taken.reverse ++ done
    if rest.isEmpty && width = 0 then done
    else
      match separator with
      | some s => grouped separator size fuel rest (width - 1) (s :: done)
      | none => grouped separator size fuel rest width done

def number (negative : Bool) (lead whole tail : Chars) (groupSize : Nat) : String :=
  let sign : Chars :=
    if negative then ['-']
    else match l.sign with
      | some .plus => ['+']
      | some .blank => [' ']
      | _ => []
  let around := sign.length + lead.length + tail.length
  let zeroFilled := l.fill == '0' && l.side == some .inner
  let body :=
    if l.separator.isNone || whole.isEmpty then whole
    else grouped l.separator groupSize (whole.length + l.width + 1) whole.reverse
      (if zeroFilled then l.width - around else 0) []
  match l.side.getD .right with
  | .inner =>
    let missing := l.width - (around + body.length)
    String.ofList (sign ++ lead ++ List.replicate missing l.fill ++ body ++ tail)
  | _ => l.fillUp .right (sign ++ lead ++ body ++ tail)

def magnitude (x : Float) (mark : Char) : Chars :=
  match Binary.ofFloat? x with
  | none => if x.isNaN then ['n', 'a', 'n'] else ['i', 'n', 'f']
  | some b =>
    let (num, den) := b.fraction
    let six := l.precision.getD 6
    match mark.toLower with
    | 'e' => scientific num den six l.alternate
    | 'f' => fixedPoint num den six l.alternate
    | 'g' => general num den six l.alternate false
    | 'r' => general num den (l.precision.getD 17) l.alternate true
    | _ => (floatText x.abs).toList

def capitals (mark : Char) (cs : Chars) : Chars :=
  if mark.isUpper then cs.map Char.toUpper else cs

def wholePart : Chars × Chars :=
  (cs.takeWhile Char.isDigit, cs.dropWhile Char.isDigit)

def isZeroText : Bool :=
  match cs with
  | 'n' :: _ | 'i' :: _ => false
  | cs => (cs.takeWhile fun c => c != 'e').all fun c => c == '0' || c == '.'

def pointed : Chars :=
  if l.alternate && !cs.contains '.' && cs.any Char.isDigit then
    (wholePart cs).1 ++ '.' :: (wholePart cs).2
  else cs

def floatIn (kind : String) (x : Float) : Result String := do
  let mark := l.notationMark.getD '\x00'
  let percent := mark == '%'
  let used ←
    if percent then pure 'f'
    else if mark == '\x00' then pure (if l.precision.isSome then 'r' else '\x00')
    else if mark == 'n' then pure 'g'
    else if "eEfFgG".toList.contains mark then pure mark
    else unknown l kind
  let x := if percent then x * 100 else x
  let cs := l.magnitude x used
  let cs := if used == '\x00' then l.pointed cs else cs
  let negative := Complex.isNegative x && !x.isNaN && !(l.plainZero && isZeroText cs)
  let (whole, tail) := wholePart (capitals mark cs)
  let ending : Chars := if percent then ['%'] else []
  return l.number negative [] whole (tail ++ ending) 3

def float (spec : String) (x : Float) : Result String := do
  if spec.isEmpty then return floatText x
  floatIn (← read spec "float" true '\x00') "float" x

def realOf (n : Int) : Result Float := (Num.int n).toFloat

def int (spec kind : String) (shown : Result String) (n : Int) : Result String := do
  if spec.isEmpty then return ← shown
  let l ← read spec kind true 'd'
  let mark := l.notationMark.getD 'd'
  if "eEfFgG%".toList.contains mark then return ← floatIn l kind (← realOf n)
  if !"dbcoxXn".toList.contains mark then unknown l kind
  if l.precision.isSome then unfit "Precision not allowed in integer format specifier"
  if l.plainZero then
    unfit "Negative zero coercion (z) not allowed in integer format specifier"
  let digits (base : Nat) : Chars := Nat.toDigits base n.natAbs
  let lead (m : Char) : Chars := if l.alternate then ['0', m] else []
  match mark with
  | 'c' =>
    if l.sign.isSome then unfit "Sign not allowed with integer format specifier 'c'"
    if l.alternate then
      unfit "Alternate form (#) not allowed with integer format specifier 'c'"
    if n < -(twoPow 63 : Nat) ∨ (twoPow 63 : Nat) ≤ n then
      throw (.beyondRange "Python int too large to convert to C long")
    if n < 0 ∨ 0x110000 ≤ n then throw (.beyondRange "%c arg not in range(0x110000)")
    return l.number false [] [] [Half.toChar n.toNat] 3
  | 'b' => return l.number (n < 0) (lead 'b') (digits 2) [] 4
  | 'o' => return l.number (n < 0) (lead 'o') (digits 8) [] 4
  | 'x' => return l.number (n < 0) (lead 'x') (digits 16) [] 4
  | 'X' => return l.number (n < 0) (lead 'X') ((digits 16).map Char.toUpper) [] 4
  | _ =>
    let text ← Item.intText n.natAbs
    return l.number (n < 0) [] text.toList [] 3

def complexPart (used mark : Char) (x : Float) (sign : Option SignRule) : Chars :=
  let cs :=
    if used == '\x00' then l.pointed (Complex.partText x.abs).toList else l.magnitude x used
  let negative := Complex.isNegative x && !x.isNaN && !(l.plainZero && isZeroText cs)
  let (whole, tail) := wholePart (capitals mark cs)
  let l := { l with width := 0, sign, side := none }
  (l.number negative [] whole tail 3).toList

def complex (spec : String) (z : Complex) : Result String := do
  if spec.isEmpty then return z.text
  let l ← read spec "complex" true '\x00'
  let mark := l.notationMark.getD '\x00'
  if !("eEfFgGn".toList.contains mark || mark == '\x00') then unknown l "complex"
  if l.fill == '0' && l.filled then
    unfit "Zero padding is not allowed in complex format specifier"
  if l.side == some .inner then
    unfit "'=' alignment flag is not allowed in complex format specifier"
  let bare := mark == '\x00'
  let used := if bare then (if l.precision.isSome then 'g' else '\x00')
    else if mark == 'n' then 'g' else mark
  let imaginaryOnly := bare && z.re == 0 && !Complex.isNegative z.re
  let im (rule : Option SignRule) : Chars := l.complexPart used mark z.im rule
  let cs :=
    if imaginaryOnly then im l.sign ++ ['j']
    else
      let body := l.complexPart used mark z.re l.sign ++ im (some .plus) ++ ['j']
      if bare then '(' :: body ++ [')'] else body
  return l.fillUp .right cs

end Layout

def Item.laidOut (spec : String) (i : Item) : Result String :=
  match i with
  | .str _ s => Layout.text spec s
  | .bool b => Layout.int spec "bool" i.text (if b then 1 else 0)
  | .int _ n => Layout.int spec "int" i.text n
  | .float _ x => Layout.float spec x
  | .complex _ z => Layout.complex spec z
  | i =>
    if spec.isEmpty then i.text
    else .error (.wrongType
      ("unsupported format string passed to " ++ i.className ++ ".__format__"))

end Rover.Program
