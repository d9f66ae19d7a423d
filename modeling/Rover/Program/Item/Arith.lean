import Rover.Program.Item.Table
import Rover.Program.Template

/-!
# Arithmetic on items

Whole numbers are exact and of any size; a double on either side makes the result a double, and a
complex number a complex one.
-/

namespace Rover.Program

open Value Num

inductive BinaryOp where
  | add | sub | mul | div | floorDiv | mod | pow | shiftLeft | shiftRight | bitAnd | bitOr | bitXor
deriving DecidableEq, Repr

def BinaryOp.sign : BinaryOp → String
  | .add => "+" | .sub => "-" | .mul => "*" | .div => "/" | .floorDiv => "//" | .mod => "%"
  | .pow => "** or pow()" | .shiftLeft => "<<" | .shiftRight => ">>" | .bitAnd => "&"
  | .bitOr => "|" | .bitXor => "^"

inductive UnaryOp where
  | neg | pos | invert | not
deriving DecidableEq, Repr

namespace Item

def indexBound : Nat := twoPow 63

def sizeBound : Nat := 50000000

def digitBound : Nat := twoPow 34

def complex? (i : Item) : Option (Result Complex) :=
  match i with
  | .complex _ z => some (.ok z)
  | i => i.num?.map fun x => do return Complex.ofReal (← x.toFloat)

def ofDefect : Complex.Defect → Fault
  | .zeroDivision => .complexDivisionByZero
  | .zeroPower => .zeroToComplexPower
  | .overflow => .beyondRange "complex exponentiation"

def lift {α : Type} : Except Complex.Defect α → Result α
  | .ok a => .ok a
  | .error d => .error (ofDefect d)

def onComplex (f : Complex → Complex → Result Complex) (a b : Result Complex) : Result Item := do
  return ofComplex (← f (← a) (← b))

variable (op : BinaryOp)

def refuse (a b : Item) : Result Item :=
  .error (.operands op.sign a.className b.className)

def powInt (m : Int) (n : Nat) : Result Int :=
  if n = 0 then .ok 1
  else if m = 0 ∨ m = 1 then .ok m
  else if m = -1 then .ok (if n % 2 = 0 then 1 else -1)
  else if digitBound < n * m.natAbs.log2 then .error .outOfMemory
  else .ok (Int.pow m n)

def powReal (a b : Num) : Result Item := do
  match a, b with
  | .int m, .int n => if 0 ≤ n then return ofInt (← powInt m n.toNat)
  | _, _ => pure ()
  let x ← a.toFloat
  let y ← b.toFloat
  if x < 0 && !x.isInf && !y.isInf && !y.isNaN && y != y.floor then
    return ofComplex (← lift ((Complex.ofReal x).pow (Complex.ofReal y)))
  return ofNum (← Num.pow (.float x) (.float y))

def onNumbers (a b : Item) : Result Item :=
  match a.num?, b.num? with
  | some x, some y =>
    match op with
    | .add => (add x y).map ofNum
    | .sub => (sub x y).map ofNum
    | .mul => (mul x y).map ofNum
    | .div => (div x y).map ofNum
    | .floorDiv => (floorDiv x y).map ofNum
    | .mod => (mod x y).map ofNum
    | .pow => powReal x y
    | _ => refuse op a b
  | _, _ =>
    match a.complex?, b.complex? with
    | some x, some y =>
      match op with
      | .add => onComplex (fun z w => .ok (z.add w)) x y
      | .sub => onComplex (fun z w => .ok (z.sub w)) x y
      | .mul => onComplex (fun z w => .ok (z.mul w)) x y
      | .div => onComplex (fun z w => lift (z.div w)) x y
      | .pow => onComplex (fun z w => lift (z.pow w)) x y
      | _ => refuse op a b
    | _, _ => refuse op a b

def joined (a b : Item) : Result Item :=
  match a, b with
  | .str _ s, .str _ t =>
    .ok (if t.isEmpty then a else if s.isEmpty then b else ofString (s ++ t))
  | .bytes _ s, .bytes _ t =>
    .ok (if s.isEmpty then b else if t.isEmpty then a else ofBytes (s ++ t))
  | .list _ s, .list _ t => .ok (ofList (s ++ t))
  | .tuple _ s, .tuple _ t =>
    .ok (if s.isEmpty then b else if t.isEmpty then a else ofTuple (s ++ t))
  | .str .., b => .error (.joining "str" b.className)
  | .bytes .., b => wrongType ("can't concat " ++ b.className ++ " to bytes")
  | .list .., b => .error (.joining "list" b.className)
  | .tuple .., b => .error (.joining "tuple" b.className)
  | a, b => refuse .add a b

def isSequence : Item → Bool
  | .str .. | .bytes .. | .list .. | .tuple .. => true
  | _ => false

def repeated (sequence count : Item) : Result Item := do
  match count.integer? with
  | Option.none => throw (.repeating count.className)
  | some n =>
    if n < -(indexBound : Int) ∨ (indexBound : Int) ≤ n then
      throw (.beyondRange ("cannot fit '" ++ count.className ++ "' into an index-sized integer"))
    let times := n.toNat
    let check (size : Nat) (tooLong : Fault) : Result Unit := do
      if indexBound ≤ size * times then throw tooLong
      if sizeBound < size * times then throw .outOfMemory
    match sequence with
    | .str _ s =>
      if times = 1 then return sequence
      check s.length (.beyondRange "repeated string is too long")
      return ofChars (Value.repeated n s.toList)
    | .bytes _ bs =>
      if times = 1 then return sequence
      check bs.length (.beyondRange "repeated bytes are too long")
      return ofBytes (Value.repeated n bs)
    | .tuple _ items =>
      if times = 1 ∨ items.isEmpty then return sequence
      check items.length .outOfMemory
      return ofTuple (Value.repeated n items)
    | .list _ items =>
      check items.length .outOfMemory
      return ofList (Value.repeated n items)
    | i => refuse .mul i count

def shiftedLeft (m : Int) (n : Nat) : Result Int :=
  if m = 0 then .ok 0
  else if 30 * (indexBound / 4) ≤ n then .error (.beyondRange "too many digits in integer")
  else if digitBound < n then .error .outOfMemory
  else .ok (m * twoPow n)

def shiftedRight (m : Int) (n : Nat) : Int :=
  if m.natAbs.log2 < n then (if m < 0 then -1 else 0) else Int.fdiv m (twoPow n)

def shift (a b : Item) : Result Item :=
  match a.integer?, b.integer? with
  | some m, some n =>
    if n < 0 then .error .negativeShift
    else if op == .shiftLeft then (shiftedLeft m n.toNat).map ofInt
    else .ok (ofInt (shiftedRight m n.toNat))
  | _, _ => refuse op a b

def slots? : Item → Option Slots
  | .set _ slots => some slots
  | .view .keys entries => some (Slots.ofItems (entries.map Prod.fst))
  | .view .items entries => some (Slots.ofItems (entries.map fun (k, v) => ofTuple [k, v]))
  | _ => Option.none

def onSets (s t : Slots) : Option Slots :=
  match op with
  | .bitOr => some (s.copy.merge t)
  | .bitAnd => some (s.inter t)
  | .bitXor => some (s.symmDiff t)
  | .sub => some (s.diff t)
  | _ => Option.none

def classes? : Item → Option (List Item)
  | .none => some [.none]
  | .builtin b => if b.isClass then some [.builtin b] else Option.none
  | .union cs => some cs
  | _ => Option.none

def isClassLike : Item → Bool
  | .none => false
  | i => (classes? i).isSome

def united (a b : List Item) : Item :=
  match (a ++ b).foldl (fun acc c => if acc.any (identical c) then acc else acc ++ [c]) [] with
  | [one] => one
  | several => .union several

def bits (m n : Int) : Int :=
  match op with
  | .bitAnd => intAnd m n
  | .bitOr => intOr m n
  | _ => intXor m n

def bitwise (a b : Item) : Result Item :=
  match a, b with
  | .bool x, .bool y => .ok (.bool (match op with
    | .bitAnd => x && y
    | .bitOr => x || y
    | _ => x != y))
  | .dict _ x, .dict _ y =>
    if op == .bitOr then .ok (ofEntries (y.foldl (fun acc (k, v) => insert acc k v) x))
    else refuse op a b
  | a, b =>
    match a.integer?, b.integer?, slots? a, slots? b with
    | some m, some n, _, _ => .ok (ofInt (bits op m n))
    | _, _, some s, some t =>
      match onSets op s t with
      | some r => .ok (.set .unborn r)
      | Option.none => refuse op a b
    | _, _, _, _ =>
      match classes? a, classes? b with
      | some x, some y =>
        if op == .bitOr && (isClassLike a || isClassLike b) then .ok (united x y)
        else refuse op a b
      | _, _ => refuse op a b

def binary (a b : Item) : Result Item :=
  match op with
  | .add => if isSequence a then joined a b else onNumbers op a b
  | .mul =>
    if isSequence a then repeated a b
    else if isSequence b then repeated b a
    else onNumbers op a b
  | .sub =>
    match slots? a, slots? b with
    | some s, some t => .ok (.set .unborn (s.diff t))
    | _, _ => onNumbers op a b
  | .mod =>
    match a with
    | .str _ s => (Template.fill s b).map ofString
    | a => onNumbers op a b
  | .shiftLeft | .shiftRight => shift op a b
  | .bitAnd | .bitOr | .bitXor => bitwise op a b
  | _ => onNumbers op a b

def onNumber {α : Type} (refusal : String → Fault) (f : Num → Result α) (a : Item) : Result α :=
  match a.num? with
  | some x => f x
  | Option.none => .error (refusal a.className)

def unary (op : UnaryOp) (a : Item) : Result Item :=
  match op with
  | .not => .ok (.bool !a.truth)
  | .neg =>
    match a with
    | .complex _ z => .ok (ofComplex z.neg)
    | a => a.onNumber (.sign "-") fun x => .ok (ofNum x.neg)
  | .pos =>
    match a with
    | .int .. | .float .. | .complex .. => .ok a
    | .bool b => .ok (ofInt (if b then 1 else 0))
    | a => .error (.sign "+" a.className)
  | .invert =>
    match a.integer? with
    | some n => .ok (ofInt (-n - 1))
    | Option.none => .error (.sign "~" a.className)

def abs (a : Item) : Result Item :=
  match a with
  | .complex _ z =>
    match z.abs with
    | .ok x => .ok (ofFloat x)
    | .error _ => .error (.beyondRange "absolute value too large")
  | .int _ n => .ok (if n < 0 then ofInt (-n) else a)
  | a => a.onNumber .magnitude fun x => .ok (ofNum x.abs)

/-- The characters that are read as a number, and how they are shown. -/
def written? : Item → Option (Chars × String)
  | .str _ s => some (s.toList, Quoted.encode s)
  | .bytes _ bs => some (bs.map Char.ofNat, bytesText bs)
  | _ => Option.none

variable (i : Item)

def toInteger : Result Int :=
  match written? i with
  | some (cs, shown) => integerIn 10 cs shown
  | Option.none => i.onNumber .toInteger truncate

def toIntegerIn (base : Nat) (i : Item) : Result Int :=
  match written? i with
  | some (cs, shown) => integerIn base cs shown
  | Option.none => wrongType "int() can't convert non-string with explicit base"

def toFloat : Result Float :=
  match written? i with
  | some (cs, shown) => floatIn cs shown
  | Option.none => i.onNumber .toFloat Num.toFloat

def toReal : Item → Result Float := onNumber .notReal Num.toFloat

def toIndex : Result Int :=
  match i.integer? with
  | some n => .ok n
  | Option.none => .error (.notInteger i.className)

def characters (s : String) : List Item := s.toList.map fun c => ofChars [c]

def rangeItems (start stop step : Int) : List Item :=
  (List.range (rangeLength start stop step)).map fun (i : Nat) => ofInt (start + step * i)

def facetItems (facet : Facet) (entries : Entries) : List Item :=
  match facet with
  | .keys => entries.map Prod.fst
  | .values => entries.map Prod.snd
  | .items => entries.map fun (k, v) => ofTuple [k, v]

def items (i : Item) : Result (List Item) :=
  match i with
  | .str _ s => .ok (characters s)
  | .bytes _ bs => .ok (bs.map ofNat)
  | .list _ items | .tuple _ items => .ok items
  | .dict _ entries => .ok (entries.map Prod.fst)
  | .set _ slots => .ok (filled slots)
  | .range _ a b c => .ok (rangeItems a b c)
  | .view facet entries => .ok (facetItems facet entries)
  | i => .error (.notIterable i.className)

def length : Result Nat :=
  match i with
  | .str _ s => .ok s.length
  | .bytes _ bs => .ok bs.length
  | .list _ items | .tuple _ items => .ok items.length
  | .dict _ entries | .view _ entries => .ok entries.length
  | .set _ slots => .ok (Slots.size slots)
  | .range _ a b c =>
    let n := rangeLength a b c
    if n < indexBound then .ok n
    else .error (.beyondRange "Python int too large to convert to C ssize_t")
  | i => .error (.noLength i.className)

def rangeContains (a b c : Int) (x : Item) : Bool :=
  let whole? : Option Int := match x with
    | .complex _ z => if z.im == 0 then (truncate (.float z.re)).toOption else Option.none
    | x => x.num?.bind fun n => n.truncate.toOption
  match whole? with
  | some n =>
    let place := if c = 0 then 0 else (n - a) / c
    sameNumber x (ofInt n) && 0 ≤ place && place < rangeLength a b c && a + place * c == n
  | Option.none => false

def contains (i x : Item) : Result Bool :=
  match i with
  | .str _ s =>
    match x with
    | .str _ t => .ok (Text.occurs t.toList s.toList)
    | x => .error (.textMember x.className)
  | .bytes _ bs =>
    match x with
    | .bytes _ part => .ok (Text.occurs part bs)
    | x =>
      match x.integer? with
      | some n =>
        if 0 ≤ n ∧ n < 256 then .ok (bs.contains n.toNat)
        else unfit "byte must be in range(0, 256)"
      | Option.none =>
        wrongType ("a bytes-like object is required, not '" ++ x.className ++ "'")
  | .list _ items | .tuple _ items => .ok (items.any fun y => alike y x)
  | .dict _ entries | .view .keys entries => do
    x.hashable
    return (lookup? entries x).isSome
  | .view facet entries => .ok ((facetItems facet entries).any fun y => alike y x)
  | .set _ slots => do
    match x with
    | .set .. => pure ()
    | x => x.hashable
    return (filled slots).any fun y => alike y x
  | .range _ a b c => .ok (rangeContains a b c x)
  | i => .error (.notContainer i.className)

end Item

end Rover.Program
