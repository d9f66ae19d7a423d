import Rover.Fault
import Rover.Text.Search

/-!
# Arithmetic on values

Whole numbers are exact and of any size; a double on either side makes the result a double.
-/

namespace Rover

namespace Num

def toFloat : Num → Result Float
  | .float x => .ok x
  | .int n =>
    let x := nearestInt n
    if x.isInf then .error .integerTooLarge else .ok x

def lift (f : Int → Int → Int) (g : Float → Float → Float) (a b : Num) : Result Num :=
  match a, b with
  | .int m, .int n => .ok (.int (f m n))
  | a, b => do return .float (g (← a.toFloat) (← b.toFloat))

def add : Num → Num → Result Num := lift (· + ·) (· + ·)
def sub : Num → Num → Result Num := lift (· - ·) (· - ·)
def mul : Num → Num → Result Num := lift (· * ·) (· * ·)

def div (a b : Num) : Result Num :=
  match a, b with
  | .int m, .int n =>
    if n = 0 then .error .divisionByZero
    else
      let x := nearest ((m < 0) != (n < 0)) m.natAbs n.natAbs
      if x.isInf then .error .quotientTooLarge
      else .ok (.float (if m = 0 then 0.0 else x))
  | a, b => do
    let x ← a.toFloat
    let y ← b.toFloat
    if y == 0 then .error .floatDivisionByZero else .ok (.float (x / y))

def remainder (x y : Float) : Float :=
  match Binary.ofFloat? x, Binary.ofFloat? y with
  | some a, some b =>
    let low := min a.exponent b.exponent
    let m := a.mantissa * twoPow (a.exponent - low).toNat
    let n := b.mantissa * twoPow (b.exponent - low).toNat
    let r := m % n
    if 0 ≤ low then nearest a.negative (r * twoPow low.toNat) 1
    else nearest a.negative r (twoPow (-low).toNat)
  | some _, none => if y.isNaN then y else x
  | none, _ => 0.0 / 0.0

def withSignOf (magnitude sign : Float) : Float :=
  let negative := twoPow 63 ≤ sign.toBits.toNat
  if negative then -magnitude.abs else magnitude.abs

def divModFloat (x y : Float) : Float × Float :=
  let r := remainder x y
  let q := (x - r) / y
  let (q, r) :=
    if r != 0 then (if (y < 0) != (r < 0) then (q - 1.0, r + y) else (q, r))
    else (q, withSignOf 0.0 y)
  let q :=
    if q != 0 then
      let f := q.floor
      if q - f > 0.5 then f + 1.0 else f
    else withSignOf 0.0 (x / y)
  (q, r)

def divided (zero floatZero : Fault) (f : Int → Int → Int) (g : Float → Float → Float)
    (a b : Num) : Result Num :=
  match a, b with
  | .int m, .int n => if n = 0 then .error zero else .ok (.int (f m n))
  | a, b => do
    let x ← a.toFloat
    let y ← b.toFloat
    if y == 0 then .error floatZero else .ok (.float (g x y))

def floorDiv : Num → Num → Result Num :=
  divided .floorDivisionByZero .floatFloorDivisionByZero Int.fdiv fun x y => (divModFloat x y).1

def mod : Num → Num → Result Num :=
  divided .moduloByZero .floatModuloByZero Int.fmod fun x y => (divModFloat x y).2

def powFloat (x y : Float) : Result Num :=
  if x == 0 && y < 0 then .error .zeroToNegativePower
  else
    let r := x.pow y
    if r.isInf && !x.isInf && !y.isInf then .error .resultOutOfRange else .ok (.float r)

def pow (a b : Num) : Result Num :=
  match a, b with
  | .int m, .int n =>
    if 0 ≤ n then .ok (.int (Int.pow m n.toNat))
    else do powFloat (← a.toFloat) (← b.toFloat)
  | a, b => do powFloat (← a.toFloat) (← b.toFloat)

def neg : Num → Num
  | .int n => .int (-n)
  | .float x => .float (-x)

def abs : Num → Num
  | .int n => .int n.natAbs
  | .float x => .float x.abs

def truncate : Num → Result Int
  | .int n => .ok n
  | .float x =>
    match Binary.ofFloat? x with
    | some b => .ok b.truncate
    | none => .error (if x.isNaN then .nanToInteger else .infinityToInteger)

end Num

namespace Value

variable (op : String)

def arith (f : Num → Num → Result Num) (a b : Value) : Result Value :=
  match a.num?, b.num? with
  | some x, some y => (f x y).map Num.toValue
  | _, _ => .error (.operands op a.className b.className)

def add (a b : Value) : Result Value :=
  match a, b with
  | .str s, .str t => .ok (.str (s ++ t))
  | .list s, .list t => .ok (.list (s ++ t))
  | .tuple s, .tuple t => .ok (.tuple (s ++ t))
  | .str _, b => .error (.joining "str" b.className)
  | .list _, b => .error (.joining "list" b.className)
  | .tuple _, b => .error (.joining "tuple" b.className)
  | a, b => arith "+" Num.add a b

def sub : Value → Value → Result Value := arith "-" Num.sub

def repeated {α : Type} (n : Int) (items : List α) : List α :=
  (List.replicate n.toNat items).flatten

def mul (a b : Value) : Result Value :=
  let times (sequence count : Value) : Result Value :=
    match count.integer?, sequence with
    | some n, .str s => .ok (.str (String.ofList (repeated n s.toList)))
    | some n, .list s => .ok (.list (repeated n s))
    | some n, .tuple s => .ok (.tuple (repeated n s))
    | _, _ => .error (.repeating count.className)
  match a, b with
  | .str _, b | .list _, b | .tuple _, b => times a b
  | a, .str _ | a, .list _ | a, .tuple _ => times b a
  | .object "bytes" _, b => times a b
  | .object "complex" z, b =>
    if b.num?.isSome then .ok (.object "complex" z)
    else .error (.operands "*" "complex" b.className)
  | a, b => arith "*" Num.mul a b

def div : Value → Value → Result Value := arith "/" Num.div

def pow : Value → Value → Result Value := arith "** or pow()" Num.pow

def bitwise (f : Int → Int → Int) (g : Bool → Bool → Bool) (a b : Value) : Result Value :=
  match a, b with
  | .bool x, .bool y => .ok (.bool (g x y))
  | a, b =>
    match a.integer?, b.integer? with
    | some m, some n => .ok (.int (f m n))
    | _, _ => .error (.operands op a.className b.className)

def intAnd (m n : Int) : Int :=
  match m, n with
  | .ofNat a, .ofNat b => ((a &&& b : Nat) : Int)
  | .ofNat a, .negSucc b => ((a - (a &&& b) : Nat) : Int)
  | .negSucc a, .ofNat b => ((b - (a &&& b) : Nat) : Int)
  | .negSucc a, .negSucc b => .negSucc (a ||| b)

def intOr (m n : Int) : Int := -(intAnd (-m - 1) (-n - 1)) - 1

def intXor (m n : Int) : Int := intOr m n - intAnd m n

def bitAnd : Value → Value → Result Value := bitwise "&" intAnd (· && ·)

def bitOr (a b : Value) : Result Value :=
  match a, b with
  | .dict x, .dict y => .ok (.dict (y.foldl (fun acc (k, v) => insert acc k v) x))
  | a, b => bitwise "|" intOr (· || ·) a b

def shift (f : Int → Nat → Int) (a b : Value) : Result Value :=
  match a.integer?, b.integer? with
  | some m, some n => if n < 0 then .error .negativeShift else .ok (.int (f m n.toNat))
  | _, _ => .error (.operands op a.className b.className)

def shiftLeft : Value → Value → Result Value := shift "<<" fun m n => m * twoPow n
def shiftRight : Value → Value → Result Value := shift ">>" fun m n => Int.fdiv m (twoPow n)

def neg (a : Value) : Result Value :=
  match a.num? with
  | some x => .ok x.neg.toValue
  | _ => .error (.sign "-" a.className)

def abs (a : Value) : Result Value :=
  match a.num? with
  | some x => .ok x.abs.toValue
  | _ => .error (.magnitude a.className)

inductive Relation where
  | lt | le | gt | ge
deriving DecidableEq, Repr

def Relation.sign : Relation → String
  | .lt => "<"
  | .le => "<="
  | .gt => ">"
  | .ge => ">="

def Relation.ofNums : Relation → Num → Num → Bool
  | .lt, a, b => a.less b
  | .le, a, b => a.atMost b
  | .gt, a, b => b.less a
  | .ge, a, b => b.atMost a

def Relation.ofOrdering : Relation → Ordering → Bool
  | .lt, o => o == .lt
  | .le, o => o != .gt
  | .gt, o => o == .gt
  | .ge, o => o != .lt

mutual

def compare (r : Relation) : Value → Value → Result Bool
  | .str a, .str b => .ok (r.ofOrdering (Ord.compare a b))
  | .list a, .list b => compareItems r a b
  | .tuple a, .tuple b => compareItems r a b
  | a, b =>
    match a.num?, b.num? with
    | some x, some y => .ok (r.ofNums x y)
    | _, _ => .error (.order r.sign a.className b.className)

def compareItems (r : Relation) : List Value → List Value → Result Bool
  | [], [] => .ok (r.ofOrdering .eq)
  | [], _ :: _ => .ok (r.ofOrdering .lt)
  | _ :: _, [] => .ok (r.ofOrdering .gt)
  | x :: xs, y :: ys => if same x y then compareItems r xs ys else compare r x y

end

def less : Value → Value → Result Bool := compare .lt
def greater : Value → Value → Result Bool := compare .gt

def integerIn (base : Nat) (cs : Chars) (shown : String) : Result Int :=
  match Number.readInt base cs with
  | .ok n => .ok n
  | .error .unreadable => .error (.unreadableInteger base shown)
  | .error (.tooLong digits) => .error (.tooManyDigits digits)

def floatIn (cs : Chars) (shown : String) : Result Float :=
  match Number.readFloat? cs with
  | some x => .ok x
  | Option.none => .error (.unreadableFloat shown)

def bytesShown (shown : String) : Chars := (shown.toList.drop 2).dropLast

variable (v : Value)

def toInteger : Result Int :=
  match v with
  | .str s => integerIn 10 s.toList (Quoted.encode s)
  | .object "bytes" shown => integerIn 10 (bytesShown shown) shown
  | v =>
    match v.num? with
    | some x => x.truncate
    | Option.none => .error (.toInteger v.className)

def toFloat : Result Float :=
  match v with
  | .str s => floatIn s.toList (Quoted.encode s)
  | .object "bytes" shown => floatIn (bytesShown shown) shown
  | v =>
    match v.num? with
    | some x => x.toFloat
    | Option.none => .error (.toFloat v.className)

def toReal : Result Float :=
  match v.num? with
  | some x => x.toFloat
  | Option.none => .error (.notReal v.className)

def toIndex : Result Int :=
  match v.integer? with
  | some n => .ok n
  | Option.none => .error (.notInteger v.className)

def itemAt (items : List Value) (sequence : String) (index : Value) : Result Value :=
  match index.integer? with
  | Option.none => .error (.position sequence index.className)
  | some n =>
    let n := if n < 0 then n + items.length else n
    if n < 0 then .error (.indexRange sequence)
    else
      match items[n.toNat]? with
      | some v => .ok v
      | Option.none => .error (.indexRange sequence)

def hashable : Value → Result Unit
  | .list _ => .error (.unhashable "list")
  | .dict _ => .error (.unhashable "dict")
  | .object "set" _ => .error (.unhashable "set")
  | .tuple items => hashableItems items
  | _ => .ok ()
where
  hashableItems : List Value → Result Unit
    | [] => .ok ()
    | x :: rest => do
      hashable x
      hashableItems rest

def subscript (v index : Value) : Result Value :=
  match v with
  | .list items => itemAt items "list" index
  | .tuple items => itemAt items "tuple" index
  | .str s =>
    match index.integer? with
    | Option.none => .error (.position "string" index.className)
    | some _ => itemAt (s.toList.map fun c => .str (String.ofList [c])) "string" index
  | .range a b c => itemAt (rangeItems a b c) "range object" index
  | .dict entries => do
    index.hashable
    match lookup? entries index with
    | some x => return x
    | Option.none => throw (.missingKey index)
  | v => .error (.notIndexable v.className)

def replace (v index x : Value) : Result Value :=
  match v with
  | .list items =>
    match index.integer? with
    | Option.none => .error (.position "list" index.className)
    | some n =>
      let n := if n < 0 then n + items.length else n
      if 0 ≤ n ∧ n < items.length then .ok (.list (items.set n.toNat x))
      else .error .assignmentRange
  | .dict entries => do
    index.hashable
    return .dict (insert entries index x)
  | v => .error (.wrongType ("'" ++ v.className ++ "' object does not support item assignment"))

def store (v : Value) (path : List Value) (x : Value) : Result Value :=
  match path with
  | [] => .ok x
  | [index] => v.replace index x
  | index :: rest => do
    let inner ← (← v.subscript index).store rest x
    v.replace index inner

def items (v : Value) : Result (List Value) :=
  match v with
  | .str s => .ok (s.toList.map fun c => .str (String.ofList [c]))
  | .list items | .tuple items => .ok items
  | .dict entries => .ok (entries.map Prod.fst)
  | .range a b c => .ok (rangeItems a b c)
  | v => .error (.notIterable v.className)

def occursIn (part whole : Chars) : Bool := Text.occurs part whole

def contains (v x : Value) : Result Bool :=
  match v with
  | .str s =>
    match x with
    | .str t => .ok (occursIn t.toList s.toList)
    | x => .error (.textMember x.className)
  | .list items | .tuple items => .ok (items.any (same · x))
  | .dict entries => do
    x.hashable
    return (lookup? entries x).isSome
  | .range a b c =>
    match x.integer? with
    | some n =>
      let place := if c = 0 then 0 else (n - a) / c
      .ok (0 ≤ place && place < rangeLength a b c && a + place * c == n)
    | Option.none => .ok ((rangeItems a b c).any (same · x))
  | v => .error (.notContainer v.className)

end Value

end Rover
