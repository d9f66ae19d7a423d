import Rover.Number.Text

/-!
# Values

Requests from the cloud, remote calls and user programs hand values of any kind to the vehicle.
-/

namespace Rover

/-- Data of any kind. A dictionary keeps its entries in the order of insertion. Of any other
thing only the name of its class and how it is shown are known. -/
inductive Value where
  | none
  | bool (b : Bool)
  | int (n : Int)
  | float (x : Float)
  | str (s : String)
  | list (items : List Value)
  | tuple (items : List Value)
  | dict (entries : List (Value × Value))
  | range (start stop step : Int)
  | object (className shown : String)
deriving Inhabited

abbrev Entries := List (Value × Value)
abbrev Record := List (String × Value)

inductive Num where
  | int (n : Int)
  | float (x : Float)
deriving Inhabited

namespace Value

def className : Value → String
  | .none => "NoneType"
  | .bool _ => "bool"
  | .int _ => "int"
  | .float _ => "float"
  | .str _ => "str"
  | .list _ => "list"
  | .tuple _ => "tuple"
  | .dict _ => "dict"
  | .range .. => "range"
  | .object name _ => name

def num? : Value → Option Num
  | .bool b => some (.int (if b then 1 else 0))
  | .int n => some (.int n)
  | .float x => some (.float x)
  | _ => Option.none

def integer? : Value → Option Int
  | .bool b => some (if b then 1 else 0)
  | .int n => some n
  | _ => Option.none

def rangeLength (start stop step : Int) : Nat :=
  if 0 < step then
    if start < stop then ((stop - start - 1) / step + 1).toNat else 0
  else if step < 0 then
    if stop < start then ((start - stop - 1) / (-step) + 1).toNat else 0
  else 0

def rangeItems (start stop step : Int) : List Value :=
  (List.range (rangeLength start stop step)).map fun (i : Nat) => .int (start + step * (i : Int))

def truth : Value → Bool
  | .none => false
  | .bool b => b
  | .int n => n != 0
  | .float x => x != 0
  | .str s => !s.isEmpty
  | .list items => !items.isEmpty
  | .tuple items => !items.isEmpty
  | .dict entries => !entries.isEmpty
  | .range a b c => rangeLength a b c != 0
  | .object .. => true

end Value

namespace Num

def toValue : Num → Value
  | .int n => .int n
  | .float x => .float x

def same : Num → Num → Bool
  | .int a, .int b => a == b
  | .int a, .float b => compareInt a b == some .eq
  | .float a, .int b => compareInt b a == some .eq
  | .float a, .float b => a == b

def less : Num → Num → Bool
  | .int a, .int b => a < b
  | .int a, .float b => compareInt a b == some .lt
  | .float a, .int b => compareInt b a == some .gt
  | .float a, .float b => a < b

def atMost (a b : Num) : Bool := less a b || same a b

end Num

namespace Value

mutual

def same : Value → Value → Bool
  | .none, .none => true
  | .str a, .str b => a == b
  | .list a, .list b => sameItems a b
  | .tuple a, .tuple b => sameItems a b
  | .dict a, .dict b => a.length == b.length && sameEntries a b
  | .range a b c, .range a' b' c' =>
    let n := rangeLength a b c
    n == rangeLength a' b' c' && (n == 0 || (a == a' && (n == 1 || c == c')))
  | .object a s, .object b t => a == b && s == t
  | a, b =>
    match a.num?, b.num? with
    | some x, some y => x.same y
    | _, _ => false

def sameItems : List Value → List Value → Bool
  | [], [] => true
  | x :: xs, y :: ys => same x y && sameItems xs ys
  | _, _ => false

def sameEntries : Entries → Entries → Bool
  | [], _ => true
  | e :: rest, b => entryIn e b && sameEntries rest b

def entryIn : Value × Value → Entries → Bool
  | (k, v), b => b.any (fun (k', v') => same k k' && same v v')

end

def lookup? (entries : Entries) (key : Value) : Option Value :=
  (entries.find? fun (k, _) => same k key).map Prod.snd

def field? (v : Value) (key : String) : Option Value :=
  match v with
  | .dict entries => lookup? entries (.str key)
  | _ => Option.none

def insert (entries : Entries) (key value : Value) : Entries :=
  if entries.any (fun (k, _) => same k key) then
    entries.map fun (k, v) => if same k key then (k, value) else (k, v)
  else entries ++ [(key, value)]

def record (fields : Record) : Value :=
  .dict (fields.map fun (k, v) => (.str k, v))

end Value

export Value (record)

end Rover
