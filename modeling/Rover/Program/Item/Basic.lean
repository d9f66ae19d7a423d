import Rover.Fault
import Rover.Number.Complex
import Rover.Program.Builtin

/-!
# Items

What the names of a running program stand for.
-/

namespace Rover.Program

def unfit {α : Type} (reason : String) : Result α := .error (.unfit reason)
def wrongType {α : Type} (reason : String) : Result α := .error (.wrongType reason)

inductive Origin where
  | value
  | unborn
  | made (number : Nat)
deriving DecidableEq, Repr

inductive Facet where
  | keys | values | items
deriving DecidableEq, Repr

inductive Item where
  | none
  | bool (b : Bool)
  | int (o : Origin) (n : Int)
  | float (o : Origin) (x : Float)
  | complex (o : Origin) (z : Complex)
  | str (o : Origin) (s : String)
  | bytes (o : Origin) (bs : List Nat)
  | list (o : Origin) (items : List Item)
  | tuple (o : Origin) (items : List Item)
  | dict (o : Origin) (entries : List (Item × Item))
  | set (o : Origin) (slots : List (Option Item))
  | range (o : Origin) (start stop step : Int)
  | view (facet : Facet) (entries : List (Item × Item))
  | builtin (b : Builtin)
  | command (name : String)
  | library (l : Library)
  | routine (l : Library) (name : String)
  | method (receiver : Item) (name : String)
  | union (classes : List Item)
  | notImplemented
  | ellipsis
  | clock
  | sleeper
  | collector
  | function (id : Nat)
  | iterator (className : String) (id : Nat)
  | thread (target : Item) (positional : List Item) (named : List (String × Item))
  | thing (className : String)
deriving Inhabited

abbrev Entries := List (Item × Item)
abbrev Named := List (String × Item)

namespace Item

def ofInt (n : Int) : Item := .int (if -5 ≤ n ∧ n ≤ 256 then .value else .unborn) n

def ofNat (n : Nat) : Item := ofInt n

def ofFloat (x : Float) : Item := .float .unborn x

def ofComplex (z : Complex) : Item := .complex .unborn z

def ofChars (cs : Chars) : Item :=
  .str (match cs with
    | [] => .value
    | [c] => if c.toNat < 256 then .value else .unborn
    | _ => .unborn) (String.ofList cs)

def ofString (s : String) : Item := ofChars s.toList

def ofBytes (bs : List Nat) : Item := .bytes (if bs.length ≤ 1 then .value else .unborn) bs

def ofList (items : List Item) : Item := .list .unborn items

def ofTuple (items : List Item) : Item := .tuple (if items.isEmpty then .value else .unborn) items

def ofEntries (entries : Entries) : Item := .dict .unborn entries

def ofNum : Num → Item
  | .int n => ofInt n
  | .float x => ofFloat x

def record (fields : Named) : Item :=
  ofEntries (fields.map fun (k, v) => (ofString k, v))

mutual

def settle (n : Nat) : Item → Item × Nat
  | .int .unborn i => (.int (.made n) i, n + 1)
  | .float .unborn x => (.float (.made n) x, n + 1)
  | .complex .unborn z => (.complex (.made n) z, n + 1)
  | .str .unborn s => (.str (.made n) s, n + 1)
  | .bytes .unborn bs => (.bytes (.made n) bs, n + 1)
  | .range .unborn a b c => (.range (.made n) a b c, n + 1)
  | .list .unborn items =>
    let (items, next) := settleItems (n + 1) items
    (.list (.made n) items, next)
  | .tuple .unborn items =>
    let (items, next) := settleItems (n + 1) items
    (.tuple (.made n) items, next)
  | .dict .unborn entries =>
    let (entries, next) := settleEntries (n + 1) entries
    (.dict (.made n) entries, next)
  | .set .unborn slots =>
    let (slots, next) := settleSlots (n + 1) slots
    (.set (.made n) slots, next)
  | i => (i, n)

def settleItems (n : Nat) : List Item → List Item × Nat
  | [] => ([], n)
  | i :: rest =>
    let (i, n) := settle n i
    let (rest, n) := settleItems n rest
    (i :: rest, n)

def settleEntries (n : Nat) : Entries → Entries × Nat
  | [] => ([], n)
  | (k, v) :: rest =>
    let (k, n) := settle n k
    let (v, n) := settle n v
    let (rest, n) := settleEntries n rest
    ((k, v) :: rest, n)

def settleSlots (n : Nat) : List (Option Item) → List (Option Item) × Nat
  | [] => ([], n)
  | Option.none :: rest =>
    let (rest, n) := settleSlots n rest
    (Option.none :: rest, n)
  | some i :: rest =>
    let (i, n) := settle n i
    let (rest, n) := settleSlots n rest
    (some i :: rest, n)

end

def isUnborn : Item → Bool
  | .int .unborn _ | .float .unborn _ | .complex .unborn _ | .str .unborn _ | .bytes .unborn _
  | .list .unborn _ | .tuple .unborn _ | .dict .unborn _ | .set .unborn _
  | .range .unborn _ _ _ => true
  | _ => false

def methodClass (receiver : Item) (name : String) : String :=
  match receiver with
  | .builtin _ =>
    if name == "fromkeys" || name == "from_bytes" || name == "fromhex" || name == "maketrans" then
      "builtin_function_or_method"
    else "method_descriptor"
  | .thread .. | .thing _ => "method"
  | _ => "builtin_function_or_method"

def routineClass (l : Library) (name : String) : String :=
  match l with
  | .math => "builtin_function_or_method"
  | .random => if name == "random" || name == "getrandbits" then "builtin_function_or_method"
      else "method"
  | .threading =>
    if name == "Lock" then "builtin_function_or_method"
    else if name.front.isUpper && name != "RLock" then "type"
    else "function"

def className : Item → String
  | .none => "NoneType"
  | .bool _ => "bool"
  | .int .. => "int"
  | .float .. => "float"
  | .complex .. => "complex"
  | .str .. => "str"
  | .bytes .. => "bytes"
  | .list .. => "list"
  | .tuple .. => "tuple"
  | .dict .. => "dict"
  | .set .. => "set"
  | .range .. => "range"
  | .view .keys _ => "dict_keys"
  | .view .values _ => "dict_values"
  | .view .items _ => "dict_items"
  | .builtin b => b.className
  | .command _ => "function"
  | .library _ => "module"
  | .routine l name => routineClass l name
  | .method receiver name => methodClass receiver name
  | .union _ => "types.UnionType"
  | .notImplemented => "NotImplementedType"
  | .ellipsis => "ellipsis"
  | .clock => "Time"
  | .sleeper => "method"
  | .collector => "_PrintCollectorWithLog"
  | .function _ => "function"
  | .iterator name _ => name
  | .thread .. => "Thread"
  | .thing name => name

def classWord : Item → String
  | .none => "None"
  | i => i.className

def num? : Item → Option Num
  | .bool b => some (.int (if b then 1 else 0))
  | .int _ n => some (.int n)
  | .float _ x => some (.float x)
  | _ => Option.none

def integer? : Item → Option Int
  | .bool b => some (if b then 1 else 0)
  | .int _ n => some n
  | _ => Option.none

def filled (slots : List (Option Item)) : List Item := slots.filterMap id

def truth : Item → Bool
  | .none => false
  | .bool b => b
  | .int _ n => n != 0
  | .float _ x => x != 0
  | .complex _ z => z.nonzero
  | .str _ s => !s.isEmpty
  | .bytes _ bs => !bs.isEmpty
  | .list _ items | .tuple _ items => !items.isEmpty
  | .dict _ entries | .view _ entries => !entries.isEmpty
  | .set _ slots => slots.any Option.isSome
  | .range _ a b c => Value.rangeLength a b c != 0
  | _ => true

def sameOne (o o' : Origin) (agree : Bool) : Bool :=
  match o, o' with
  | .value, .value => agree
  | .made n, .made m => n == m
  | _, _ => false

mutual

def identical : Item → Item → Bool
  | .none, .none => true
  | .bool a, .bool b => a == b
  | .int o a, .int o' b => sameOne o o' (a == b)
  | .float o a, .float o' b => sameOne o o' (a.toBits == b.toBits)
  | .complex o a, .complex o' b =>
    sameOne o o' (a.re.toBits == b.re.toBits && a.im.toBits == b.im.toBits)
  | .str o a, .str o' b => sameOne o o' (a == b)
  | .bytes o a, .bytes o' b => sameOne o o' (a == b)
  | .list o _, .list o' _ => sameOne o o' false
  | .tuple o a, .tuple o' b => sameOne o o' (identicalItems a b)
  | .dict o _, .dict o' _ => sameOne o o' false
  | .set o _, .set o' _ => sameOne o o' false
  | .range o .., .range o' .. => sameOne o o' false
  | .builtin a, .builtin b => a == b
  | .command a, .command b => a == b
  | .library a, .library b => a == b
  | .routine l a, .routine m b => l == m && a == b
  | .notImplemented, .notImplemented => true
  | .ellipsis, .ellipsis => true
  | .clock, .clock => true
  | .function i, .function j => i == j
  | .iterator _ i, .iterator _ j => i == j
  | _, _ => false

def identicalItems : List Item → List Item → Bool
  | [], [] => true
  | a :: as, b :: bs => identical a b && identicalItems as bs
  | _, _ => false

end

end Item

export Item (ofEntries ofFloat ofInt ofList ofNat ofTuple)

end Rover.Program
