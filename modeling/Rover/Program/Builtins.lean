import Rover.Program.Given
import Rover.Program.Iterate
import Rover.Program.Rounding
import Rover.Program.Sorting

/-!
# Built-in functions

The functions and classes that every program has: conversions, questions about sequences, and
iterations.
-/

namespace Rover.Program

namespace Item

def newText (s : String) : Item := .str (if s.isEmpty then .value else .unborn) s

def belongs (i : Item) (b : Builtin) : Bool :=
  i.className == b.name || (b == .int && i.className == "bool")

def asText (i : Item) : Result Item :=
  match i with
  | .str .. => .ok i
  | i => do return newText (← i.text)

def smallWord (i : Item) : Result Int := do
  let n ← i.toIndex
  if n < -(twoPow 31 : Int) ∨ (twoPow 31 : Int) ≤ n then
    throw (.beyondRange "Python int too large to convert to C int")
  return n

end Item

export Item (newText)

def Given.word (g : Given) (function parameter : String) (usual : Int) : Result Int := do
  let [some i] ← g.flexible function [parameter] 0 1 | return usual
  i.smallWord

namespace Builtin

open Job (iter next? fold elements call refuse)

def anyOfUnion (test : Item → Result Bool) (classes : List Item) : Result Bool := classes.anyM test

mutual

def anyClass (reason : Fault) (test : Item → Result Bool) : Item → Result Bool
  | .tuple _ items => anyClassOf reason test items
  | .union classes => anyOfUnion test classes
  | .builtin b => if b.isClass then test (.builtin b) else .error reason
  | _ => .error reason

def anyClassOf (reason : Fault) (test : Item → Result Bool) : List Item → Result Bool
  | [] => .ok false
  | c :: rest => do
    if ← anyClass reason test c then return true
    anyClassOf reason test rest

end

def isInstance (i c : Item) : Bool :=
  match c with
  | .builtin b => i.belongs b
  | .none => i.className == "NoneType"
  | _ => false

def instanceOf (i c : Item) : Result Bool :=
  anyClass (.wrongType "isinstance() arg 2 must be a type, a tuple of types, or a union")
    (fun c => .ok (isInstance i c)) c

def subclassOf (i c : Item) : Result Bool :=
  let class? : Option Builtin := match i with
    | .builtin b => if b.isClass then some b else none
    | _ => none
  match class? with
  | some b =>
    anyClass (.wrongType "issubclass() arg 2 must be a class, a tuple of classes, or a union")
      (fun c => .ok (match c with
        | .builtin d => b == d || (b == .bool && d == .int)
        | _ => false)) c
  | none =>
    let wrong : Fault := .wrongType "issubclass() arg 1 must be a class"
    anyClass wrong (fun _ => .error wrong) c

variable (g : Given)

def toInt : Result Item := do
  match ← g.flexible "int" ["", "base"] 0 2 with
  | [none, none] => return .int .value 0
  | [none, some _] => throw (.arguments "int() missing string argument")
  | [some i, none] =>
    match i with
    | .int .. => return i
    | i => return ofInt (← i.toInteger)
  | [some i, some base] =>
    let n ← base.toIndex
    if n != 0 && (n < 2 || 36 < n) then
      unfit "int() base must be >= 2 and <= 36, or 0"
    return ofInt (← i.toIntegerIn n.toNat)
  | _ => return .none

def toFloat : Result Item := do
  let [i] ← g.between "float" "float" 0 1 | return ofFloat 0
  match i with
  | .float .. => return i
  | i => return ofFloat (← i.toFloat)

def decoded (bs : List Nat) (encoding : String) : Result Item := do
  if bs.isEmpty then return .str .value ""
  let name := String.ofList
    ((encoding.toList.map Char.toLower).filter fun c => c != '-' && c != '_' && c != ' ')
  if ["latin1", "iso88591", "l1", "latin"].contains name then
    return Item.ofChars (bs.map Char.ofNat)
  else if ["ascii", "usascii", "646"].contains name then
    match bs.findIdx? (128 ≤ ·) with
    | some i => unfit ("'ascii' codec can't decode byte 0x" ++ Quoted.hex 2 (bs.getD i 0)
        ++ " in position " ++ natText i ++ ": ordinal not in range(128)")
    | none => return Item.ofChars (bs.map Char.ofNat)
  else if ["utf8", "u8", "utf", "cp65001"].contains name then
    match String.fromUTF8? ⟨(bs.map Nat.toUInt8).toArray⟩ with
    | some s => return Item.ofString s
    | none =>
      let i := (bs.findIdx? (128 ≤ ·)).getD 0
      unfit ("'utf-8' codec can't decode byte 0x" ++ Quoted.hex 2 (bs.getD i 0)
        ++ " in position " ++ natText i ++ ": invalid start byte")
  else unfit ("unknown encoding: " ++ encoding)

def toText : Result Item := do
  match ← g.flexible "str" ["object", "encoding", "errors"] 0 3 with
  | [none, none, none] => return .str .value ""
  | [some i, none, none] => i.asText
  | [object, encoding, errors] =>
    let name ← Given.textOr "utf-8" "str" "encoding" encoding
    let _ ← Given.textOr "" "str" "errors" errors
    match object with
    | none => return .str .value ""
    | some (.bytes _ bs) => decoded bs name
    | some (.str ..) => wrongType "decoding str is not supported"
    | some i => wrongType ("decoding to str: need a bytes-like object, " ++ i.className
        ++ " found")
  | _ => return .none

def toRange : Result Item := do
  let items ← g.unnamed "range"
  match items with
  | [b] => return .range .unborn 0 (← b.toIndex) 1
  | [a, b] => return .range .unborn (← a.toIndex) (← b.toIndex) 1
  | [a, b, c] =>
    let (a, b, c) := (← a.toIndex, ← b.toIndex, ← c.toIndex)
    if c = 0 then throw .rangeStep
    return .range .unborn a b c
  | items =>
    Given.count items "range" 1 3
    return .none

def reversedOf (i : Item) : Job Item := do
  let backwards (kind : String) (items : List Item) : Job Item :=
    Job.request (.iterate kind (.items items.reverse))
  match i with
  | .list _ items => backwards "list_reverseiterator" items
  | .tuple _ items => backwards "reversed" items
  | .str .. | .bytes .. => backwards "reversed" (← i.items)
  | .dict .. | .view .keys _ => backwards "dict_reversekeyiterator" (← i.items)
  | .view .values _ => backwards "dict_reversevalueiterator" (← i.items)
  | .view .items _ => backwards "dict_reverseitemiterator" (← i.items)
  | .range _ a b c =>
    let n := Value.rangeLength a b c
    Job.request (.iterate "range_iterator" (.span (a + c * ((n : Int) - 1)) (-c) n))
  | i => .fail (.notReversible i.className)

def present? (i : Item) : Option (List Item) :=
  match i with
  | .iterator .. | .range .. => none
  | i => i.items.toOption

def anyElement (wanted : Bool) (i : Item) : Job Bool := do
  match present? i with
  | some items => return items.any fun x => x.truth == wanted
  | none =>
    let it ← iter i
    fold (fun _ x => return (x.truth == wanted, x.truth != wanted)) false it

def sumOf (i start : Item) : Job Item := do
  let add (a x : Item) : Result Item := Item.binary .add a x
  let checkStart : Result Unit := match start with
    | .str .. => wrongType "sum() can't sum strings [use ''.join(seq) instead]"
    | .bytes .. => wrongType "sum() can't sum bytes [use b''.join(seq) instead]"
    | _ => .ok ()
  match i with
  | .iterator .. =>
    checkStart
    made (← fold (fun acc x => do return (← made (← add acc x), true)) start i)
  | i =>
    let items ← i.items
    checkStart
    let total : Result Item := items.foldlM add start
    made (← total)

def inOrder (items : List Item) (key : Option Item) (falling : Bool) : Job (List Item) := do
  let keyed ← match key with
    | none | some .none => pure (items.map fun i => (i, i))
    | some f => Job.mapList (fun i => do return (← call f [i], i)) items
  let turned (items : Entries) := if falling then items.reverse else items
  let sorted ← Sorting.sort (fun a b => Item.less a.1 b.1) (turned keyed)
  return (turned sorted).map Prod.snd

def sortingOrder : Result (Option Item × Bool) := do
  let [key, reverse] ← g.flexible "sort" ["key", "reverse"] 0 0 | return (none, false)
  let falling ← match reverse with
    | some i => do pure ((← i.smallWord) != 0)
    | none => pure false
  return (key, falling)

def extreme (name : String) (better : Item → Item → Result Bool) (g : Given) : Job Item := do
  if g.positional.isEmpty then refuse (name ++ " expected at least 1 argument, got 0")
  match ← Given.flexible { g with positional := [] } name ["key", "default"] 0 2 with
  | [key, default] =>
    let source ← match g.positional with
      | [i] => pure i
      | items =>
        if default.isSome then refuse ("Cannot specify a default for " ++ name
          ++ "() with multiple positional arguments")
        pure (ofTuple items)
    let keyOf (x : Item) : Job Item := match key with
      | none | some .none => pure x
      | some f => call f [x]
    let it ← iter source
    let best ← fold (fun (best : Option (Item × Item)) x => do
      let k ← keyOf x
      match best with
      | none => return (some (k, x), true)
      | some (k', x') =>
        if ← better k k' then return (some (k, x), true)
        return (some (k', x'), true)) none it
    match best, default with
    | some (_, x), _ => return x
    | none, some d => return d
    | none, none => .fail (.emptySequence name)
  | _ => return .none

def entriesOf (i : Item) : Job Entries := do
  match i with
  | .dict _ es => return es
  | .builtin .dict => refuse "unbound method dict.keys() needs an argument"
  | i =>
    let it ← iter i
    let (_, es) ← fold (fun (acc : Nat × Entries) x => do
      let (n, es) := acc
      let place := "dictionary update sequence element #" ++ natText n
      let parts ← match ← (elements x).attempt with
        | .ok parts => pure parts
        | .error f =>
          if f.kind = .type then .fail (.wrongType ("cannot convert " ++ place ++ " to a sequence"))
          else .fail f
      match parts with
      | [k, v] => return ((n + 1, ← Item.insertChecked es k v), true)
      | _ => .fail (.unfit (place ++ " has length " ++ natText parts.length
          ++ "; 2 is required"))) (0, []) it
    return es

def withNames (es : Entries) (named : Named) : Entries :=
  named.foldl (fun es (n, v) => Item.insert es (.str .value n) v) es

def enumerated : Job Item := do
  let refuseName (n : String) : Job Item :=
    refuse ("'" ++ n ++ "' is an invalid keyword argument for enumerate()")
  let number (i start : Item) : Job Item := do
    let n ← start.toIndex
    Job.request (.iterate "enumerate" (.numbered n (← iter i)))
  let zero : Item := .int .value 0
  match g.positional, g.named with
  | [], [] => refuse "enumerate() missing required argument 'iterable'"
  | [i], [] | [], [("iterable", i)] => number i zero
  | [i, s], [] | [i], [("start", s)] | [], [("iterable", i), ("start", s)]
  | [], [("start", s), ("iterable", i)] => number i s
  | [], [(n, _)] | [_], [(n, _)] => refuseName n
  | [], [("start", _), (n, _)] | [], [("iterable", _), (n, _)] | [], [(n, _), _] => refuseName n
  | items, names => refuse ("enumerate() takes at most 2 arguments ("
      ++ natText (items.length + names.length) ++ " given)")

def run (b : Builtin) (g : Given) : Job Item := do
  match b with
  | .abs => made (← (← g.single "abs").abs)
  | .all => return .bool !(← anyElement false (← g.single "all"))
  | .any => return .bool (← anyElement true (← g.single "any"))
  | .bool =>
    let [i] ← g.between "bool" "bool" 0 1 | return .bool false
    return .bool i.truth
  | .dict =>
    Given.count g.positional "dict" 0 1
    let es ← match g.positional with
      | [i] => entriesOf i
      | _ => pure []
    made (ofEntries (withNames es g.named))
  | .enumerate => enumerated g
  | .filter =>
    let [f, i] ← g.between "filter" "filter" 2 2 | return .none
    Job.request (.iterate "filter" (.filtered f (← iter i)))
  | .float => made (← toFloat g)
  | .int => made (← toInt g)
  | .isinstance =>
    let [i, c] ← g.between "isinstance" "isinstance" 2 2 | return .none
    return .bool (← instanceOf i c)
  | .issubclass =>
    let [i, c] ← g.between "issubclass" "issubclass" 2 2 | return .none
    return .bool (← subclassOf i c)
  | .len => made (Item.ofNat (← (← g.single "len").length))
  | .list =>
    match ← g.between "list" "list" 0 1 with
    | [i] => made (ofList (← elements i))
    | _ => made (ofList [])
  | .map =>
    match ← g.unnamed "map" with
    | f :: i :: rest =>
      Job.request (.iterate "map" (.mapped f (← Job.mapList iter (i :: rest))))
    | _ => refuse "map() must have at least two arguments."
  | .max => extreme "max" Item.greater g
  | .min => extreme "min" Item.less g
  | .pow =>
    let [some x, some y, m] ← g.flexible "pow" ["base", "exp", "mod"] 2 3 | return .none
    made (← x.power y (m.getD .none))
  | .range => made (← toRange g)
  | .reversed =>
    let [i] ← g.between "reversed" "reversed" 1 1 | return .none
    reversedOf i
  | .round =>
    let [some i, places] ← g.flexible "round" ["number", "ndigits"] 1 2 | return .none
    made (← i.rounded places)
  | .sorted =>
    match g.positional with
    | [i] =>
      let items ← elements i
      let (key, falling) ← sortingOrder { g with positional := [] }
      made (ofList (← inOrder items key falling))
    | items =>
      Given.count items "sorted" 1 1
      return .none
  | .str => made (← toText g)
  | .sum =>
    let [some i, start] ← g.flexible "sum" ["", "start"] 1 2 | return .none
    sumOf i (start.getD (.int .value 0))
  | .tuple =>
    match ← g.between "tuple" "tuple" 0 1 with
    | [.tuple o items] => return .tuple o items
    | [i] => made (ofTuple (← elements i))
    | _ => return .tuple .value []
  | .zip =>
    let [strict] ← Given.flexible { g with positional := [] } "zip" ["strict"] 0 1 | return .none
    Job.request (.iterate "zip"
      (.zipped (← Job.mapList iter g.positional) ((strict.map Item.truth).getD false)))

end Builtin

end Rover.Program
