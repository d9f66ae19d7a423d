import Rover.Program.Members.Text

/-!
# Members of lists, tuples and ranges

The functions that belong to a sequence.
-/

namespace Rover.Program

namespace SequenceMember

def listNames : List String := ["append", "clear", "copy", "count", "extend", "index", "insert",
  "pop", "remove", "reverse", "sort"]

def names : List String := ["count", "index"]

variable (items : List Item)

def countOf (x : Item) : Item :=
  ofNat (items.filter fun y => y.alike x).length

def border (i : Item) : Result Int :=
  match i.integer? with
  | some n => .ok n
  | none => wrongType "slice indices must be integers or have an __index__ method"

def place? (x : Item) (start stop : Int) : Option Nat :=
  let (a, b) := partBorders start stop items.length
  ((items.take b.toNat).drop a.toNat).findIdx? (fun y => y.alike x) |>.map (a.toNat + ·)

def indexOf (kind : String) (items : List Item) (g : Given)
    (absent : Item → Result String) : Result Item := do
  let (x, start, stop) ← match ← g.between (kind ++ ".index") "index" 1 3 with
    | [x] => pure (x, 0, (Item.indexBound : Int))
    | [x, a] => do pure (x, ← border a, (Item.indexBound : Int))
    | [x, a, b] => do pure (x, ← border a, ← border b)
    | _ => pure (Item.none, 0, 0)
  match place? items x start stop with
  | some n => return ofNat n
  | none => unfit (← absent x)

def pop (g : Given) : Result Item := do
  let n ← match ← g.between "list.pop" "pop" 0 1 with
    | [i] => i.sizeIndex
    | _ => pure (-1)
  if items.isEmpty then throw (.noElement "pop from empty list")
  let n := if n < 0 then n + items.length else n
  match if n < 0 then none else items[n.toNat]? with
  | some i => return i
  | none => throw (.noElement "pop index out of range")

def callList (name : String) (g : Given) : Job Item := do
  let function := "list." ++ name
  match name with
  | "append" =>
    let _ ← g.single function
    return .none
  | "clear" | "reverse" =>
    g.nothing function
    return .none
  | "copy" =>
    g.nothing function
    made (ofList items)
  | "count" => made (countOf items (← g.single function))
  | "extend" =>
    let _ ← Job.elements (← g.single function)
    return .none
  | "index" =>
    let absent (x : Item) : Result String := do return (← x.repr) ++ " is not in list"
    made (← indexOf "list" items g absent)
  | "insert" =>
    let [i, _] ← g.between function name 2 2 | return .none
    let _ ← i.sizeIndex
    return .none
  | "pop" => Job.ofExcept (pop items g)
  | "remove" =>
    let x ← g.single function
    if items.any fun y => y.alike x then return .none
    .fail (.unfit "list.remove(x): x not in list")
  | _ =>
    let (key, falling) ← Builtin.sortingOrder g
    let _ ← Builtin.inOrder items key falling
    return .none

def callTuple (name : String) (g : Given) : Result Item := do
  match name with
  | "count" => return countOf items (← g.single "tuple.count")
  | _ => indexOf "tuple" items g fun _ => .ok "tuple.index(x): x not in tuple"

def callRange (start stop step : Int) (name : String) (g : Given) : Result Item := do
  let x ← g.single ("range." ++ name)
  let inside ← Item.contains (.range .value start stop step) x
  match name with
  | "count" => return ofNat (if inside then 1 else 0)
  | _ =>
    let whole? : Option Int := x.integer?.or do
      let z ← (← x.complex?).toOption
      return (← Binary.ofFloat? z.re).truncate
    match inside, whole? with
    | true, some n => return ofInt ((n - start) / step)
    | _, _ =>
      if x.integer?.isSome then unfit ((← x.repr) ++ " is not in range")
      unfit "sequence.index(x): x not in sequence"

def ofRange? (start stop step : Int) (name : String) : Option Item :=
  match name with
  | "start" => some (ofInt start)
  | "stop" => some (ofInt stop)
  | "step" => some (ofInt step)
  | _ => none

end SequenceMember

end Rover.Program
