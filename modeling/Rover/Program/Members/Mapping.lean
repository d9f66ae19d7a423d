import Rover.Program.Builtins

/-!
# Members of dictionaries and sets

The functions that belong to a dictionary, to what shows a part of it, and to a set.
-/

namespace Rover.Program

namespace MappingMember

open Slots

def names : List String := ["clear", "copy", "fromkeys", "get", "items", "keys", "pop", "popitem",
  "setdefault", "update", "values"]

def ofKeys (g : Given) : Job Item := do
  let keys :: value ← g.between "dict.fromkeys" "fromkeys" 1 2 | return .none
  let it ← Job.iter keys
  let es ← Job.fold (fun es k => do
    return (← Item.insertChecked es k (value.headD .none), true)) [] it
  made (ofEntries es)

def call (es : Entries) (name : String) (g : Given) : Job Item := do
  let function := "dict." ++ name
  match name with
  | "clear" =>
    g.nothing function
    return .none
  | "copy" =>
    g.nothing function
    made (ofEntries es)
  | "fromkeys" => ofKeys g
  | "get" | "setdefault" =>
    let key :: default ← g.between function name 1 2 | return .none
    key.hashable
    return (Item.lookup? es key).getD (default.headD .none)
  | "items" =>
    g.nothing function
    return .view .items es
  | "keys" =>
    g.nothing function
    return .view .keys es
  | "values" =>
    g.nothing function
    return .view .values es
  | "pop" =>
    let key :: default ← g.between function name 1 2 | return .none
    if es.isEmpty && !default.isEmpty then return default.headD .none
    if !es.isEmpty then key.hashable
    match Item.lookup? es key, default with
    | some i, _ => return i
    | none, i :: _ => return i
    | none, [] => .fail (.missingKey key.toValue)
  | "popitem" =>
    g.nothing function
    match es.getLast? with
    | some (k, v) => made (ofTuple [k, v])
    | none => .fail (.missingKey (.str "popitem(): dictionary is empty"))
  | _ =>
    Given.count g.positional name 0 1
    match g.positional with
    | [i] =>
      let _ ← Builtin.entriesOf i
      return .none
    | _ => return .none

def viewNames : List String := ["isdisjoint"]

def disjoint (contains : Item → Result Bool) (other : Item) : Job Item := do
  let it ← Job.iter other
  let common ← Job.fold (fun _ x => do
    let found ← contains x
    return (found, !found)) false it
  return .bool !common

def callView (facet : Facet) (es : Entries) (g : Given) : Job Item := do
  let kind := (Item.view facet es).className
  let other ← g.single (kind ++ ".isdisjoint")
  disjoint (Item.contains (.view facet es)) other

def setNames : List String := ["add", "clear", "copy", "difference", "difference_update",
  "discard", "intersection", "intersection_update", "isdisjoint", "issubset", "issuperset", "pop",
  "remove", "symmetric_difference", "symmetric_difference_update", "union", "update"]

def slotsOf (i : Item) : Job Slots := do
  match i with
  | .set _ slots => return slots
  | i =>
    let it ← Job.iter i
    let items ← Job.fold (fun items x => do
      x.hashable
      return (x :: items, true)) [] it
    return ofItems items.reverse

def combined (op : Slots → Slots → Slots) (slots : Slots) : List Item → Job Slots
  | [] => .done slots
  | i :: rest => do
    let other ← slotsOf i
    combined op (op slots other) rest

def setOperation? (name : String) : Option (Slots → Slots → Slots) :=
  match name with
  | "difference" | "difference_update" => some diff
  | "intersection" | "intersection_update" => some inter
  | "union" | "update" => some merge
  | _ => none

def callSet (slots : Slots) (name : String) (g : Given) : Job Item := do
  let function := "set." ++ name
  let changes := name.endsWith "update"
  match setOperation? name with
  | some op =>
    let result ← combined op (copy slots) (← g.unnamed name)
    if changes then return .none
    return ← made (.set .unborn result)
  | none => pure ()
  match name with
  | "add" =>
    (← g.single function).hashable
    return .none
  | "clear" =>
    g.nothing function
    return .none
  | "copy" =>
    g.nothing function
    made (.set .unborn (copy slots))
  | "discard" | "remove" =>
    let x ← g.single function
    match x with
    | .set .. => pure ()
    | x => x.hashable
    if name == "discard" || slots.contains x then return .none
    .fail (.missingKey x.toValue)
  | "isdisjoint" =>
    let contains (x : Item) : Result Bool := do
      x.hashable
      return contains slots x
    disjoint contains (← g.single function)
  | "issubset" =>
    let other ← slotsOf (← g.single function)
    return .bool ((Item.filled slots).all other.contains)
  | "issuperset" =>
    let other ← slotsOf (← g.single function)
    return .bool ((Item.filled other).all slots.contains)
  | "pop" =>
    g.nothing function
    match Item.filled slots with
    | x :: _ => return x
    | [] => .fail (.missingKey (.str "pop from an empty set"))
  | _ =>
    let other ← slotsOf (← g.single function)
    if changes then return .none
    made (.set .unborn (symmDiff slots other))

end MappingMember

end Rover.Program
