import Rover.Program.Job

/-!
# Iterations

How jobs go through the elements of items: all at once where the elements are there already, one by
one where they are calculated when they are asked for.
-/

namespace Rover.Program.Job

variable {α : Type}

def iteratorClass : Item → String
  | .str .. => "str_iterator"
  | .bytes .. => "bytes_iterator"
  | .list .. => "list_iterator"
  | .tuple .. => "tuple_iterator"
  | .dict .. | .view .keys _ => "dict_keyiterator"
  | .view .values _ => "dict_valueiterator"
  | .view .items _ => "dict_itemiterator"
  | .set .. => "set_iterator"
  | i => i.className

def iter (i : Item) : Job Item :=
  match i with
  | .iterator .. => .done i
  | .range _ a b c =>
    request (.iterate "range_iterator" (.span a c (Value.rangeLength a b c)))
  | i =>
    match i.items with
    | .ok items => request (.iterate (iteratorClass i) (.items items))
    | .error f => .fail f

def next? (it : Item) : Job Reply :=
  match it with
  | .iterator _ id => request? (.next id)
  | _ => .done none

def fold (step : α → Item → Job (α × Bool)) (a : α) (it : Item) : Job α :=
  loop (fun a => do
    match ← next? it with
    | none => return .inr a
    | some x =>
      let (a, more) ← step a x
      return if more then .inl a else .inr a) plenty a

def rest (it : Item) : Job (List Item) := do
  return (← fold (fun acc x => return (x :: acc, true)) [] it).reverse

def elements (i : Item) : Job (List Item) :=
  match i with
  | .iterator .. => rest i
  | .range _ a b c =>
    if Item.sizeBound < Value.rangeLength a b c then .fail .outOfMemory
    else madeAll (Item.rangeItems a b c)
  | i => do madeAll (← i.items)

def upTo (it : Item) : Nat → Job (List Item)
  | 0 => .done []
  | n + 1 => do
    match ← next? it with
    | none => return []
    | some x => return x :: (← upTo it n)

/-! ## Places

The elements of an item are stored into as many places. -/

def iterForPlaces (i : Item) : Job Item := do
  match i with
  | .iterator .. => return i
  | i =>
    match i.items with
    | .ok _ => iter i
    | .error _ => .fail (.notUnpackable i.className)

def unpack (count : Nat) (i : Item) : Job (List Item) := do
  let it ← iterForPlaces i
  let items ← upTo it count
  if items.length < count then .fail (.tooFewElements count items.length)
  if (← next? it).isSome then .fail (.tooManyElements count)
  return items

def unpackAround (before after : Nat) (i : Item) : Job (List Item × List Item × List Item) := do
  let it ← iterForPlaces i
  let first ← upTo it before
  if first.length < before then .fail (.tooFewForPlaces (before + after) first.length)
  let others ← rest it
  if others.length < after then
    .fail (.tooFewForPlaces (before + after) (before + others.length))
  let middle := others.length - after
  return (first, others.take middle, others.drop middle)

def row : List Item → Job (Option (List Item) × Nat)
  | [] => .done (some [], 0)
  | it :: others => do
    match ← next? it with
    | none => return (none, 0)
    | some x =>
      match ← row others with
      | (some xs, n) => return (some (x :: xs), n + 1)
      | (none, n) => return (none, n + 1)

def unequal (n : Nat) (relation : String) : Fault :=
  .unfit ("zip() argument " ++ natText (n + 1) ++ " is " ++ relation ++ " than argument"
    ++ (if n = 1 then " " else "s 1-") ++ natText n)

def allOver : Nat → List Item → Job Unit
  | _, [] => .done ()
  | n, it :: others => do
    if (← next? it).isSome then .fail (unequal n "longer")
    allOver (n + 1) others

def advance (id : Nat) (it : Iteration) : Job Reply :=
  match it with
  | .items _ | .span .. => .done none
  | .mapped f sources => do
    match ← row sources with
    | (some xs, _) => return some (← call f xs)
    | (none, _) => return none
  | .filtered f source =>
    loop (fun (_ : Unit) => do
      match ← next? source with
      | none => return .inr none
      | some x =>
        let kept ← match f with
          | .none => pure x
          | f => call f [x]
        return if kept.truth then .inr (some x) else .inl ()) plenty ()
  | .zipped sources strict => do
    if sources.isEmpty then return none
    match ← row sources with
    | (some xs, _) => return some (← made (ofTuple xs))
    | (none, n) =>
      if strict then
        if 0 < n then .fail (unequal n "shorter")
        allOver 1 (sources.drop 1)
      return none
  | .numbered n source => do
    match ← next? source with
    | none => return none
    | some x =>
      perform (.renew id (.numbered (n + 1) source))
      return some (← made (ofTuple [ofInt n, x]))

end Rover.Program.Job
