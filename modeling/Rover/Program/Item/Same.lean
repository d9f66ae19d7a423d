import Rover.Program.Item.Basic
import Rover.Value.Arith

/-!
# Equality and order of items

Numbers are equal by value whatever their kind, sequences element by element and only with sequences
of the same class, dictionaries and sets without regard to order.
-/

namespace Rover.Program.Item

def sameReal (z : Complex) (x : Num) : Bool :=
  z.im == 0 && (Num.float z.re).same x

def sameNumber (a b : Item) : Bool :=
  match a, b with
  | .complex _ z, .complex _ w => z.same w
  | .complex _ z, b => (b.num?.map (sameReal z)).getD false
  | a, .complex _ w => (a.num?.map (sameReal w)).getD false
  | a, b =>
    match a.num?, b.num? with
    | some x, some y => x.same y
    | _, _ => false

def sameRange (a b c a' b' c' : Int) : Bool :=
  let n := Value.rangeLength a b c
  n == Value.rangeLength a' b' c' && (n == 0 || (a == a' && (n == 1 || c == c')))

def isNumber : Item → Bool
  | .float .. | .complex .. => true
  | _ => false

mutual

def same : Item → Item → Bool
  | .str _ a, .str _ b => a == b
  | .bytes _ a, .bytes _ b => a == b
  | .list _ a, .list _ b => sameItems a b
  | .tuple _ a, .tuple _ b => sameItems a b
  | .dict _ a, .dict _ b => a.length == b.length && sameEntries a b
  | .set _ a, .set _ b => (filled a).length == (filled b).length && sameSlots a (filled b)
  | .set _ a, .view .keys b => (filled a).length == b.length && sameSlots a (b.map Prod.fst)
  | .view .keys a, .set _ b => a.length == (filled b).length && sameKeys a (filled b)
  | .view .keys a, .view .keys b => a.length == b.length && sameKeys a (b.map Prod.fst)
  | .view .items a, .view .items b => a.length == b.length && sameEntries a b
  | .range _ a b c, .range _ a' b' c' => sameRange a b c a' b' c'
  | .union a, .union b => sameItems a b
  | a, b => sameNumber a b || identical a b && !isNumber a

def sameItems : List Item → List Item → Bool
  | [], [] => true
  | x :: xs, y :: ys => (identical x y || same x y) && sameItems xs ys
  | _, _ => false

def sameEntries : Entries → Entries → Bool
  | [], _ => true
  | (k, v) :: rest, b =>
    b.any (fun (k', v') => (identical k k' || same k k') && (identical v v' || same v v'))
      && sameEntries rest b

def sameKeys : Entries → List Item → Bool
  | [], _ => true
  | (k, _) :: rest, b => b.any (fun x => identical k x || same k x) && sameKeys rest b

def sameSlots : List (Option Item) → List Item → Bool
  | [], _ => true
  | Option.none :: rest, b => sameSlots rest b
  | some a :: rest, b => b.any (fun x => identical a x || same a x) && sameSlots rest b

end

def alike (a b : Item) : Bool := identical a b || same a b

def elements? : Item → Option (List Item)
  | .set _ slots => some (filled slots)
  | .view .keys entries => some (entries.map Prod.fst)
  | .view .items entries => some (entries.map fun (k, v) => ofTuple [k, v])
  | _ => Option.none

def within (a b : List Item) : Bool := a.all fun x => b.any (alike x)

def compareSets (r : Value.Relation) (a b : List Item) : Bool :=
  match r with
  | .lt => a.length < b.length && within a b
  | .le => within a b
  | .gt => b.length < a.length && within b a
  | .ge => within b a

mutual

def compare (r : Value.Relation) : Item → Item → Result Bool
  | .str _ a, .str _ b => .ok (r.ofOrdering (Ord.compare a b))
  | .bytes _ a, .bytes _ b => .ok (r.ofOrdering (Ord.compare a b))
  | .list _ a, .list _ b => compareItems r a b
  | .tuple _ a, .tuple _ b => compareItems r a b
  | a, b =>
    match a.num?, b.num?, elements? a, elements? b with
    | some x, some y, _, _ => .ok (r.ofNums x y)
    | _, _, some x, some y => .ok (compareSets r x y)
    | _, _, _, _ => .error (.order r.sign a.className b.className)

def compareItems (r : Value.Relation) : List Item → List Item → Result Bool
  | [], [] => .ok (r.ofOrdering .eq)
  | [], _ :: _ => .ok (r.ofOrdering .lt)
  | _ :: _, [] => .ok (r.ofOrdering .gt)
  | x :: xs, y :: ys => if alike x y then compareItems r xs ys else compare r x y

end

def less : Item → Item → Result Bool := compare .lt
def greater : Item → Item → Result Bool := compare .gt

mutual

def hashable : Item → Result Unit
  | .list .. => .error (.unhashable "list")
  | .dict .. => .error (.unhashable "dict")
  | .set .. => .error (.unhashable "set")
  | .view .keys _ => .error (.unhashable "dict_keys")
  | .view .items _ => .error (.unhashable "dict_items")
  | .tuple _ items => hashableItems items
  | _ => .ok ()

def hashableItems : List Item → Result Unit
  | [] => .ok ()
  | x :: rest => do
    hashable x
    hashableItems rest

end

variable (entries : Entries)

def lookup? (key : Item) : Option Item :=
  (entries.find? fun (k, _) => alike k key).map Prod.snd

def insert (key value : Item) : Entries :=
  if entries.any (fun (k, _) => alike k key) then
    entries.map fun (k, v) => if alike k key then (k, value) else (k, v)
  else entries ++ [(key, value)]

def insertChecked (key value : Item) : Result Entries := do
  key.hashable
  return insert entries key value

end Rover.Program.Item
