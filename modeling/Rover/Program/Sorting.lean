import Rover.Fault

/-!
# Sorting by runs

A sequence is cut into runs that are in order already, short ones are lengthened by insertion, and
neighbouring runs are merged.
-/

namespace Rover.Program.Sorting

variable {α : Type}

abbrev Less (α : Type) := α → α → Result Bool

/-- A run that is in order: where it starts in the whole sequence, its elements, and how deep in the
tree of merges its border with the next run lies. -/
structure Run (α : Type) where
  start : Nat
  items : Array α
  power : Nat := 0

variable (less : Less α)

def runLength (falling : Bool) (last : α) : Nat → List α → Result Nat
  | n, [] => .ok n
  | n, x :: rest => do
    if (← less x last) = falling then runLength falling x (n + 1) rest else return n

def firstRun (items : List α) : Result (Nat × Bool) := do
  match items with
  | a :: b :: rest =>
    let falling ← less b a
    return (← runLength less falling b 2 rest, falling)
  | items => return (items.length, false)

def halve (before : Nat → Result Bool) : Nat → Nat → Nat → Result Nat
  | 0, _, high => .ok high
  | fuel + 1, low, high =>
    if low < high then do
      let middle := low + (high - low) / 2
      if ← before middle then halve before fuel (middle + 1) high
      else halve before fuel low middle
    else .ok high

def insertAll (sorted : Array α) (items : List α) : Result (Array α) :=
  items.foldlM (fun acc x => do
    let before (i : Nat) : Result Bool := return !(← less x (acc.getD i x))
    return acc.insertIdxIfInBounds (← halve before (acc.size + 1) 0 acc.size) x) sorted

def leastRun (n : Nat) : Nat :=
  let rec go : Nat → Nat → Nat → Nat
    | 0, n, up => n + up
    | fuel + 1, n, up => if 64 ≤ n then go fuel (n / 2) (max up (n % 2)) else n + up
  go n n 0

/-! ## Galloping

A place in a sorted sequence is looked for in growing steps from a hint, and then by halving. -/

def stride (going : Nat → Result Bool) (most : Nat) : Nat → Nat → Nat → Result (Nat × Nat)
  | 0, last, step => .ok (last, min step most)
  | fuel + 1, last, step =>
    if step < most then do
      if ← going step then stride going most fuel step (2 * step + 1) else return (last, step)
    else .ok (last, most)

def gallop (before : Nat → Result Bool) (n hint : Nat) : Result Nat := do
  if ← before hint then
    let (last, step) ← stride (fun k => before (hint + k)) (n - hint) n 0 1
    halve before n (hint + last + 1) (hint + step)
  else
    let (last, step) ← stride (fun k => return !(← before (hint - k))) (hint + 1) n 0 1
    halve before n (hint + 1 - step) (hint - last)

/-! ## Merging

Two neighbouring runs are merged from the front if the first is the shorter one, and otherwise from
the back. Both are held in the order in which they are taken from. If one of them wins `threshold`
times in a row, whole stretches are looked for. -/

def worthwhile : Nat := 7

section
variable (back : Bool)

def secondNext (x y : α) : Result Bool := return (← less y x) != back

/-- How many items in a row are the next ones. -/
def stretch (isNext : α → Result Bool) (items : List α) : Result Nat := do
  let row := items.toArray
  let isNext (i : Nat) : Result Bool := ((row[i]?).map isNext).getD (.ok false)
  let n := row.size
  if back then return n - (← gallop (fun i => return !(← isNext (n - 1 - i))) n (n - 1))
  else gallop isNext n 0

/-- The last item of the shorter run is known to be the last of all. -/
def isOver (xs ys : List α) : Bool :=
  let (shorter, longer) := if back then (ys, xs) else (xs, ys)
  longer.isEmpty || (shorter.drop 1).isEmpty

def finish (out : Array α) (xs ys : List α) : Array α :=
  if back then out ++ xs ++ ys else out ++ ys ++ xs

mutual

def mergeItems : Nat → Nat → Nat → Nat → Array α → List α → List α → Result (Array α × Nat)
  | fuel + 1, wonX, wonY, threshold, out, x :: xs, y :: ys => do
    let (wonX, wonY, out, xs, ys) :=
      if ← secondNext less back x y then (0, wonY + 1, out.push y, x :: xs, ys)
      else (wonX + 1, 0, out.push x, xs, y :: ys)
    if isOver back xs ys then return (finish back out xs ys, threshold)
    if threshold ≤ max wonX wonY then mergeStretches fuel (threshold + 1) out xs ys
    else mergeItems fuel wonX wonY threshold out xs ys
  | _, _, _, threshold, out, xs, ys => .ok (finish back out xs ys, threshold)

def mergeStretches : Nat → Nat → Array α → List α → List α → Result (Array α × Nat)
  | fuel + 1, threshold, out, xs, y :: ys => do
    let threshold := if 1 < threshold then threshold - 1 else threshold
    let k ← stretch back (fun x => return !(← secondNext less back x y)) xs
    let out := out ++ xs.take k
    let x :: rest := xs.drop k | return (finish back out [] (y :: ys), threshold)
    if isOver back (x :: rest) (y :: ys) then
      return (finish back out (x :: rest) (y :: ys), threshold)
    let out := out.push y
    if isOver back (x :: rest) ys then return (finish back out (x :: rest) ys, threshold)
    let m ← stretch back (secondNext less back x) ys
    let out := out ++ ys.take m
    let ys := ys.drop m
    if isOver back (x :: rest) ys then return (finish back out (x :: rest) ys, threshold)
    let out := out.push x
    if isOver back rest ys then return (finish back out rest ys, threshold)
    if worthwhile ≤ k ∨ worthwhile ≤ m then mergeStretches fuel threshold out rest ys
    else mergeItems fuel 0 0 (threshold + 1) out rest ys
  | _, threshold, out, xs, ys => .ok (finish back out xs ys, threshold)

end

def mergeRows (threshold : Nat) (xs ys : List α) : Result (Array α × Nat) :=
  let fuel := 2 * (xs.length + ys.length)
  -- of which run the first item is to be taken is known
  let (first, xs, ys) := if back then (xs.take 1, xs.drop 1, ys) else (ys.take 1, xs, ys.drop 1)
  let out := first.toArray
  if isOver back xs ys then .ok (finish back out xs ys, threshold)
  else mergeItems less back fuel 0 0 threshold out xs ys

end

def merge (a b : Array α) (threshold : Nat) : Result (Array α × Nat) := do
  let some y := b[0]? | return (a, threshold)
  let k ← stretch false (fun x => return !(← less y x)) a.toList
  let rest := a.extract k a.size
  let some last := rest.back? | return (a ++ b, threshold)
  let m ← gallop (fun i => less (b.getD i y) last) b.size (b.size - 1)
  let part := b.extract 0 m
  if part.isEmpty then return (a ++ b, threshold)
  let (merged, threshold) ←
    if rest.size ≤ part.size then mergeRows less false threshold rest.toList part.toList
    else do
      let (merged, threshold) ←
        mergeRows less true threshold rest.toList.reverse part.toList.reverse
      pure (merged.reverse, threshold)
  return (a.extract 0 k ++ merged ++ b.extract m b.size, threshold)

def borderDepth (n : Nat) : Nat → Nat → Nat → Nat → Nat
  | 0, _, _, depth => depth
  | fuel + 1, a, b, depth =>
    if n ≤ a then borderDepth n fuel (2 * (a - n)) (2 * (b - n)) (depth + 1)
    else if n ≤ b then depth + 1
    else borderDepth n fuel (2 * a) (2 * b) (depth + 1)

/-- The state of sorting: the runs, the last one first, and when galloping starts. -/
structure Pile (α : Type) where
  runs : List (Run α) := []
  threshold : Nat := worthwhile

def settle (power : Nat) : Nat → Pile α → Result (Pile α)
  | 0, p => .ok p
  | fuel + 1, p =>
    match p.runs with
    | top :: below :: rest =>
      if power < below.power then do
        let (items, threshold) ← merge less below.items top.items p.threshold
        settle power fuel ⟨⟨below.start, items, below.power⟩ :: rest, threshold⟩
      else .ok p
    | _ => .ok p

def push (n : Nat) (p : Pile α) (start : Nat) (items : Array α) : Result (Pile α) := do
  match p.runs with
  | [] => return { p with runs := [⟨start, items, 0⟩] }
  | top :: _ =>
    let a := 2 * top.start + top.items.size
    let power := borderDepth n (n + 64) a (a + top.items.size + items.size) 0
    let p ← settle less power (p.runs.length + 1) p
    match p.runs with
    | top :: rest => return { p with runs := ⟨start, items, 0⟩ :: { top with power } :: rest }
    | [] => return { p with runs := [⟨start, items, 0⟩] }

def collapse : Nat → Pile α → Result (Array α)
  | 0, p => .ok ((p.runs.reverse.map Run.items).foldl (· ++ ·) #[])
  | fuel + 1, p =>
    match p.runs with
    | top :: second :: third :: rest =>
      if third.items.size < top.items.size then do
        let (items, threshold) ← merge less third.items second.items p.threshold
        collapse fuel ⟨top :: ⟨third.start, items, third.power⟩ :: rest, threshold⟩
      else do
        let (items, threshold) ← merge less second.items top.items p.threshold
        collapse fuel ⟨⟨second.start, items, second.power⟩ :: third :: rest, threshold⟩
    | [top, second] => do
      let (items, _) ← merge less second.items top.items p.threshold
      return items
    | [top] => .ok top.items
    | [] => .ok #[]

def pileUp (n least : Nat) : Nat → Nat → List α → Pile α → Result (Pile α)
  | 0, _, _, p => .ok p
  | fuel + 1, start, rest, p =>
    if rest.isEmpty then .ok p
    else do
      let (length, falling) ← firstRun less rest
      let run := rest.take length
      let run := (if falling then run.reverse else run).toArray
      let more := (rest.drop length).take (min least rest.length - length)
      let run ← insertAll less run more
      let p ← push less n p start run
      pileUp n least fuel (start + run.size) (rest.drop run.size) p

def sort (items : List α) : Result (List α) := do
  let n := items.length
  if n < 2 then return items
  let p ← pileUp less n (leastRun n) n 0 items {}
  return (← collapse less (p.runs.length + 1) p).toList

end Rover.Program.Sorting
