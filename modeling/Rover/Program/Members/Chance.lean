import Rover.Program.Members.Math
import Rover.Program.Members.Text

/-!
# The library of chance

Functions that choose.
-/

namespace Rover.Program

namespace ChanceMember

def className : String := "Random"

variable (name : String)

def parameter (default : Option Item := none) : Parameter Item :=
  { name, default }

/-- The functions, several with the same parameters in one row: the usual ones and those that are
given by name only. -/
def rows : List (List String × List (Parameter Item) × List (Parameter Item)) :=
  let needed (names : List String) := names.map fun n => parameter n
  let whole (n : Int) := some (Item.int .value n)
  let real (x : Float) := some (Item.float .value x)
  let absent := some Item.none
  [(["betavariate", "gammavariate", "weibullvariate"], needed ["alpha", "beta"], []),
    (["choice"], needed ["seq"], []),
    (["choices"], [parameter "population", parameter "weights" absent],
      [parameter "cum_weights" absent, parameter "k" (whole 1)]),
    (["expovariate"], needed ["lambd"], []),
    (["gauss", "normalvariate"], [parameter "mu" (real 0), parameter "sigma" (real 1)], []),
    (["getrandbits", "getstate", "random"], [], []),
    (["lognormvariate"], needed ["mu", "sigma"], []),
    (["paretovariate"], needed ["alpha"], []),
    (["randbytes"], needed ["n"], []),
    (["randint", "uniform"], needed ["a", "b"], []),
    (["randrange"],
      [parameter "start", parameter "stop" absent, parameter "step" (whole 1)], []),
    (["sample"], needed ["population", "k"], [parameter "counts" absent]),
    (["seed"], [parameter "a" absent, parameter "version" (whole 2)], []),
    (["setstate"], needed ["state"], []),
    (["shuffle"], needed ["x"], []),
    (["triangular"],
      [parameter "low" (real 0), parameter "high" (real 1), parameter "mode" absent], []),
    (["vonmisesvariate"], needed ["mu", "kappa"], [])]

def names : List String := rows.flatMap Prod.fst

def constants : Named := [("BPF", .int .value 53), ("LOG4", ofFloat 1.3862943611198906),
  ("NV_MAGICCONST", ofFloat 1.7155277699214135), ("RECIP_BPF", ofFloat 1.1102230246251565e-16),
  ("SG_MAGICCONST", ofFloat 2.504077396776274), ("TWOPI", ofFloat 6.283185307179586)]

def elementAt (i : Item) (n : Nat) : Result Item :=
  let pick (kind : String) (items : List Item) : Result Item :=
    match items[n]? with
    | some x => .ok x
    | none => .error (.indexRange kind)
  match i with
  | .list _ items => pick "list" items
  | .tuple _ items => pick "tuple" items
  | .str _ s => pick "string" (Item.characters s)
  | .bytes _ bs => pick "index" (bs.map ofNat)
  | .range _ a b c =>
    if n < Value.rangeLength a b c then .ok (ofInt (a + c * n))
    else .error (.indexRange "range object")
  | .dict _ es =>
    match Item.lookup? es (.int .value n) with
    | some x => .ok x
    | none => .error (.missingKey (.int n))
  | i => .error (.notIndexable i.className)

def wholeBorder (i : Item) (place : String) : Result Int := do
  match i.integer? with
  | some n => return n
  | none =>
    let n ← i.toInteger
    if Item.same (ofInt n) i then return n
    unfit ("non-integer " ++ place ++ " for randrange()")

def fromRange (start stop step : Item) : Result Item := do
  let empty : Fault := .unfit "empty range for randrange()"
  let first ← wholeBorder start "arg 1"
  match stop with
  | .none =>
    if !(Item.identical step (.int .value 1)) then
      wrongType "Missing a non-None stop argument"
    if 0 < first then return ofInt 0
    throw empty
  | stop =>
    let last ← wholeBorder stop "stop"
    let width := last - first
    let step ← wholeBorder step "step"
    if step = 1 then
      if 0 < width then return ofInt first
      let shown := ", ".intercalate [← Item.intText first, ← Item.intText last,
        ← Item.intText width]
      unfit ("empty range for randrange() (" ++ shown ++ ")")
    if step = 0 then unfit "zero step for randrange()"
    let n := if 0 < step then Int.fdiv (width + step - 1) step
      else Int.fdiv (width + step + 1) step
    if n ≤ 0 then throw empty
    return ofInt first

def shuffled (i : Item) : Result Item := do
  if (← i.length) < 2 then return .none
  match i with
  | .list .. => return .none
  | i =>
    let _ ← elementAt i 0
    wrongType ("'" ++ i.className ++ "' object does not support item assignment")

def isSequence : Item → Bool
  | .list .. | .tuple .. | .str .. | .bytes .. | .range .. => true
  | _ => false

def sampled (population k : Item) : Result Item := do
  if !isSequence population then
    wrongType ("Population must be a sequence.  "
      ++ "For dicts or sets, use sorted(d).")
  let n ← population.length
  let bad : Fault := .unfit "Sample larger than population or is negative"
  if !(← Item.compare .le (.int .value 0) k) then throw bad
  if !(← Item.compare .le k (.int .value n)) then throw bad
  match k.integer? with
  | some k => return ofList ((← population.items).take k.toNat)
  | none => throw (.repeating k.className)

def chosen (population k : Item) : Result Item := do
  let _ ← population.length
  let k ← k.toIndex
  if k ≤ 0 then return ofList []
  let x ← elementAt population 0
  if Item.sizeBound < k.toNat then throw .outOfMemory
  return ofList (List.replicate k.toNat x)

def sums (weights : List Item) : Result (List Item) := do
  match weights with
  | [] => return []
  | w :: rest =>
    let (_, all) ← rest.foldlM (fun (total, all) w => do
      let total ← Item.binary .add total w
      return (total, total :: all)) (w, [w])
    return all.reverse

def chosenByWeight (population k : Item) (weights : List Item) : Result Item := do
  if weights.length != (← population.length) then
    unfit "The number of weights does not match the population"
  match weights.getLast? with
  | none => throw (.indexRange "list")
  | some last =>
    let total ← (← Item.binary .add last (.float .value 0)).toReal
    if total ≤ 0 then unfit "Total of weights must be greater than zero"
    if !total.isFinite then unfit "Total of weights must be finite"
    chosen population k

def half : Item := .float .value 0.5

def between (a b : Item) : Result Item := do
  let width ← Item.binary .sub b a
  Item.binary .add a (← Item.binary .mul width half)

def triangular (low high mode : Item) : Result Item := do
  let peak : Result Item := do
    match mode with
    | .none => return half
    | mode => Item.binary .div (← Item.binary .sub mode low) (← Item.binary .sub high low)
  match peak with
  | .error f => if f.kind = .division then return low else throw f
  | .ok c =>
    let _ ← Item.greater half c
    between low high

def positive (alpha beta : Item) : Result Unit := do
  let bad : Fault := .unfit "gammavariate: alpha and beta must be > 0.0"
  if ← Item.compare .le alpha (.float .value 0) then throw bad
  if ← Item.compare .le beta (.float .value 0) then throw bad

def distributed (args : List Item) : Result Item := do
  let one : Item := .float .value 1
  match name, args with
  | "betavariate", [alpha, beta] =>
    positive alpha one
    positive beta one
    return half
  | "expovariate", [rate] => Item.binary .div half rate
  | "gammavariate", [alpha, beta] =>
    positive alpha beta
    Item.binary .mul half beta
  | "gauss", [mu, sigma] | "normalvariate", [mu, sigma] =>
    Item.binary .add mu (← Item.binary .mul half sigma)
  | "lognormvariate", [mu, sigma] =>
    let x ← Item.binary .add mu (← Item.binary .mul half sigma)
    let r := (← x.toReal).exp
    if r.isInf then throw MathMember.rangeFault
    return ofFloat r
  | "paretovariate", [alpha] =>
    Item.binary .pow half (← Item.binary .div (.float .value (-1)) alpha)
  | "vonmisesvariate", [mu, kappa] =>
    if ← Item.compare .le kappa (.float .value 1e-6) then return one
    let _ ← Item.binary .div half kappa
    Item.binary .add mu half
  | "weibullvariate", [alpha, beta] =>
    Item.binary .mul alpha (← Item.binary .pow half (← Item.binary .div one beta))
  | _, _ => return .none

def seeded (a : Item) : Result Item :=
  match a with
  | .none | .bool _ | .int .. | .float .. | .str .. | .bytes .. => .ok .none
  | _ => wrongType ("The only supported seed types are: None,\n"
      ++ "int, float, str, bytes, and bytearray.")

def severalOf (population weights sumsGiven k : Item) : Job Item := do
  let _ ← population.length
  match sumsGiven, weights with
  | .none, .none => made (← chosen population k)
  | .none, weights =>
    match ← (Job.elements weights).attempt with
    | .ok ws => made (← chosenByWeight population k (← sums ws))
    | .error f =>
      match weights.integer? with
      | some _ => .fail (.wrongType ("The number of choices must be a keyword argument: k="
          ++ (← weights.repr)))
      | none => .fail f
  | given, .none =>
    let _ ← given.length
    made (← chosenByWeight population k (← Job.elements given))
  | _, _ => .fail (.wrongType "Cannot specify both weights and cumulative weights")

def bytesOf (n : Item) : Result Item := do
  let bits ← Item.binary .mul n (.int .value 8)
  if (← bits.toIndex) < 0 then unfit "number of bits must be non-negative"
  return Item.ofBytes (List.replicate (← n.toIndex).toNat 0)

def call (g : Given) : Job Item := do
  let function := className ++ "." ++ name
  match name with
  | "random" =>
    g.nothing function
    return ← made (ofFloat 0.5)
  | "getrandbits" =>
    if (← (← g.single function).smallWord) < 0 then
      .fail (.unfit "number of bits must be non-negative")
    return .int .value 0
  | _ => pure ()
  let (_, usual, namedOnly) := (rows.find? (·.1.contains name)).getD ([], [], [])
  let signature : Signature Item :=
    { name := function, parameters := parameter "self" :: usual, namedOnly }
  let bound ← signature.bindNames ofTuple Item.record (.none :: g.positional) g.named
  let args := (bound.drop 1).map Prod.snd
  match name, args with
  | "choice", [seq] =>
    if (← seq.length) = 0 then .fail (.noElement "Cannot choose from an empty sequence")
    made (← elementAt seq 0)
  | "choices", [population, weights, sumsGiven, k] => severalOf population weights sumsGiven k
  | "randint", [a, b] =>
    made (← fromRange a (← Item.binary .add b (.int .value 1)) (.int .value 1))
  | "randrange", [start, stop, step] => made (← fromRange start stop step)
  | "sample", [population, k, _] => made (← sampled population k)
  | "seed", [a, _] => Job.ofExcept (seeded a)
  | "shuffle", [x] => Job.ofExcept (shuffled x)
  | "triangular", [low, high, mode] => made (← triangular low high mode)
  | "uniform", [a, b] => made (← between a b)
  | "randbytes", [n] => made (← bytesOf n)
  | name, args => made (← distributed name args)

end ChanceMember

end Rover.Program
