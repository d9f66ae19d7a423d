import Rover.Number.Arith
import Rover.Program.Builtins

/-!
# The mathematical library

Constants and functions of numbers.
-/

namespace Rover.Program

namespace MathMember

open Binary

def rangeFault : Fault := .beyondRange "math range error"

def infinity : Float := 1.0 / 0.0
def notANumber : Float := 0.0 / 0.0

variable (name : String)

def constant? : Option Float :=
  match name with
  | "pi" => some Value.pi
  | "e" => some 2.718281828459045
  | "tau" => some 6.283185307179586
  | "inf" => some infinity
  | "nan" => some notANumber
  | _ => none

variable (x : Float)

def logOfNext : Float :=
  let u := 1 + x
  if u == 1 then x else if 1e10 < x || u ≤ 0 then u.log else u.log * (x / (u - 1))

def expLessOne : Float :=
  if x.abs < 1e-5 then x + x * x / 2 + x * x * x / 6 else x.exp - 1

def errorSeries (x : Float) : Nat → Float → Float → Float → Float
  | 0, _, _, acc => acc
  | fuel + 1, n, term, acc =>
    errorSeries x fuel (n + 1) (-term * x * x / (n + 1)) (acc + term / (2 * n + 1))

def circleRoot : Float := 1.772453850905516

def tailFraction (x : Float) : Nat → Float → Float
  | 0, acc => acc
  | n + 1, acc => tailFraction x n ((n + 1).toFloat / 2 / (x + acc))

def errorTail : Float :=
  (-x * x).exp / (circleRoot * (x + tailFraction x 60 0))

def errorFunction : Float :=
  if x.isNaN then x
  else if x.abs < 2.5 then 2 / circleRoot * errorSeries x 80 0 x 0
  else if x < 0 then errorTail (-x) - 1 else 1 - errorTail x

def errorRest : Float :=
  if 2.5 ≤ x then errorTail x else 1 - errorFunction x

def gammaParts : List Float := [676.5203681218851, -1259.1392167224028,
  771.3234287776531, -176.6150291621406, 12.507343278686905, -0.13857109526572012,
  9.984369578019572e-6, 1.5056327351493116e-7]

def gammaSum : Float × Float :=
  let y := x - 1
  (gammaParts.zipIdx.foldl (fun acc (c, i) => acc + c / (y + (i + 1).toFloat))
    0.9999999999998099, y + 7.5)

def gammaOf : Float :=
  if x < 0.5 then
    let (s, t) := gammaSum (1 - x)
    Value.pi / ((Value.pi * x).sin * 2.5066282746310007 * t.pow (0.5 - x) * (-t).exp * s)
  else
    let (s, t) := gammaSum x
    2.5066282746310007 * t.pow (x / 2 - 0.25) * (-t).exp * t.pow (x / 2 - 0.25) * s

def logGammaOf : Float :=
  if x < 0.5 then
    let (s, t) := gammaSum (1 - x)
    (Value.pi / (Value.pi * x).sin.abs).log
      - (0.9189385332046727 + (0.5 - x) * t.log - t + s.log)
  else
    let (s, t) := gammaSum x
    0.9189385332046727 + (x - 0.5) * t.log - t + s.log

def isWhole : Bool := x.floor == x

def gamma : Result Float := do
  if x.isNaN then return x
  if x.isInf then if x > 0 then return x else throw .domain
  if x ≤ 0 && isWhole x then throw .domain
  if isWhole x && x ≤ 23 then
    return nearestInt ((List.range (x.toUInt64.toNat - 1)).foldl (fun p i => p * (i + 1)) 1 : Nat)
  if x < -200 then return 0
  if 200 < x then throw rangeFault
  let r := gammaOf x
  if r.isInf then throw rangeFault
  return r

def logGamma : Result Float := do
  if x.isNaN then return x
  if x.isInf then return infinity
  if isWhole x && x ≤ 2 then if x ≤ 0 then throw .domain else return 0
  if x.abs < 1e-20 then return -x.abs.log
  let r := logGammaOf x
  if r.isInf then throw rangeFault
  return r

def plain : List (String × (Float → Float)) := [("acos", Float.acos), ("acosh", Float.acosh),
  ("asin", Float.asin), ("asinh", Float.asinh), ("atan", Float.atan), ("atanh", Float.atanh),
  ("cbrt", Float.cbrt), ("cos", Float.cos), ("cosh", Float.cosh), ("erf", errorFunction),
  ("erfc", errorRest), ("exp", Float.exp), ("exp2", Float.exp2), ("expm1", expLessOne),
  ("fabs", Float.abs), ("log1p", logOfNext), ("sin", Float.sin), ("sinh", Float.sinh),
  ("sqrt", Float.sqrt), ("tan", Float.tan), ("tanh", Float.tanh)]

def canOverflow : Bool := ["cosh", "exp", "exp2", "expm1", "sinh"].contains name

def checked (canOverflow : Bool) (x r : Float) : Result Float := do
  if r.isNaN && !x.isNaN then throw .domain
  if r.isInf && x.isFinite then throw (if canOverflow then rangeFault else .domain)
  return r

def logarithm (log : Float → Float) (i : Item) : Result Float := do
  match i.integer? with
  | some n =>
    if n ≤ 0 then throw .domain
    let size := n.natAbs.log2
    if 1000 < size then
      -- the leading digits, and the number of halvings that leave them
      let lead := nearest false (n.natAbs / twoPow (size - 64)) (twoPow 65)
      return log lead + log 2 * (size + 1).toFloat
    return log (nearestInt n)
  | none =>
    let x ← i.toReal
    if x.isNaN then return x
    if x ≤ 0 then throw .domain
    return log x

def risingProduct (a n : Nat) : Nat :=
  if n = 0 then 1
  else if n = 1 then a + 1
  else risingProduct a (n / 2) * risingProduct (a + n / 2) (n - n / 2)
termination_by n

def productLimit : Nat := 1000000

def productOf (a n : Nat) : Result Int :=
  if productLimit < n then .error .outOfMemory else .ok (risingProduct a n)

def wordText : String := natText (twoPow 63 - 1)

def factorial (i : Item) : Result Int := do
  let n ← i.toIndex
  if (twoPow 63 : Int) ≤ n then
    throw (.beyondRange ("factorial() argument should not exceed " ++ wordText))
  if n < 0 then unfit "factorial() not defined for negative values"
  productOf 0 n.toNat

def selection (n k : Item) : Result (Nat × Nat) := do
  let n ← n.toIndex
  let k ← k.toIndex
  if n < 0 then unfit "n must be a non-negative integer"
  if k < 0 then unfit "k must be a non-negative integer"
  return (n.toNat, k.toNat)

def arrangements (n k : Item) : Result Int := do
  let (n, k) ← selection n k
  if n < k then return 0
  if twoPow 63 ≤ k then throw (.beyondRange ("k must not exceed " ++ wordText))
  productOf (n - k) k

def combinations (n k : Item) : Result Int := do
  let (n, k) ← selection n k
  if n < k then return 0
  let k := min k (n - k)
  if twoPow 63 ≤ k then throw (.beyondRange ("min(n - k, k) must not exceed " ++ wordText))
  return (← productOf (n - k) k) / (← productOf 0 k)

def truncatedRemainder (x y : Float) : Float :=
  if y == 0 then notANumber else Num.remainder x y

def nearestRemainder (x y : Float) : Float :=
  match ofFloat? x, ofFloat? y with
  | some a, some b =>
    let (n, d) := a.fraction
    let (m, e) := b.fraction
    if m = 0 then notANumber
    else
      let (p, q) := (n * e, m * d)
      let times := roundHalfEven p q
      let rest : Int := (p : Int) - (times * q : Nat)
      nearest (a.negative != (rest < 0)) rest.natAbs (d * e)
  | some _, none => if y.isNaN then y else x
  | _, _ => notANumber

def nextToward (x y : Float) : Float :=
  if x.isNaN || y.isNaN then notANumber
  else if x == y then y
  else if x == 0 then Num.withSignOf (Float.ofBits 1) y
  else
    let bits := x.toBits
    Float.ofBits (if (x < y) == (0 < x) then bits + 1 else bits - 1)

def power (x y : Float) : Result Float := do
  let r := x.pow y
  if x.isFinite && y.isFinite then
    if r.isNaN then throw .domain
    if r.isInf then throw (if x == 0 then .domain else rangeFault)
  return r

def scaled (i : Item) : Result Float := do
  match i.integer? with
  | none => wrongType "Expected an int as second argument to ldexp."
  | some n =>
    if x == 0 || !x.isFinite then return x
    let r := x.scaleB (max (-10000) (min 10000 n))
    if r.isInf then throw rangeFault
    return r

def pair? : Option (Float → Float → Result Float) :=
  let defined (f : Float → Float → Float) (x y : Float) : Result Float :=
    let r := f x y
    if r.isNaN && !x.isNaN && !y.isNaN then .error .domain else .ok r
  match name with
  | "atan2" => some (defined Float.atan2)
  | "copysign" => some (defined Num.withSignOf)
  | "fmod" => some (defined truncatedRemainder)
  | "nextafter" => some (defined nextToward)
  | "pow" => some power
  | "remainder" => some (defined nearestRemainder)
  | _ => none

def length (xs : List Float) : Float :=
  if xs.any Float.isInf then infinity
  else if xs.any Float.isNaN then notANumber
  else
    let parts := (xs.filterMap ofFloat?).map fraction
    let common := parts.foldl (fun d p => max d p.2) 1
    let total := parts.foldl (fun s (n, d) =>
      let m := n * (common / d)
      s + m * m) 0
    if total = 0 then 0 else Complex.rootOfFraction total (common * common)

def exactSum (xs : List Float) : Result Float := do
  let special := xs.filter fun x => !x.isFinite
  if !special.isEmpty then
    let total := special.foldl (· + ·) 0
    if total.isNaN && !special.any Float.isNaN then unfit "-inf + inf in fsum"
    return total
  let unit := twoPow 1074
  let total : Int := (xs.filterMap ofFloat?).foldl (fun s b =>
    let (n, d) := b.fraction
    let m : Int := (n * (unit / d) : Nat)
    if b.negative then s - m else s + m) 0
  let r := nearest (total < 0) total.natAbs unit
  if r.isInf then throw (.beyondRange "intermediate overflow in fsum")
  return r

def isClose (a b relative absolute : Float) : Result Bool := do
  if relative < 0 || absolute < 0 then unfit "tolerances must be non-negative"
  if a == b then return true
  if a.isInf || b.isInf then return false
  let d := (b - a).abs
  return d ≤ (relative * b).abs || d ≤ (relative * a).abs || d ≤ absolute

def names : List String := plain.map Prod.fst ++ ["atan2", "ceil", "comb", "copysign", "degrees",
  "dist", "factorial", "floor", "fmod", "frexp", "fsum", "gamma", "gcd", "hypot", "isclose",
  "isfinite", "isinf", "isnan", "isqrt", "lcm", "ldexp", "lgamma", "log", "log10", "log2", "modf",
  "nextafter", "perm", "pow", "prod", "radians", "remainder", "trunc", "ulp"]

def cut (down : Binary → Int) (i : Item) (complaint : Fault) : Result Item :=
  match i.num? with
  | some (.int n) => .ok (ofInt n)
  | some (.float x) =>
    match ofFloat? x with
    | some b => .ok (ofInt (down b))
    | none => .error (if x.isNaN then .nanToInteger else .infinityToInteger)
  | none => .error complaint

def callSingle (i : Item) : Result Item := do
  match name with
  | "ceil" =>
    let up (b : Binary) : Int := -floor { b with negative := !b.negative }
    cut up i (.notReal i.className)
  | "floor" => cut floor i (.notReal i.className)
  | "trunc" =>
    let complaint := "type " ++ i.className ++ " doesn't define __trunc__ method"
    cut truncate i (.wrongType complaint)
  | "factorial" => return ofInt (← factorial i)
  | "isqrt" =>
    let n ← i.toIndex
    if n < 0 then unfit "isqrt() argument must be nonnegative"
    return ofNat n.toNat.sqrt
  | "gamma" => return ofFloat (← gamma (← i.toReal))
  | "lgamma" => return ofFloat (← logGamma (← i.toReal))
  | "degrees" => return ofFloat ((← i.toReal) * (180 / Value.pi))
  | "radians" => return ofFloat ((← i.toReal) * (Value.pi / 180))
  | "log2" => return ofFloat (← logarithm Float.log2 i)
  | "log10" => return ofFloat (← logarithm Float.log10 i)
  | "isfinite" => return .bool (← i.toReal).isFinite
  | "isinf" => return .bool (← i.toReal).isInf
  | "isnan" => return .bool (← i.toReal).isNaN
  | "frexp" =>
    let x ← i.toReal
    if x == 0 || !x.isFinite then return ofTuple [ofFloat x, ofInt 0]
    let (m, e) := x.frExp
    return ofTuple [ofFloat m, ofInt e]
  | "modf" =>
    let x ← i.toReal
    if x.isNaN then return ofTuple [ofFloat x, ofFloat x]
    if x.isInf then return ofTuple [ofFloat (Num.withSignOf 0 x), ofFloat x]
    let whole := Num.withSignOf x.abs.floor x
    return ofTuple [ofFloat (Num.withSignOf (x - whole) x), ofFloat whole]
  | "ulp" =>
    let x := (← i.toReal).abs
    if !x.isFinite then return ofFloat x
    let next := nextToward x infinity
    return ofFloat (if next.isInf then x - nextToward x 0 else next - x)
  | name =>
    let x ← i.toReal
    match plain.lookup name with
    | some f => return ofFloat (← checked (canOverflow name) x (f x))
    | none => return .none

def reals (items : List Item) : Result (List Float) := items.mapM Item.toReal

def wholes (items : List Item) : Result (List Int) := items.mapM Item.toIndex

def differences (ps qs : List Item) : Result (List Float) := do
  (ps.zip qs).mapM fun (p, q) => do
    let a ← p.toReal
    let b ← q.toReal
    return a - b

def call (g : Given) : Job Item := do
  let function := "math." ++ name
  match name with
  | "log" =>
    match ← g.unnamed "log" with
    | [x] => made (ofFloat (← logarithm Float.log x))
    | [x, base] =>
      let n ← logarithm Float.log x
      let d ← logarithm Float.log base
      if d == 0 then .fail .floatDivisionByZero
      made (ofFloat (n / d))
    | _ => Job.refuse "math.log requires 1 to 2 arguments"
  | "gcd" =>
    let ns ← wholes (← g.unnamed function)
    made (ofNat (ns.foldl (fun d n => Nat.gcd d n.natAbs) 0))
  | "lcm" =>
    let ns ← wholes (← g.unnamed function)
    made (ofNat (ns.foldl (fun d n => Nat.lcm d n.natAbs) 1))
  | "hypot" =>
    made (ofFloat (length (← reals (← g.unnamed function))))
  | "comb" =>
    let [n, k] ← g.between function name 2 2 | return .none
    made (ofInt (← combinations n k))
  | "perm" =>
    match ← g.between function name 1 2 with
    | [n, .none] | [n] => made (ofInt (← factorial n))
    | [n, k] => made (ofInt (← arrangements n k))
    | _ => return .none
  | "ldexp" =>
    let [x, i] ← g.between function name 2 2 | return .none
    let x ← x.toReal
    made (ofFloat (← scaled x i))
  | "dist" =>
    let [p, q] ← g.between function name 2 2 | return .none
    let ps ← Job.elements p
    let qs ← Job.elements q
    if ps.length != qs.length then
      .fail (.unfit "both points must have the same number of dimensions")
    made (ofFloat (length (← differences ps qs)))
  | "fsum" =>
    let it ← Job.iter (← g.single function)
    let xs ← Job.fold (fun xs i => do
      let x ← i.toReal
      return (x :: xs, true)) [] it
    made (ofFloat (← exactSum xs.reverse))
  | "prod" =>
    let [some i, start] ← g.flexible name ["", "start"] 1 1 | return .none
    let it ← Job.iter i
    Job.fold (fun acc x => do return (← made (← Item.binary .mul acc x), true))
      (start.getD (.int .value 1)) it
  | "isclose" =>
    match ← g.flexible name ["a", "b", "rel_tol", "abs_tol"] 2 2 with
    | [some a, some b, relative, absolute] =>
      let a ← a.toReal
      let b ← b.toReal
      let relative ← (relative.map Item.toReal).getD (.ok 1e-9)
      let absolute ← (absolute.map Item.toReal).getD (.ok 0)
      return .bool (← isClose a b relative absolute)
    | _ => return .none
  | name =>
    match pair? name with
    | some f =>
      let [x, y] ← g.between function name 2 2 | return .none
      let x ← x.toReal
      let y ← y.toReal
      made (ofFloat (← f x y))
    | none => made (← callSingle name (← g.single function))

end MathMember

end Rover.Program
