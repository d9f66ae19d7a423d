import Rover.Program.Item.Arith

/-!
# Rounding and powers

Whole numbers nearest to doubles, numbers with a count of decimals, and powers by a modulus.
-/

namespace Rover.Program

def nearestWhole (x : Float) : Result Int :=
  match Binary.ofFloat? x with
  | some b =>
    let (num, den) := b.fraction
    let n : Int := roundHalfEven num den
    .ok (if b.negative then -n else n)
  | none => .error (if x.isNaN then .nanToInteger else .infinityToInteger)

def roundToTens (n : Int) (zeros : Nat) : Int :=
  -- a unit with far more digits than the number leaves nothing of it
  if n.natAbs.log2 + 2 < zeros then 0
  else
    let unit := tenPow zeros
    let m : Int := roundHalfEven n.natAbs unit * unit
    if n < 0 then -m else m

def roundToPlaces (x : Float) (places : Int) : Result Float :=
  match Binary.ofFloat? x with
  | none => .ok x
  | some b =>
    if 400 < places then .ok x
    else if places < -400 then .ok (if b.negative then -0.0 else 0.0)
    else
      let (num, den) := b.fraction
      let up := tenPow places.toNat
      let down := tenPow (-places).toNat
      let n := roundHalfEven (num * up) (den * down)
      let r := nearest b.negative (n * down) up
      if r.isInf then .error (.beyondRange "rounded value too large to represent") else .ok r

def powMod (base m : Nat) (exponent : Nat) : Nat :=
  if exponent = 0 then 1 % m
  else
    let half := powMod base m (exponent / 2)
    let square := half * half % m
    if exponent % 2 = 1 then square * base % m else square
termination_by exponent

def inverse? (a m : Nat) : Option Nat :=
  let rec go (r₀ r₁ : Nat) (s₀ s₁ : Int) : Option Nat :=
    if r₁ = 0 then
      if r₀ = 1 then some (s₀ % (m : Int)).toNat else none
    else go r₁ (r₀ % r₁) s₁ (s₀ - s₁ * ((r₀ / r₁ : Nat) : Int))
  termination_by r₁
  decreasing_by exact Nat.mod_lt _ (Nat.pos_of_ne_zero (by assumption))
  go m (a % m) 0 1

def powModulo (base exponent m : Int) : Result Int := do
  if m = 0 then unfit "pow() 3rd argument cannot be 0"
  let size := m.natAbs
  let b := (base % (size : Int)).toNat
  let r ←
    if 0 ≤ exponent then pure (powMod b size exponent.toNat)
    else match inverse? b size with
      | some i => pure (powMod i size exponent.natAbs)
      | none => unfit "base is not invertible for the given modulus"
  return Int.fmod r m

namespace Item

def rounded (i : Item) (places : Option Item) : Result Item := do
  match i.num?, places with
  | some (.int n), Option.none | some (.int n), some .none =>
    match i with
    | .int .. => return i
    | _ => return ofInt n
  | some (.float x), Option.none | some (.float x), some .none => return ofInt (← nearestWhole x)
  | some (.int n), some p =>
    let p ← p.toIndex
    if 0 ≤ p then
      match i with
      | .int .. => return i
      | _ => return ofInt n
    return ofInt (roundToTens n (-p).toNat)
  | some (.float x), some p => return ofFloat (← roundToPlaces x (← p.toIndex))
  | Option.none, _ => throw (.noRounding i.className)

def power (base exponent modulus : Item) : Result Item := do
  match modulus with
  | .none => binary .pow base exponent
  | m =>
    let whole : Option (Int × Int × Int) := do
      return (← base.integer?, ← exponent.integer?, ← m.integer?)
    match whole with
    | some (b, e, m) => return ofInt (← powModulo b e m)
    | Option.none =>
      let isNumber (i : Item) : Bool := i.complex?.isSome
      let ask (i : Item) : Result Unit :=
        match i with
        | .float .. => .error (.wrongType
            "pow() 3rd argument not allowed unless all arguments are integers")
        | .complex .. =>
          if isNumber base && isNumber exponent then unfit "complex modulo" else .ok ()
        | _ => .ok ()
      [base, exponent, m].forM ask
      wrongType ("unsupported operand type(s) for ** or pow(): '" ++ base.className
        ++ "', '" ++ exponent.className ++ "', '" ++ m.className ++ "'")

end Item

end Rover.Program
