import Rover.Program.Members.Text

/-!
# Members of numbers

The parts of a number and the functions that belong to it.
-/

namespace Rover.Program

namespace NumberMember

def wholeNames : List String := ["as_integer_ratio", "bit_count", "bit_length", "conjugate",
  "from_bytes", "to_bytes"]

def realNames : List String := ["as_integer_ratio", "conjugate", "fromhex", "hex", "is_integer"]

def complexNames : List String := ["conjugate"]

def wholePart? (n : Int) (name : String) : Option Item :=
  match name with
  | "real" | "numerator" => some (ofInt n)
  | "imag" => some (.int .value 0)
  | "denominator" => some (.int .value 1)
  | _ => none

variable (x : Float)

def realPart? (name : String) : Option Item :=
  match name with
  | "real" => some (ofFloat x)
  | "imag" => some (ofFloat 0)
  | _ => none

def complexPart? (z : Complex) (name : String) : Option Item :=
  match name with
  | "real" => some (ofFloat z.re)
  | "imag" => some (ofFloat z.im)
  | _ => none

def bitLength (n : Nat) : Nat := if n = 0 then 0 else n.log2 + 1

def onesFrom (ones n : Nat) : Nat :=
  if n = 0 then ones else onesFrom (ones + n % 2) (n / 2)
termination_by n

def lowBytes : Nat → Nat → List Nat
  | 0, _ => []
  | count + 1, n => n % 256 :: lowBytes count (n / 256)

def littleFirst (order : Option Item) (complaint : String → String) : Result Bool :=
  match order with
  | none | some (.str _ "big") => .ok false
  | some (.str _ "little") => .ok true
  | some (.str ..) => unfit "byteorder must be either 'little' or 'big'"
  | some .none => wrongType (complaint "None")
  | some i => wrongType (complaint i.className)

def toBytes (n : Int) (g : Given) : Result Item := do
  match ← g.flexible "to_bytes" ["length", "byteorder", "signed"] 0 2 with
  | [length, order, signed] =>
    let count ← match length with
      | some i => i.sizeIndex
      | none => pure 1
    let little ← littleFirst order fun kind =>
      "to_bytes() argument 'byteorder' must be str, not " ++ kind
    let signed := (signed.map Item.truth).getD false
    if count < 0 then unfit "length argument must be non-negative"
    if n < 0 && !signed then throw (.beyondRange "can't convert negative int to unsigned")
    if Item.sizeBound < count.toNat then throw .outOfMemory
    let room := twoPow (8 * count.toNat)
    let bound := if signed then room / 2 else room
    if (bound : Int) ≤ n && !(n = 0) || n < -(bound : Int) then
      throw (.beyondRange "int too big to convert")
    let low := lowBytes count.toNat (n % (room : Int)).toNat
    return Item.ofBytes (if little then low else low.reverse)
  | _ => return .none

def bytesOf (i : Item) : Job (List Nat) := do
  match i with
  | .bytes _ bs => return bs
  | .str .. => .fail (.wrongType "cannot convert 'str' object to bytes")
  | i =>
    let items ← match ← (Job.elements i).attempt with
      | .ok items => pure items
      | .error (.notIterable kind) =>
        .fail (.wrongType ("cannot convert '" ++ kind ++ "' object to bytes"))
      | .error f => .fail f
    Job.mapList (fun x => do
      let n ← x.toIndex
      if n < 0 || 255 < n then .fail (.unfit "bytes must be in range(0, 256)")
      return n.toNat) items

def ofBytes (owner : String) (g : Given) : Job Item := do
  match ← g.flexible "from_bytes" ["bytes", "byteorder", "signed"] 1 2 with
  | [some source, order, signed] =>
    let little ← littleFirst order fun kind =>
      "from_bytes() argument 'byteorder' must be str, not " ++ kind
    let bs ← bytesOf source
    let high := if little then bs.reverse else bs
    let n : Nat := high.foldl (fun n b => 256 * n + b) 0
    let room := twoPow (8 * bs.length)
    let signed := (signed.map Item.truth).getD false
    if owner == "bool" then return .bool (n != 0)
    made (ofInt (if signed && room / 2 ≤ n && !bs.isEmpty then (n : Int) - room else n))
  | _ => return .none

def ratio (x : Float) : Result Item :=
  match Binary.ofFloat? x with
  | some b =>
    let (n, d) := b.fraction
    let common := Nat.gcd n d
    let top : Int := (n / common : Nat)
    .ok (ofTuple [ofInt (if b.negative then -top else top), ofNat (d / common)])
  | none =>
    if x.isNaN then unfit "cannot convert NaN to integer ratio"
    else .error (.beyondRange "cannot convert Infinity to integer ratio")

def hexText : String :=
  match Binary.ofFloat? x with
  | none => Number.floatText x
  | some b =>
    let digits := Quoted.hex 13 (b.mantissa % twoPow 52)
    let exponent : Int := if b.mantissa = 0 then 0 else b.exponent + 52
    (if b.negative then "-0x" else "0x") ++ natText (b.mantissa / twoPow 52) ++ "."
      ++ (if b.mantissa = 0 then "0" else digits) ++ "p"
      ++ (if exponent < 0 then "" else "+") ++ Number.intText exponent

def callWhole (owner : String) (n : Int) (name : String) (g : Given) : Job Item := do
  let function := owner ++ "." ++ name
  match name with
  | "to_bytes" => made (← toBytes n g)
  | "from_bytes" => ofBytes owner g
  | name =>
    g.nothing function
    match name with
    | "as_integer_ratio" => made (ofTuple [ofInt n, .int .value 1])
    | "bit_count" => made (ofNat (onesFrom 0 n.natAbs))
    | "bit_length" => made (ofNat (bitLength n.natAbs))
    | _ => made (ofInt n)

def ofHex (g : Given) : Result Item := do
  let .str _ s ← g.single "float.fromhex" | wrongType "bad argument type for built-in operation"
  match Number.readInt 16 s.toList with
  | .ok n => return ofFloat (nearestInt n)
  | .error _ =>
    match Number.readFloat? s.toList with
    | some x =>
      if x.isFinite then unfit "invalid hexadecimal floating-point string"
      return ofFloat x
    | none => unfit "invalid hexadecimal floating-point string"

def callReal (name : String) (g : Given) : Result Item := do
  if name == "fromhex" then return ← ofHex g
  g.nothing ("float." ++ name)
  match name with
  | "as_integer_ratio" => ratio x
  | "hex" => return newText (hexText x)
  | "is_integer" => return .bool (x.isFinite && x.floor == x)
  | _ => return ofFloat x

def callComplex (z : Complex) (name : String) (g : Given) : Result Item := do
  g.nothing ("complex." ++ name)
  return Item.ofComplex ⟨z.re, -z.im⟩

end NumberMember

end Rover.Program
