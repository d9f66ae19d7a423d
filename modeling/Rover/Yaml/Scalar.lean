import Rover.Value.Arith

/-!
# Scalars

A scalar without quotes stands for a number, a truth value, a date or nothing if it looks like one,
and for a text otherwise.
-/

namespace Rover.Yaml

namespace Tag

def usual (name : String) : String := "tag:yaml.org,2002:" ++ name

def null : String := usual "null"

def bool : String := usual "bool"

def int : String := usual "int"

def float : String := usual "float"

def text : String := usual "str"

def list : String := usual "seq"

def mapping : String := usual "map"

def merge : String := usual "merge"

def value : String := usual "value"

def timestamp : String := usual "timestamp"

def tuple : String := usual "python/tuple"

end Tag

variable (s : String)

def bool? : Option Bool :=
  if ["yes", "true", "on"].contains s then some true
  else if ["no", "false", "off"].contains s then some false
  else none

def evenCase : Bool :=
  s == s.toLower || s == s.toUpper || s == s.toLower.capitalize

def isBool : Bool := (bool? s.toLower).isSome && evenCase s

def isNull : Bool := ["", "~", "null", "Null", "NULL"].contains s

def isSign (c : Char) : Bool := c == '-' || c == '+'

def unsigned : Chars → Chars
  | c :: r => if isSign c then r else c :: r
  | [] => []

def isHexDigit (c : Char) : Bool :=
  c.isDigit || ('a' ≤ c && c ≤ 'f') || ('A' ≤ c && c ≤ 'F')

def grouped (p : Char → Bool) (cs : Chars) : Bool := cs.all fun c => p c || c == '_'

variable (cs : Chars)

def isSixtieth : Bool :=
  match cs with
  | [a] => a.isDigit
  | [a, b] => '0' ≤ a && a ≤ '5' && b.isDigit
  | _ => false

def isSixties (first : Chars → Bool) : Bool :=
  match (String.ofList cs).splitOn ":" with
  | a :: b :: rest => first a.toList && (b :: rest).all fun s => isSixtieth s.toList
  | _ => false

def isInt : Bool :=
  let cs := unsigned s.toList
  let isDecimal (cs : Chars) : Bool :=
    match cs with
    | c :: r => '1' ≤ c && c ≤ '9' && grouped Char.isDigit r
    | [] => false
  match cs with
  | ['0'] => true
  | '0' :: 'b' :: r => !r.isEmpty && grouped (fun c => c == '0' || c == '1') r
  | '0' :: 'x' :: r => !r.isEmpty && grouped isHexDigit r
  | '0' :: r => grouped (fun c => '0' ≤ c && c ≤ '7') r
  | cs => isDecimal cs || isSixties cs isDecimal

def isExponent : Chars → Bool
  | [] => true
  | e :: sign :: digits =>
    (e == 'e' || e == 'E') && isSign sign && !digits.isEmpty && digits.all Char.isDigit
  | _ => false

def isFloat : Bool :=
  let cs := unsigned s.toList
  let isGrouped (c : Char) : Bool := c.isDigit || c == '_'
  let startsDigit (cs : Chars) : Bool := cs.head?.any Char.isDigit
  let whole := cs.takeWhile (· != '.')
  let part := (cs.dropWhile (· != '.')).drop 1
  let hasPoint := cs.contains '.'
  let afterDigits := part.dropWhile isGrouped
  let isDigits (cs : Chars) : Bool := startsDigit cs && cs.all isGrouped
  (hasPoint && isDigits whole && isExponent afterDigits)
    || (s.toList.head? == some '.' && startsDigit part && isExponent afterDigits)
    || (hasPoint && isSixties whole isDigits && afterDigits.isEmpty)
    || [".inf", ".Inf", ".INF"].contains (String.ofList cs)
    || [".nan", ".NaN", ".NAN"].contains s

def afterDigits? (least most : Nat) (cs : Chars) : Option Chars :=
  let count := ((cs.take most).takeWhile Char.isDigit).length
  if least ≤ count then some (cs.drop count) else none

def after? (c : Char) : Chars → Option Chars
  | d :: r => if c == d then some r else none
  | [] => none

def isBlank (c : Char) : Bool := c == ' ' || c == '\t'

def isZone : Bool :=
  match cs.dropWhile isBlank with
  | [] => cs.isEmpty
  | ['Z'] => true
  | sign :: r =>
    isSign sign && (match afterDigits? 1 2 r with
      | some [] => true
      | some (':' :: m) => afterDigits? 2 2 m == some []
      | _ => false)

def isTime : Bool :=
  let start? : Option Chars := match cs with
    | 'T' :: r | 't' :: r => some r
    | c :: _ => if isBlank c then some (cs.dropWhile isBlank) else none
    | [] => none
  let rest? : Option Chars := do
    let minutes ← after? ':' (← afterDigits? 1 2 (← start?))
    let seconds ← after? ':' (← afterDigits? 2 2 minutes)
    afterDigits? 2 2 seconds
  match rest? with
  | some ('.' :: r) => isZone (r.dropWhile Char.isDigit)
  | some r => isZone r
  | none => false

def afterDate? (least : Nat) (s : String) : Option Chars := do
  let month ← after? '-' (← afterDigits? 4 4 s.toList)
  let day ← after? '-' (← afterDigits? least 2 month)
  afterDigits? least 2 day

def isDate : Bool := afterDate? 2 s == some [] || (afterDate? 1 s).any isTime

def isShortDate : Bool := afterDate? 1 s == some []

def resolve : String :=
  if isNull s then Tag.null
  else if isBool s then Tag.bool
  else if isInt s then Tag.int
  else if isFloat s then Tag.float
  else if isDate s then Tag.timestamp
  else if s == "<<" then Tag.merge
  else if s == "=" then Tag.value
  else Tag.text

def signAndRest : Result (Bool × Chars) :=
  match s.toList.filter (· != '_') with
  | [] => .error (.indexRange "string")
  | c :: r => .ok (c == '-', if isSign c then r else c :: r)

def shown : String := Quoted.encode (String.ofList cs)

def partsOf : List Chars :=
  ((String.ofList cs).splitOn ":").map String.toList

def intOf : Result Int := do
  let (negative, cs) ← signAndRest s
  let read (base : Nat) (cs : Chars) : Result Int := Value.integerIn base cs (shown cs)
  let n ← match cs with
    | ['0'] => pure 0
    | '0' :: 'b' :: r => read 2 r
    | '0' :: 'x' :: r => read 16 r
    | '0' :: _ => read 8 cs
    | [] => throw (.indexRange "string")
    | _ =>
      if cs.contains ':' then
        return (← (partsOf cs).mapM (read 10)).foldl (fun n d => n * 60 + d) 0
          * (if negative then -1 else 1)
      else read 10 cs
  return if negative then -n else n

def floatOf : Result Float := do
  let (negative, cs) ← signAndRest s.toLower
  let read (cs : Chars) : Result Float := Value.floatIn cs (shown cs)
  let sign : Float := if negative then -1 else 1
  if cs == ".inf".toList then return sign * (1.0 / 0.0)
  if cs == ".nan".toList then return 0.0 / 0.0
  if cs.contains ':' then
    let parts ← (partsOf cs).mapM read
    return sign * (parts.reverse.foldl (fun (sum, scale) x => (sum + x * scale, scale * 60))
      ((0.0 : Float), (1.0 : Float))).1
  return sign * (← read cs)

def boolOf : Result Bool :=
  match bool? s.toLower with
  | some b => .ok b
  | none => .error (.missingKey (.str s.toLower))

def staysText : Bool := resolve s == Tag.text

end Rover.Yaml
