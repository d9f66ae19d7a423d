import Rover.Program.Layout

/-!
# Templates

A text with places, each marked by a percent sign, into which values are filled.
-/

namespace Rover.Program

structure Place where
  left : Bool := false
  plus : Bool := false
  blank : Bool := false
  alternate : Bool := false
  zeros : Bool := false
  width : Option Nat := none
  precision : Option Nat := none
  mark : Char := 's'

namespace Template

/-- The values that are left to fill in: those of a tuple, or one that may be used once. -/
structure Supply where
  rest : List Item
  source : Option Item
  lenient : Bool

def Supply.ofItem (i : Item) : Supply :=
  match i with
  | .tuple _ items => ⟨items, none, false⟩
  | .dict .. | .list .. | .range .. | .bytes .. => ⟨[i], some i, true⟩
  | i => ⟨[i], none, false⟩

def Supply.next (s : Supply) : Result (Item × Supply) :=
  match s.rest with
  | i :: rest => .ok (i, { s with rest })
  | [] => wrongType "not enough arguments for format string"

def named (s : Supply) (key : String) : Result Supply := do
  match s.source with
  | none => wrongType "format requires a mapping"
  | some (.dict _ entries) =>
    match Item.lookup? entries (Item.ofString key) with
    | some v => return { s with rest := [v] }
    | none => throw (.missingKey (.str key))
  | some (.bytes ..) => throw (.position "byte" "str")
  | some i => throw (.position i.className "str")

def key? : Chars → Nat → Chars → Option (String × Chars)
  | ')' :: rest, 0, acc => some (String.ofList acc.reverse, rest)
  | ')' :: rest, depth + 1, acc => key? rest depth (')' :: acc)
  | '(' :: rest, depth, acc => key? rest (depth + 1) ('(' :: acc)
  | c :: rest, depth, acc => key? rest depth (c :: acc)
  | [], _, _ => none

variable (p : Place)

def takeFlags (p : Place) : Chars → Place × Chars
  | '-' :: rest => takeFlags { p with left := true } rest
  | '+' :: rest => takeFlags { p with plus := true } rest
  | ' ' :: rest => takeFlags { p with blank := true } rest
  | '#' :: rest => takeFlags { p with alternate := true } rest
  | '0' :: rest => takeFlags { p with zeros := true } rest
  | cs => (p, cs)

def takeSize (s : Supply) (bound : Nat) (tooBig unit : String) (cs : Chars) :
    Result (Option Int × Supply × Chars) := do
  match cs with
  | '*' :: rest =>
    let (v, s) ← s.next
    match v.integer? with
    | some n =>
      if n < -(bound : Int) ∨ (bound : Int) ≤ n then
        throw (.beyondRange ("Python int too large to convert to C " ++ unit))
      return (some n, s, rest)
    | none => wrongType "* wants int"
  | cs =>
    let digits := cs.takeWhile Char.isDigit
    if digits.isEmpty then return (none, s, cs)
    let n := Number.natOfDigits digits
    if bound ≤ n then unfit tooBig
    return (some n, s, cs.drop digits.length)

def place (s : Supply) (cs : Chars) : Result (Place × Supply × Chars) := do
  let (s, cs) ← match cs with
    | '(' :: rest =>
      if s.source.isNone then wrongType "format requires a mapping"
      match key? rest 0 [] with
      | some (key, rest) => pure (← named s key, rest)
      | none => unfit "incomplete format key"
    | cs => pure (s, cs)
  let (p, cs) := takeFlags {} cs
  let (width, s, cs) ← takeSize s (twoPow 63) "width too big" "ssize_t" cs
  let p := match width with
    | some n => { p with width := some n.natAbs, left := p.left || n < 0 }
    | none => p
  let (p, s, cs) ← match cs with
    | '.' :: rest =>
      let (n, s, rest) ← takeSize s (twoPow 31) "precision too big" "int" rest
      pure ({ p with precision := some (n.getD 0).toNat }, s, rest)
    | cs => pure (p, s, cs)
  let cs := match cs with
    | c :: rest => if c == 'h' || c == 'l' || c == 'L' then rest else c :: rest
    | [] => []
  match cs with
  | c :: rest => return ({ p with mark := c }, s, rest)
  | [] => unfit "incomplete format"

def field (zeros : Bool) (sign lead body : Chars) : Chars :=
  let missing := p.width.getD 0 - (sign.length + lead.length + body.length)
  if p.left then sign ++ lead ++ body ++ List.replicate missing ' '
  else if zeros then sign ++ lead ++ List.replicate missing '0' ++ body
  else List.replicate missing ' ' ++ sign ++ lead ++ body

def signOf (negative : Bool) : Chars :=
  if negative then ['-'] else if p.plus then ['+'] else if p.blank then [' '] else []

def isWholeMark (c : Char) : Bool := "diuoxX".toList.contains c
def isBaseMark (c : Char) : Bool := "oxX".toList.contains c

def wholeFor (mark : Char) (v : Item) : Result Int := do
  let refuse : Result Int :=
    wrongType ("%" ++ String.ofList [mark] ++ " format: "
      ++ (if isBaseMark mark then "an integer" else "a real number") ++ " is required, not "
      ++ v.className)
  match v.num? with
  | some (.int n) => return n
  | some x => if isBaseMark mark then refuse else x.truncate
  | none => refuse

def wholeField (n : Int) : Result Chars := do
  let digits ← match p.mark with
    | 'o' => pure (Nat.toDigits 8 n.natAbs)
    | 'x' => pure (Nat.toDigits 16 n.natAbs)
    | 'X' => pure ((Nat.toDigits 16 n.natAbs).map Char.toUpper)
    | _ => do pure (← Item.intText n.natAbs).toList
  let digits := List.replicate (p.precision.getD 0 - digits.length) '0' ++ digits
  let lead : Chars := if p.alternate && isBaseMark p.mark then ['0', p.mark] else []
  return field p p.zeros (signOf p (n < 0)) lead digits

def realField (v : Item) : Result Chars := do
  let x ← match v.num? with
    | some x => x.toFloat
    | none => throw (.notReal v.className)
  let spec := (if p.alternate then "#" else "") ++ "." ++ natText (p.precision.getD 6)
    ++ String.ofList [p.mark]
  let shown := (← Layout.float spec x).toList
  let (negative, body) := match shown with
    | '-' :: rest => (true, rest)
    | cs => (false, cs)
  return field p p.zeros (signOf p negative) [] body

def charField (v : Item) : Result Chars := do
  let c ← match v with
    | .str _ s =>
      match s.toList with
      | [c] => pure c
      | _ => wrongType "%c requires int or char"
    | v =>
      match v.integer? with
      | some n =>
        if n < 0 ∨ 0x110000 ≤ n then throw (.beyondRange "%c arg not in range(0x110000)")
        pure (Half.toChar n.toNat)
      | none => wrongType "%c requires int or char"
  return field p false [] [] [c]

def fillPlace (index : Nat) (v : Item) : Result Chars := do
  let cut (s : String) : Chars := match p.precision with
    | some n => s.toList.take n
    | none => s.toList
  if isWholeMark p.mark then wholeField p (← wholeFor p.mark v)
  else match p.mark with
    | 's' => return field p false [] [] (cut (← v.text))
    | 'r' => return field p false [] [] (cut (← v.repr))
    | 'a' => return field p false [] [] (cut (Item.asciiText (← v.repr)))
    | 'c' => charField p v
    | 'e' | 'E' | 'f' | 'F' | 'g' | 'G' => realField p v
    | c =>
      let shown := if 31 ≤ c.toNat && c.toNat ≤ 126 then c else '?'
      unfit ("unsupported format character '" ++ String.ofList [shown] ++ "' (0x"
        ++ String.ofList (Nat.toDigits 16 (Half.code c)) ++ ") at index " ++ natText index)

def fillFrom (size : Nat) : Nat → Supply → Chars → Result Chars
  | 0, _, cs => .ok cs
  | fuel + 1, s, cs =>
    match cs with
    | [] =>
      if s.rest.isEmpty || s.lenient then .ok []
      else wrongType "not all arguments converted during string formatting"
    | '%' :: '%' :: rest => do return '%' :: (← fillFrom size fuel s rest)
    | '%' :: rest => do
      let (p, s, rest) ← place s rest
      let (v, s) ← s.next
      let shown ← fillPlace p (size - rest.length - 1) v
      return shown ++ (← fillFrom size fuel s rest)
    | c :: rest => do return c :: (← fillFrom size fuel s rest)

def fill (template : String) (i : Item) : Result String := do
  let cs := template.toList
  return String.ofList (← fillFrom cs.length (cs.length + 1) (Supply.ofItem i) cs)

end Template

end Rover.Program
