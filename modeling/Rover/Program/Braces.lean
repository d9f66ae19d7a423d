import Rover.Program.Item.Arith

/-!
# Fields in braces

A text with fields, each a name or a number in braces, which the arguments of a call replace.
-/

namespace Rover.Program

namespace Braces

/-- What fields are looked up in: arguments in order, where there are any, and named ones. -/
structure Sources where
  positional : Option (List Item)
  named : Item
  member : Item → String → Result Item

/-- How fields have been numbered so far: not at all, by themselves, or in order up to a number. -/
inductive Numbering where
  | undecided | manual | automatic (next : Nat)

structure Field where
  name : Chars
  conversion : Option Char := none
  layout : Chars := []

def nameOf : Bool → Chars → Chars → Result (Chars × Option Char × Chars)
  | _, acc, [] => .ok (acc.reverse, none, [])
  | inside, acc, c :: rest =>
    if inside then nameOf (c != ']') (c :: acc) rest
    else if c == '\x7b' then unfit "unexpected '\x7b' in field name"
    else if c == '[' then nameOf true (c :: acc) rest
    else if c == '\x7d' || c == ':' || c == '!' then .ok (acc.reverse, some c, rest)
    else nameOf false (c :: acc) rest

def layoutOf : Nat → Chars → Chars → Result (Chars × Chars)
  | _, _, [] => unfit "unmatched '\x7b' in format spec"
  | depth, acc, c :: rest =>
    if c == '\x7b' then layoutOf (depth + 1) (c :: acc) rest
    else if c == '\x7d' then
      if depth = 0 then .ok (acc.reverse, rest) else layoutOf (depth - 1) (c :: acc) rest
    else layoutOf depth (c :: acc) rest

def field (cs : Chars) : Result (Field × Chars) := do
  match ← nameOf false [] cs with
  | (name, some ':', rest) =>
    let (layout, rest) ← layoutOf 0 [] rest
    return ({ name, layout }, rest)
  | (name, some '!', rest) =>
    match rest with
    | [] => unfit "end of string while looking for conversion specifier"
    | c :: '\x7d' :: rest => return ({ name, conversion := some c }, rest)
    | c :: ':' :: rest =>
      let (layout, rest) ← layoutOf 0 [] rest
      return ({ name, conversion := some c, layout }, rest)
    | [_] => unfit "unmatched '\x7b' in format spec"
    | _ => unfit "expected ':' after conversion specifier"
  | (name, some _, rest) => return ({ name }, rest)
  | (_, none, _) => unfit "expected '\x7d' before end of string"

def number? (cs : Chars) : Result (Option Nat) :=
  let values := cs.map Digit.value?
  if cs.isEmpty || values.any Option.isNone then .ok none
  else
    let n := (values.filterMap id).foldl (fun n d => 10 * n + d) 0
    if Item.indexBound ≤ n then unfit "Too many decimal digits in format string" else .ok (some n)

def element (i : Item) (key : Chars) : Result Item := do
  match i, ← number? key with
  | .dict _ es, n? =>
    let k := match n? with
      | some n => ofNat n
      | none => Item.ofChars key
    match Item.lookup? es k with
    | some x => .ok x
    | none => .error (.missingKey k.toValue)
  | .list _ items, some n | .tuple _ items, some n =>
    match items[n]? with
    | some x => .ok x
    | none => .error (.indexRange i.className)
  | .str _ s, some n =>
    match s.toList[n]? with
    | some c => .ok (Item.ofChars [c])
    | none => .error (.indexRange "string")
  | .list .., none | .tuple .., none => .error (.position i.className "str")
  | .str .., none => wrongType "string indices must be integers, not 'str'"
  | i, _ => .error (.notIndexable i.className)

def follow (s : Sources) : Nat → Item → Chars → Result Item
  | 0, i, _ => .ok i
  | _, i, [] => .ok i
  | fuel + 1, i, '.' :: rest =>
    let name := rest.takeWhile fun c => c != '.' && c != '['
    if name.isEmpty then unfit "Empty attribute in format string"
    else do
      match ← s.member i (String.ofList name) with
      | .none => throw (.noAttribute i.className (String.ofList name))
      | x => follow s fuel x (rest.drop name.length)
  | fuel + 1, i, '[' :: rest =>
    let key := rest.takeWhile (· != ']')
    if key.length = rest.length then unfit "Missing ']' in format string"
    else if key.isEmpty then unfit "Empty attribute in format string"
    else do follow s fuel (← element i key) (rest.drop (key.length + 1))
  | _, _, _ => unfit "Only '.' or '[' may follow ']' in format field specifier"

def numbered (numbering : Numbering) (name : Chars) : Result (Option Nat × Numbering) := do
  match ← number? name, numbering with
  | some _, .automatic _ =>
    unfit "cannot switch from automatic field numbering to manual field specification"
  | some n, _ => .ok (some n, .manual)
  | none, numbering =>
    if !name.isEmpty then .ok (none, numbering)
    else match numbering with
      | .undecided => .ok (some 0, .automatic 1)
      | .automatic n => .ok (some n, .automatic (n + 1))
      | .manual =>
        unfit "cannot switch from manual field specification to automatic field numbering"

def itemOf (s : Sources) (numbering : Numbering) (name : Chars) : Result (Item × Numbering) := do
  let first := name.takeWhile fun c => c != '.' && c != '['
  let (n?, numbering) ← numbered numbering first
  let i ← match n?, s.positional with
    | some _, none => unfit "Format string contains positional fields"
    | some n, some items =>
      match items[n]? with
      | some i => pure i
      | none => throw (.noElement ("Replacement index " ++ natText n
          ++ " out of range for positional args tuple"))
    | none, _ =>
      match s.named with
      | .dict _ es =>
        match Item.lookup? es (Item.ofChars first) with
        | some i => pure i
        | none => throw (.missingKey (.str (String.ofList first)))
      | i => element i first
  return (← follow s name.length i (name.drop first.length), numbering)

def converted (conversion : Option Char) (i : Item) : Result Item := do
  match conversion with
  | none => return i
  | some 'r' => return Item.ofString (← i.repr)
  | some 's' => return Item.ofString (← i.text)
  | some 'a' => return Item.ofString (Item.asciiText (← i.repr))
  | some c =>
    let shown := if 32 < c.toNat && c.toNat < 127 then String.ofList [c]
      else "\\x" ++ String.ofList (Nat.toDigits 16 c.toNat)
    unfit ("Unknown conversion specifier " ++ shown)

def expand (s : Sources) : Nat → Nat → Numbering → Chars → Result (Chars × Numbering)
  | 0, _, _, _ => unfit "Max string recursion exceeded"
  | _, 0, numbering, _ => .ok ([], numbering)
  | depth + 1, fuel + 1, numbering, cs => do
    let plain := cs.takeWhile fun c => c != '\x7b' && c != '\x7d'
    let goOn (text : Chars) (numbering : Numbering) (rest : Chars) :
        Result (Chars × Numbering) := do
      let (more, numbering) ← expand s (depth + 1) fuel numbering rest
      return (plain ++ text ++ more, numbering)
    match cs.drop plain.length with
    | [] => return (plain, numbering)
    | '\x7d' :: '\x7d' :: rest => goOn ['\x7d'] numbering rest
    | '\x7d' :: _ => unfit "Single '\x7d' encountered in format string"
    | '\x7b' :: '\x7b' :: rest => goOn ['\x7b'] numbering rest
    | ['\x7b'] => unfit "Single '\x7b' encountered in format string"
    | _ :: rest =>
      let (f, rest) ← field rest
      let (i, numbering) ← itemOf s numbering f.name
      let i ← converted f.conversion i
      let (layout, numbering) ←
        if f.layout.contains '\x7b' then expand s depth fuel numbering f.layout
        else pure (f.layout, numbering)
      let text ← i.laidOut (String.ofList layout)
      goOn text.toList numbering rest

def fill (s : Sources) (text : String) : Result String := do
  let (cs, _) ← expand s 2 (text.length + 1) .undecided text.toList
  return String.ofList cs

end Braces

end Rover.Program
