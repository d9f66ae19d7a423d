import Rover.Program.Item.Same

/-!
# Items as text

`repr` shows an item inside another one, `text` shows it on its own.
-/

namespace Rover.Program.Item

def byteText (quote : Char) (b : Nat) : String :=
  let c := Char.ofNat b
  if c == quote || c == '\\' then String.ofList ['\\', c]
  else if c == '\n' then "\\n"
  else if c == '\r' then "\\r"
  else if c == '\t' then "\\t"
  else if 32 ≤ b && b < 127 then String.ofList [c]
  else "\\x" ++ Quoted.hex 2 b

def bytesText (bs : List Nat) : String :=
  let quote := if bs.contains '\''.toNat && !bs.contains '"'.toNat then '"' else '\''
  "b" ++ String.ofList [quote] ++ String.join (bs.map (byteText quote)) ++ String.ofList [quote]

def intText (n : Int) : Result String :=
  if Number.isWritable n then .ok (Number.intText n) else .error .unwritable

def commas (parts : List String) : String := ", ".intercalate parts

def plainRepr : Item → Result String
  | .none => .ok "None"
  | .bool b => .ok (if b then "True" else "False")
  | .int _ n => intText n
  | .float _ x => .ok (Number.floatText x)
  | .complex _ z => .ok z.text
  | .str _ s => .ok (Quoted.encode s)
  | .bytes _ bs => .ok (bytesText bs)
  | .range _ a b c => do
    let step ← if c = 1 then pure "" else do return ", " ++ (← intText c)
    return "range(" ++ (← intText a) ++ ", " ++ (← intText b) ++ step ++ ")"
  | .builtin b => .ok b.shown
  | .library l => .ok ("<module '" ++ l.name ++ "'>")
  | .routine _ name => .ok ("<built-in function " ++ name ++ ">")
  | .notImplemented => .ok "NotImplemented"
  | .ellipsis => .ok "Ellipsis"
  | i => .ok ("<" ++ i.className ++ " object>")

mutual

def repr : Item → Result String
  | .list _ items => do return "[" ++ commas (← reprItems items) ++ "]"
  | .tuple _ [x] => do return "(" ++ (← repr x) ++ ",)"
  | .tuple _ items => do return "(" ++ commas (← reprItems items) ++ ")"
  | .dict _ entries => do return "\x7b" ++ commas (← reprEntries entries) ++ "\x7d"
  | .set _ slots => do
    let parts ← reprSlots slots
    return if parts.isEmpty then "set()" else "\x7b" ++ commas parts ++ "\x7d"
  | .view .keys entries => do return "dict_keys([" ++ commas (← reprFacet .keys entries) ++ "])"
  | .view .values entries => do
    return "dict_values([" ++ commas (← reprFacet .values entries) ++ "])"
  | .view .items entries => do return "dict_items([" ++ commas (← reprFacet .items entries) ++ "])"
  | .union classes => do return " | ".intercalate (← reprClasses classes)
  | i => plainRepr i

def reprClasses : List Item → Result (List String)
  | [] => .ok []
  | .builtin b :: rest => do return b.name :: (← reprClasses rest)
  | x :: rest => do return (← repr x) :: (← reprClasses rest)

def reprItems : List Item → Result (List String)
  | [] => .ok []
  | x :: rest => do return (← repr x) :: (← reprItems rest)

def reprEntries : Entries → Result (List String)
  | [] => .ok []
  | (k, v) :: rest => do return ((← repr k) ++ ": " ++ (← repr v)) :: (← reprEntries rest)

def reprSlots : List (Option Item) → Result (List String)
  | [] => .ok []
  | Option.none :: rest => reprSlots rest
  | some x :: rest => do return (← repr x) :: (← reprSlots rest)

def reprFacet (facet : Facet) : Entries → Result (List String)
  | [] => .ok []
  | (k, v) :: rest => do
    let one ← match facet with
      | .keys => repr k
      | .values => repr v
      | .items => do pure ("(" ++ (← repr k) ++ ", " ++ (← repr v) ++ ")")
    return one :: (← reprFacet facet rest)

end

def text : Item → Result String
  | .str _ s => .ok s
  | i => repr i

def asciiText (s : String) : String :=
  String.join (s.toList.map fun c =>
    let n := Half.code c
    if n < 0x80 then String.ofList [c]
    else if n < 0x100 then "\\x" ++ Quoted.hex 2 n
    else if n < 0x10000 then "\\u" ++ Quoted.hex 4 n
    else "\\U" ++ Quoted.hex 8 n)

/-! ## Items as data

Commands of the vehicle take data. Of an item that is no data they see the class and how it is
shown. -/

mutual

def toValue : Item → Value
  | .none => .none
  | .bool b => .bool b
  | .int _ n => .int n
  | .float _ x => .float x
  | .str _ s => .str s
  | .list _ items => .list (toValues items)
  | .tuple _ items => .tuple (toValues items)
  | .dict _ entries => .dict (toEntries entries)
  | .range _ a b c => .range a b c
  | i => .object i.className (match repr i with
    | .ok s => s
    | .error _ => "")

def toValues : List Item → List Value
  | [] => []
  | x :: rest => toValue x :: toValues rest

def toEntries : Entries → List (Value × Value)
  | [] => []
  | (k, v) :: rest => (toValue k, toValue v) :: toEntries rest

end

mutual

def ofValue : Value → Item
  | .none => .none
  | .bool b => .bool b
  | .int n => ofInt n
  | .float x => ofFloat x
  | .str s => ofString s
  | .list items => ofList (ofValues items)
  | .tuple items => ofTuple (ofValues items)
  | .dict entries => ofEntries (ofValueEntries entries)
  | .range a b c => .range .unborn a b c
  | .object .. => .ellipsis

def ofValues : List Value → List Item
  | [] => []
  | x :: rest => ofValue x :: ofValues rest

def ofValueEntries : List (Value × Value) → Entries
  | [] => []
  | (k, v) :: rest => (ofValue k, ofValue v) :: ofValueEntries rest

end

end Rover.Program.Item
