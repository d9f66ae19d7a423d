import Rover.Value.Arith

/-!
# Writing JSON

Entries in insertion order, a blank after each comma and colon.
-/

namespace Rover.Json

def unitText (n : Nat) : String := "\\u" ++ Quoted.hex 4 n

variable (ascii : Bool)

def charText (c : Char) : String :=
  let n := Half.code c
  if c == '"' then "\\\""
  else if c == '\\' then "\\\\"
  else if c == '\n' then "\\n"
  else if c == '\r' then "\\r"
  else if c == '\t' then "\\t"
  else if n == 8 then "\\b"
  else if n == 12 then "\\f"
  else if n < 32 || (ascii && 126 < n && n < 0x10000) then unitText n
  else if ascii && 0x10000 ≤ n then
    let m := n - 0x10000
    unitText (0xD800 + m / 0x400) ++ unitText (0xDC00 + m % 0x400)
  else String.ofList [c]

def quote (s : String) : String :=
  "\"" ++ s.foldl (fun acc c => acc ++ charText ascii c) "" ++ "\""

def floatText (x : Float) : String :=
  if x.isNaN then "NaN"
  else if x.isInf then (if x > 0 then "Infinity" else "-Infinity")
  else Number.floatText x

def intText (n : Int) : Result String :=
  if Number.isWritable n then .ok (Number.intText n) else .error .unwritable

def keyText : Value → Result String
  | .str s => .ok (quote ascii s)
  | .none => .ok (quote ascii "null")
  | .bool b => .ok (quote ascii (if b then "true" else "false"))
  | .int n => do return quote ascii (← intText n)
  | .float x => .ok (quote ascii (floatText x))
  | v => .error (.wrongType
      ("keys must be str, int, float, bool or None, not " ++ v.className))

mutual

def write : Value → Result String
  | .none => .ok "null"
  | .bool b => .ok (if b then "true" else "false")
  | .int n => intText n
  | .float x => .ok (floatText x)
  | .str s => .ok (quote ascii s)
  | .list items => do return "[" ++ (← writeItems items) ++ "]"
  | .tuple items => do return "[" ++ (← writeItems items) ++ "]"
  | .dict entries => do return "\x7b" ++ (← writeEntries entries) ++ "\x7d"
  | v => .error (.wrongType ("Object of type " ++ v.className ++ " is not JSON serializable"))

def writeItems : List Value → Result String
  | [] => .ok ""
  | [x] => write x
  | x :: rest => do return (← write x) ++ ", " ++ (← writeItems rest)

def writeEntries : Entries → Result String
  | [] => .ok ""
  | [e] => writeEntry e
  | e :: rest => do return (← writeEntry e) ++ ", " ++ (← writeEntries rest)

def writeEntry : Value × Value → Result String
  | (k, v) => do return (← keyText ascii k) ++ ": " ++ (← write v)

end

end Rover.Json
