import Rover.Text.Printable

/-!
# Quoted text

A text between quotes as log records and reports show it: single quotes, or double quotes if the
text holds a single quote and no double one; backslashes, the quote itself and characters that
cannot be printed are escaped. Some texts are sequences of units of sixteen bits in which a half of a
pair may stand alone.
-/

namespace Rover

namespace Half

def base : Nat := 0x10F800

def toChar (code : Nat) : Char :=
  if 0xD800 ≤ code ∧ code < 0xE000 then Char.ofNat (base + (code - 0xD800)) else Char.ofNat code

def isHalf (c : Char) : Bool := base ≤ c.toNat

def code (c : Char) : Nat := if isHalf c then c.toNat - base + 0xD800 else c.toNat

end Half

namespace Quoted

def hex (width n : Nat) : String :=
  let digits := Nat.toDigits 16 n
  String.ofList (List.replicate (width - digits.length) '0' ++ digits)

def escape (quote : Char) (c : Char) : String :=
  let n := Half.code c
  if c == quote || c == '\\' then String.ofList ['\\', c]
  else if c == '\n' then "\\n"
  else if c == '\r' then "\\r"
  else if c == '\t' then "\\t"
  else if isPrintable c then String.ofList [c]
  else if n < 0x100 then "\\x" ++ hex 2 n
  else if n < 0x10000 then "\\u" ++ hex 4 n
  else "\\U" ++ hex 8 n

def encode (s : String) : String :=
  let cs := s.toList
  let quote := if cs.contains '\'' && !cs.contains '"' then '"' else '\''
  String.ofList [quote] ++ String.join (cs.map (escape quote)) ++ String.ofList [quote]

end Quoted

end Rover
