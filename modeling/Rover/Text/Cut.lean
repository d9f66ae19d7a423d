import Rover.Text.Digit

/-!
# Cutting texts

Where a part stands in a text, and how a text is cut at parts, at blanks and at the ends of lines.
-/

namespace Rover.Cut

def placesFrom (part : Chars) : Nat → Chars → List Nat
  | n, [] => if part.isEmpty then [n] else []
  | n, c :: cs =>
    if part.isPrefixOf (c :: cs) then n :: placesFrom part (n + 1) cs
    else placesFrom part (n + 1) cs

variable (part cs : Chars)

def first? : Option Nat := (placesFrom part 0 cs).head?

def last? : Option Nat := (placesFrom part 0 cs).getLast?

def atFirst? : Option (Chars × Chars) :=
  (first? part cs).map fun n => (cs.take n, cs.drop (n + part.length))

def atLast? : Option (Chars × Chars) :=
  (last? part cs).map fun n => (cs.take n, cs.drop (n + part.length))

def split (part : Chars) : Nat → Chars → List Chars
  | 0, cs => [cs]
  | most + 1, cs =>
    match atFirst? part cs with
    | some (before, after) => before :: split part most after
    | none => [cs]

def splitRight (part : Chars) (most : Nat) (cs : Chars) : List Chars :=
  ((split part.reverse most cs.reverse).map List.reverse).reverse

def words (blank : Char → Bool) : Nat → Chars → List Chars
  | 0, cs =>
    match cs.dropWhile blank with
    | [] => []
    | rest => [rest]
  | most + 1, cs =>
    match cs.dropWhile blank with
    | [] => []
    | rest =>
      let word := rest.takeWhile fun c => !blank c
      word :: words blank most (rest.drop word.length)

def wordsRight (blank : Char → Bool) (most : Nat) (cs : Chars) : List Chars :=
  ((words blank most cs.reverse).map List.reverse).reverse

def endsLine (c : Char) : Bool :=
  [10, 11, 12, 13, 28, 29, 30, 0x85, 0x2028, 0x2029].contains c.toNat

def lines (ends : Char → Bool) (keep : Bool) : Chars → Chars → List Chars
  | [], line => if line.isEmpty then [] else [line.reverse]
  | '\r' :: '\n' :: rest, line =>
    (if keep then ('\n' :: '\r' :: line).reverse else line.reverse) :: lines ends keep rest []
  | c :: rest, line =>
    if ends c then
      (if keep then (c :: line).reverse else line.reverse) :: lines ends keep rest []
    else lines ends keep rest (c :: line)

def count : Nat :=
  if part.isEmpty then cs.length + 1 else (split part cs.length cs).length - 1

def weave (new : Chars) : Nat → Chars → Chars
  | 0, cs => cs
  | _ + 1, [] => new
  | most + 1, c :: cs => new ++ c :: weave new most cs

def replace (part new : Chars) (most : Nat) (cs : Chars) : Chars :=
  if part.isEmpty then weave new most cs else new.intercalate (split part most cs)

def expandTabs (width : Nat) : Nat → Chars → Chars
  | _, [] => []
  | column, c :: cs =>
    if c == '\t' then
      let n := if width = 0 then 0 else width - column % width
      List.replicate n ' ' ++ expandTabs width (column + n) cs
    else if c == '\n' || c == '\r' then c :: expandTabs width 0 cs
    else c :: expandTabs width (column + 1) cs

end Rover.Cut
