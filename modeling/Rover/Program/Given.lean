import Rover.Program.Item.Arith

/-!
# Given arguments

What a call of a built-in function gives, and the complaints about calls that do not fit.
-/

namespace Rover.Program

structure Given where
  positional : List Item
  named : Named

namespace Given

def refuse {α : Type} (reason : String) : Result α := .error (.arguments reason)

def plural (n : Nat) : String := if n = 1 then "" else "s"

variable (g : Given)

variable (function : String)

def unnamed : Result (List Item) :=
  if g.named.isEmpty then .ok g.positional
  else refuse (function ++ "() takes no keyword arguments")

def single : Result Item := do
  match ← g.unnamed function with
  | [i] => return i
  | items => refuse (function ++ "() takes exactly one argument (" ++ natText items.length
      ++ " given)")

def nothing : Result Unit := do
  let items ← g.unnamed function
  if items.isEmpty then return ()
  refuse (function ++ "() takes no arguments (" ++ natText items.length ++ " given)")

def count (items : List Item) (function : String) (least most : Nat) : Result Unit := do
  let n := items.length
  if n < least then
    refuse (function ++ " expected " ++ (if least = most then "" else "at least ")
      ++ natText least ++ " argument" ++ plural least ++ ", got " ++ natText n)
  if most < n then
    refuse (function ++ " expected " ++ (if least = most then "" else "at most ")
      ++ natText most ++ " argument" ++ plural most ++ ", got " ++ natText n)

def between (function counted : String) (least most : Nat) : Result (List Item) := do
  let items ← g.unnamed function
  count items counted least most
  return items

def unknown? (names : List String) : Option String :=
  (g.named.find? fun (n, _) => !names.contains n || n.isEmpty).map Prod.fst

def flexible (names : List String) (needed namedFrom : Nat) : Result (List (Option Item)) := do
  let given := g.positional.length
  let total := given + g.named.length
  let most := names.length
  if most < total then
    refuse (function ++ "() takes at most " ++ natText most
      ++ (if given = 0 then " keyword" else "") ++ " argument" ++ plural most ++ " ("
      ++ natText total ++ " given)")
  if namedFrom < given then
    if namedFrom = 0 then refuse (function ++ "() takes no positional arguments")
    refuse (function ++ "() takes " ++ (if needed < namedFrom then "at most " else "exactly ")
      ++ natText namedFrom ++ " positional argument" ++ plural namedFrom ++ " ("
      ++ natText given ++ " given)")
  let nameless := (names.takeWhile String.isEmpty).length
  if given < min needed nameless then
    refuse (function ++ "() takes "
      ++ (if min needed nameless < namedFrom then "at least " else "exactly ")
      ++ natText (min needed nameless) ++ " positional argument"
      ++ plural (min needed nameless) ++ " (" ++ natText given ++ " given)")
  let slot (n : String) (i : Nat) : Option Item :=
    (g.positional[i]?).or (if n.isEmpty then none else g.named.lookup n)
  let slots := names.zipIdx.map fun (n, i) => (n, i, slot n i)
  match slots.find? fun (_, i, v) => i < needed && v.isNone with
  | some (n, i, _) =>
    refuse (function ++ "() missing required argument '" ++ n ++ "' (pos "
      ++ natText (i + 1) ++ ")")
  | none => pure ()
  let twice := slots.find? fun (n, i, _) => i < given && !n.isEmpty && (g.named.lookup n).isSome
  match twice with
  | some (n, i, _) =>
    refuse ("argument for " ++ function ++ "() given by name ('" ++ n ++ "') and position ("
      ++ natText (i + 1) ++ ")")
  | none => pure ()
  match g.unknown? names with
  | some n => refuse ("'" ++ n ++ "' is an invalid keyword argument for " ++ function ++ "()")
  | none => return slots.map (·.2.2)

def textOr (usual function parameter : String) : Option Item → Result String
  | none => .ok usual
  | some (.str _ s) => .ok s
  | some i => wrongType (function ++ "() argument '" ++ parameter ++ "' must be str, not "
      ++ i.classWord)

end Given

end Rover.Program
