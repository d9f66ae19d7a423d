import Rover.Value.Arith

/-!
# Signatures

The parameters of a callable, and how the arguments of a call are bound to them.
-/

namespace Rover

structure Parameter (α : Type) where
  name : String
  default : Option α := none

/-- The name of a callable and its parameters; `rest` takes further arguments without a name and
`namedRest` those with an unknown one. -/
structure Signature (α : Type) where
  name : String
  parameters : List (Parameter α)
  positionalOnly : Nat := 0
  rest : Option String := none
  namedOnly : List (Parameter α) := []
  namedRest : Option String := none

namespace Signature

variable {α : Type}

def joinNames (names : List String) : String :=
  let quoted := names.map fun n => "'" ++ n ++ "'"
  match quoted with
  | [] => ""
  | [a] => a
  | [a, b] => a ++ " and " ++ b
  | _ =>
    let rec go : List String → String
      | [] => ""
      | [last] => "and " ++ last
      | a :: rest => a ++ ", " ++ go rest
    go quoted

def plural (n : Nat) : String := if n = 1 then "" else "s"

variable (s : Signature α)

def tooMany (given namedGiven : Nat) : Fault :=
  let total := s.parameters.length
  let required := (s.parameters.filter (·.default.isNone)).length
  let takes :=
    if required < total then
      "from " ++ natText required ++ " to " ++ natText total
        ++ " positional arguments"
    else natText total ++ " positional argument" ++ plural total
  let gave :=
    if namedGiven = 0 then natText given
    else natText given ++ " positional argument" ++ plural given ++ " (and "
      ++ natText namedGiven ++ " keyword-only argument" ++ plural namedGiven ++ ")"
  .arguments (s.name ++ "() takes " ++ takes ++ " but " ++ gave
    ++ (if given = 1 ∧ namedGiven = 0 then " was" else " were") ++ " given")

def missing (kind : String) (names : List String) : Fault :=
  .arguments (s.name ++ "() missing " ++ natText names.length ++ " required " ++ kind
    ++ " argument" ++ plural names.length ++ ": " ++ joinNames names)

def checkNamed (positional : Nat) (all : List (String × α)) : List (String × α) → Result Unit
  | [] => .ok ()
  | (name, _) :: rest =>
    match s.parameters.findIdx? (·.name == name) with
    | some i =>
      if s.positionalOnly ≤ i then
        if i < positional then .error (.arguments
          (s.name ++ "() got multiple values for argument '" ++ name ++ "'"))
        else checkNamed positional all rest
      else if s.namedRest.isSome then checkNamed positional all rest
      else
        let wrong := (s.parameters.take s.positionalOnly).map (·.name)
          |>.filter fun n => all.any (·.1 == n)
        .error (.arguments (s.name
          ++ "() got some positional-only arguments passed as keyword arguments: '"
          ++ ", ".intercalate wrong ++ "'"))
    | none =>
      if s.namedOnly.any (·.name == name) || s.namedRest.isSome then
        checkNamed positional all rest
      else .error (.arguments
        (s.name ++ "() got an unexpected keyword argument '" ++ name ++ "'"))

/-- The parameters with their values. Of several things wrong with a call, an unfit name is reported
first, then too many arguments, then missing ones. -/
def bindNames (pack : List α → α) (packNamed : List (String × α) → α)
    (positional : List α) (named : List (String × α)) : Result (List (String × α)) := do
  checkNamed s positional.length named named
  let total := s.parameters.length
  if total < positional.length ∧ s.rest.isNone then
    throw (s.tooMany positional.length
      (s.namedOnly.filter fun p => named.any (·.1 == p.name)).length)
  let given (i : Nat) (p : Parameter α) : Option α :=
    match positional[i]? with
    | some v => some v
    | none => (if s.positionalOnly ≤ i then named.lookup p.name else none).or p.default
  let slots := s.parameters.zipIdx.map fun (p, i) => (p.name, given i p)
  let lacking := (slots.filter (·.2.isNone)).map Prod.fst
  if !lacking.isEmpty then throw (s.missing "positional" lacking)
  let namedSlots := s.namedOnly.map fun p => (p.name, (named.lookup p.name).or p.default)
  let lacking := (namedSlots.filter (·.2.isNone)).map Prod.fst
  if !lacking.isEmpty then throw (s.missing "keyword-only" lacking)
  let known (name : String) : Bool :=
    (s.parameters.drop s.positionalOnly).any (·.name == name)
      || s.namedOnly.any (·.name == name)
  let rest := s.rest.toList.map fun n => (n, pack (positional.drop total))
  let namedRest := s.namedRest.toList.map fun n =>
    (n, packNamed (named.filter fun (name, _) => !known name))
  return (slots ++ namedSlots).filterMap (fun (n, v) => v.map (n, ·)) ++ rest ++ namedRest

def bind (s : Signature Value) (positional : List Value) (named : Record := []) :
    Result (List Value) := do
  return (← s.bindNames Value.tuple record positional named).map Prod.snd

end Signature

end Rover
