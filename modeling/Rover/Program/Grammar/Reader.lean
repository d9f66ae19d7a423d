import Rover.Program.Interpolation

/-!
# Reading tokens

The state of reading a program: the tokens ahead and what is known of the names on every level.
-/

namespace Rover.Program.Grammar

structure Scope where
  path : String := ""
  isFunction : Bool := false
  inLoop : Bool := false
  height : Nat := 0
  bound : List String := []
  loaded : List String := []
  used : List String := []
  globals : List String := []
  yields : Bool := false

structure Reader where
  tokens : List Token
  scopes : List Scope := [{}]
  prints : Bool := false
  misplaced : Option (Nat × Nat) := none
  atHead : Bool := true

abbrev Parse := StateT Reader (Except Refusal)

def refuse {α : Type} : Parse α := throw .malformed

def refuseIf (c : Bool) : Parse Unit := if c then refuse else pure ()

def peek : Parse Token := return (← get).tokens.headD ⟨.finish, 0, 0⟩

def advance : Parse Unit := modify fun r => { r with tokens := r.tokens.drop 1 }

variable (s : String)

def sees : Parse Bool := do
  match (← peek).lexeme with
  | .sign t => return t == s
  | _ => return false

def takes : Parse Bool := do
  if ← sees s then
    advance
    return true
  return false

def need : Parse Unit := do
  if !(← takes s) then refuse

def seesWord : Parse Bool := do
  match (← peek).lexeme with
  | .keyword t => return t == s
  | _ => return false

def takesWord : Parse Bool := do
  if ← seesWord s then
    advance
    return true
  return false

def needWord : Parse Unit := do
  if !(← takesWord s) then refuse

def needName : Parse String := do
  match (← peek).lexeme with
  | .name s =>
    advance
    return s
  | _ => refuse

def needNewline : Parse Unit := do
  match (← peek).lexeme with
  | .newline => advance
  | _ => refuse

def seesEnd : Parse Bool := do
  match (← peek).lexeme with
  | .newline | .sign ";" => return true
  | _ => return false

def startsExpression : Parse Bool := do
  match (← peek).lexeme with
  | .name _ | .number _ | .text _ | .bytes _ | .template .. => return true
  | .keyword s => return ["None", "True", "False", "not", "lambda"].contains s
  | .sign s => return ["(", "[", "\x7b", "-", "+", "~", "*"].contains s
  | _ => return false

def seesNoExpression : Parse Bool := return !(← startsExpression)

def collect {α : Type} (step : Parse (Option α)) : Nat → Parse (List α)
  | 0 => refuse
  | fuel + 1 => do
    match ← step with
    | some a => return a :: (← collect step fuel)
    | none => return []

def each {α : Type} (begins : Parse Bool) (step : Parse α) (fuel : Nat) : Parse (List α) :=
  collect (do if ← begins then return some (← step) else return none) fuel

def afterCommas {α : Type} (stop : Parse Bool) (step : Parse α) (fuel : Nat) : Parse (List α) :=
  each (do if ← takes "," then return !(← stop) else return false) step fuel

def orElse {α : Type} (first second : Parse α) : Parse α := tryCatch first fun _ => second

variable (t : Token)

def misplace : Parse Unit :=
  modify fun r => { r with misplaced := r.misplaced <|> some (t.line, t.column) }

def onlyAtStart : Parse Unit := do
  if !t.atStart then misplace t

def onScope (f : Scope → Scope) : Parse Unit :=
  modify fun r => match r.scopes with
    | s :: outer => { r with scopes := f s :: outer }
    | [] => r

def scope : Parse Scope := return (← get).scopes.headD {}

def isHidden : Bool :=
  (s.startsWith "_" && s != "_") || s.endsWith "__roles__"
    || ["print", "printed", "builtins", "breakpoint"].contains s

def checkName : Parse Unit := refuseIf (isHidden s)

def useName (s : String) : Parse Expr := do
  if s == "print" || s == "printed" then
    onlyAtStart t
    modify fun r => { r with prints := true }
    let own : Expr := .name "_print"
    return if s == "print" then .member own "_call_print" else .call own [] []
  else
    checkName s
    onScope fun sc => { sc with used := s :: sc.used }
    return .name s

def bindAny : Parse Unit :=
  onScope fun sc => { sc with bound := if sc.bound.contains s then sc.bound else s :: sc.bound }

def loadName : Parse Unit :=
  onScope fun sc => { sc with loaded := s :: sc.loaded }

def bindName : Parse Unit := do
  checkName s
  bindAny s

def declareGlobal : Parse Unit := do
  let s ← needName
  let sc ← scope
  refuseIf (sc.bound.contains s || sc.used.contains s)
  onScope fun sc => { sc with globals := s :: sc.globals }

def blockLimit : Nat := 20

def nested {α : Type} (s : Scope) (body : Parse α) : Parse (α × Scope) := do
  modify fun r => { r with scopes := s :: r.scopes }
  let a ← body
  let inner ← scope
  refuseIf (blockLimit < inner.height)
  modify fun r => { r with scopes := r.scopes.drop 1 }
  return (a, inner)

def measured {α : Type} (body : Parse α) : Parse (α × Nat) := do
  let outer := (← scope).height
  onScope fun sc => { sc with height := 0 }
  let a ← body
  let height := (← scope).height
  onScope fun sc => { sc with height := outer }
  return (a, height)

def noteHeight (n : Nat) : Parse Unit := onScope fun sc => { sc with height := max sc.height n }

def inBlocks {α : Type} (n : Nat) (body : Parse α) : Parse α := do
  let (a, height) ← measured body
  noteHeight (height + n)
  return a

def inLoop {α : Type} (body : Parse α) : Parse α := do
  let outer := (← scope).inLoop
  onScope fun sc => { sc with inLoop := true }
  let a ← inBlocks 1 body
  onScope fun sc => { sc with inLoop := outer }
  return a

def fullName (name : String) : Parse String := do
  let sc ← scope
  return if sc.globals.contains name then name else sc.path ++ name

def Scope.locals (sc : Scope) : List String :=
  (sc.bound ++ sc.loaded).filter fun n => !sc.globals.contains n

def functionScope (full : String) (parameters : List String) : Scope :=
  { path := full ++ ".<locals>.", isFunction := true, bound := parameters }

def noteYield : Parse Unit := do
  refuseIf !(← scope).isFunction
  onScope fun sc => { sc with yields := true }

structure Parameters where
  shape : Shape := { name := "" }
  starred : Bool := false
  closed : Bool := false
  defaults : List Expr := []
  namedDefaults : List (String × Expr) := []
  annotations : List (String × Expr) := []

namespace Parameters

variable (p : Parameters)

def names : List String :=
  p.shape.positional ++ p.shape.namedOnly ++ p.shape.rest.toList ++ p.shape.namedRest.toList

def visibleNames : List String := p.names.drop p.shape.positionalOnly

def addPlain (name : String) (default : Option Expr) : Option Parameters :=
  if p.starred then
    some { p with
      shape := { p.shape with namedOnly := p.shape.namedOnly ++ [name] }
      namedDefaults := p.namedDefaults ++ default.toList.map (name, ·) }
  else
    let p := { p with shape := { p.shape with positional := p.shape.positional ++ [name] } }
    match default with
    | some e => some { p with defaults := p.defaults ++ [e] }
    | none => if p.defaults.isEmpty then some p else none

def wellFormed : Bool :=
  let names := p.names
  names.eraseDups.length = names.length
    && (!p.starred || p.shape.rest.isSome || !p.shape.namedOnly.isEmpty)

def annotationsInOrder : List Expr :=
  let only := p.shape.positionalOnly
  let order := p.shape.positional.drop only ++ p.shape.positional.take only
    ++ p.shape.rest.toList ++ p.shape.namedOnly ++ p.shape.namedRest.toList
  order.filterMap fun n => p.annotations.lookup n

end Parameters

def operatorsAt : Nat → List (String × BinaryOp)
  | 0 => [("*", .mul), ("/", .div), ("//", .floorDiv), ("%", .mod)]
  | 1 => [("+", .add), ("-", .sub)]
  | 2 => [("<<", .shiftLeft), (">>", .shiftRight)]
  | 3 => [("&", .bitAnd)]
  | 4 => [("^", .bitXor)]
  | _ => [("|", .bitOr)]

def operator? (level : Nat) : Parse (Option BinaryOp) := do
  match (← peek).lexeme with
  | .sign s =>
    match (operatorsAt level).lookup s with
    | some op =>
      advance
      return some op
    | none => return none
  | _ => return none

def unaryOperator? : Parse (Option UnaryOp) := do
  if ← takes "-" then return some .neg
  if ← takes "+" then return some .pos
  if ← takes "~" then return some .invert
  return none

def comparison? : Parse (Option Comparison) := do
  if ← takes "<" then return some .lt
  if ← takes ">" then return some .gt
  if ← takes "==" then return some .eq
  if ← takes ">=" then return some .ge
  if ← takes "<=" then return some .le
  if ← takes "!=" then return some .ne
  if ← takesWord "in" then return some .isIn
  if ← takesWord "is" then
    return some (if ← takesWord "not" then .notIdentical else .identical)
  if ← takesWord "not" then
    needWord "in"
    return some .notIn
  return none

def combining : List String :=
  ["+=", "-=", "*=", "/=", "//=", "%=", "&=", "|=", "^=", ">>=", "<<=", "**="]

def innerNames : List String :=
  ["__init__", "__contains__", "__lt__", "__le__", "__eq__", "__ne__", "__gt__", "__ge__"]

def features : List String := ["nested_scopes", "generators", "division", "absolute_import",
  "with_statement", "print_function", "unicode_literals", "barry_as_FLUFL", "generator_stop",
  "annotations"]

mutual

def targetOf? : Expr → Option Target
  | .name s => some (.name s)
  | .list items => do
    let (before, star) ← placesOf? items
    return .list before star
  | .tuple items => do
    let (before, star) ← placesOf? items
    return .tuple before star
  | .member .. => some (.absent "_write_")
  | .absent "_getitem_" => some (.absent "_write_")
  | _ => none

def placesOf? : List Expr → Option (List Target × Option (Target × List Target))
  | [] => some ([], none)
  | .spread e :: rest => do
    let t ← targetOf? e
    match ← placesOf? rest with
    | (after, none) => return ([], some (t, after))
    | (_, some _) => none
  | e :: rest => do
    let t ← targetOf? e
    let (before, star) ← placesOf? rest
    return (t :: before, star)

end

mutual

def targetNames : Target → List String
  | .name s => [s]
  | .list before star | .tuple before star =>
    targetsNames before ++ (match star with
      | some (t, after) => targetNames t ++ targetsNames after
      | none => [])
  | .absent _ => []

def targetsNames : List Target → List String
  | [] => []
  | t :: rest => targetNames t ++ targetsNames rest

end

def target (e : Expr) : Parse Target := do
  match targetOf? e with
  | some t =>
    (targetNames t).forM bindName
    return t
  | none => refuse

def isSpread : Expr → Bool
  | .spread _ => true
  | _ => false

def isTuple : Target → Bool
  | .tuple .. => true
  | _ => false

mutual

def deletedNames? : Expr → Option (List String × Bool)
  | .name s => some ([s], true)
  | .list items | .tuple items => deletedAll? items
  | .member .. => some ([], false)
  | .absent "_getitem_" => some ([], false)
  | _ => none

def deletedAll? : List Expr → Option (List String × Bool)
  | [] => some ([], true)
  | e :: rest => do
    let (names, plain) ← deletedNames? e
    let (more, morePlain) ← deletedAll? rest
    return (names ++ more, plain && morePlain)

end

end Rover.Program.Grammar
