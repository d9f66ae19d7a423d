import Rover.Program.Fold
import Rover.Program.Grammar.Reader

/-!
# The grammar of programs

Reads the tokens of a program into a tree and refuses texts that do not follow the language or do
what programs may not do: hidden names, evaluation of texts, asynchronous code, annotations of
names.
-/

namespace Rover.Program

namespace Grammar

structure Arguments where
  positional : List Expr := []
  named : List (String × Expr) := []
  spread : Bool := false
  spreadNames : Bool := false
  calculated : Bool := false

def argumentName? : Parse (Option String) := do
  match (← get).tokens with
  | ⟨.name s, _, _⟩ :: ⟨.sign "=", _, _⟩ :: _ => return some s
  | _ => return none

def textLexeme? : Parse (Option Lexeme) := do
  let t ← peek
  match t.lexeme with
  | .text _ | .bytes _ | .template .. =>
    advance
    return some t.lexeme
  | _ => return none

def bytesOf? : Lexeme → Option (List Nat)
  | .bytes bs => some bs
  | _ => none

def isTemplate : Lexeme → Bool
  | .template .. => true
  | _ => false

def partsOf? : Lexeme → Option (List Interpolation)
  | .text s => some [.fixed s]
  | .template raw body => Interpolation.parts? raw body
  | _ => none

def merged : List Piece → List Piece
  | .fixed s :: rest =>
    match merged rest with
    | .fixed t :: more => .fixed (s ++ t) :: more
    | more => if s.isEmpty then more else .fixed s :: more
  | p :: rest => p :: merged rest
  | [] => []

def fixedText (pieces : List Piece) : String :=
  pieces.foldl (fun s p => match p with
    | .fixed t => s ++ t
    | .field .. => s) ""

def assignment (start : Token) (targets : List Target) (value : Expr) : Parse (List Stmt) := do
  if targets.any isTuple then
    onlyAtStart start
    return targets.reverse.map fun t => .assign [t] value
  return [.assign targets value]

def loadVisible (s : String) : Parse Unit := do
  checkName s
  loadName s

def leaveHead : Parse Unit := modify fun r => { r with atHead := false }

def begin : Parse Unit := do
  leaveHead
  advance

/-- Rules that others refer to before they are defined, and how often a rule can be repeated. -/
structure Rules where
  fuel : Nat
  expression : Parse Expr
  disjunction : Parse Expr
  operand : Parse Expr
  primary : Parse Expr
  atom : Parse Expr
  statement : Parse (List Stmt)

section
variable (g : Rules)

def targets : Parse Target := do
  let one : Parse Expr := do
    if ← takes "*" then return .spread (← g.primary) else g.primary
  let first ← one
  if ← sees "," then
    target (.tuple (first :: (← afterCommas seesNoExpression one g.fuel)))
  else target first

def clauses (start : Token) : Nat → Parse Bool
  | 0 => refuse
  | fuel + 1 => do
    if !(← takesWord "for") then return false
    misplace start
    let _ ← targets g
    needWord "in"
    let _ ← g.disjunction
    let _ ← each (takesWord "if") g.disjunction fuel
    let _ ← clauses start fuel
    return true

def element : Parse Expr := do
  if ← takes "*" then return .spread (← g.operand)
  g.expression

def series (closing : String) : Parse (List Expr) := do
  let rest ← afterCommas (sees closing) (element g) g.fuel
  need closing
  return rest

variable (start : Token)

/-- Whether clauses follow a first element, up to the closing bracket. -/
def calculates (first : Expr) (closing : String) : Parse Bool := do
  if isSpread first then return false
  if ← clauses g start g.fuel then
    need closing
    return true
  return false

def entries : Nat → Parse (List (Option Expr × Expr))
  | 0 => refuse
  | fuel + 1 => do
    if ← takes "\x7d" then return []
    let entry ← if ← takes "**" then pure (none, ← g.operand)
      else do
        let k ← g.expression
        need ":"
        pure (some k, ← g.expression)
    if ← takes "," then return entry :: (← entries fuel)
    need "\x7d"
    return [entry]

def parameterList (inBrackets : Bool) (p : Parameters) : Nat → Parse Parameters
  | 0 => refuse
  | fuel + 1 => do
    let annotated (p : Parameters) (name : String) (starred : Bool) : Parse Parameters := do
      if inBrackets then
        if ← takes ":" then
          let e ← if starred then element g else g.expression
          return { p with annotations := p.annotations ++ [(name, e)] }
      return p
    let goOn (p : Parameters) : Parse Parameters := do
      if ← takes "," then
        -- nothing follows the parameter that takes all other names
        if p.closed then return p else parameterList inBrackets p fuel
      else return p
    match (← peek).lexeme with
    | .name s =>
      advance
      let p ← annotated p s false
      let default ← if ← takes "=" then some <$> g.expression else pure none
      match p.addPlain s default with
      | some p => goOn p
      | none => refuse
    | .sign "*" =>
      advance
      refuseIf p.starred
      let p := { p with starred := true }
      match (← peek).lexeme with
      | .name s =>
        advance
        goOn (← annotated { p with shape := { p.shape with rest := some s } } s true)
      | _ =>
        refuseIf !(← sees ",")
        goOn p
    | .sign "**" =>
      advance
      let s ← needName
      goOn (← annotated
        { p with shape := { p.shape with namedRest := some s }, closed := true } s false)
    | .sign "/" =>
      advance
      let n := p.shape.positional.length
      refuseIf (n = 0 || p.starred || p.shape.positionalOnly != 0)
      goOn { p with shape := { p.shape with positionalOnly := n } }
    | _ => return p

def parameters (inBrackets : Bool) : Parse Parameters := do
  let p ← parameterList g inBrackets {} g.fuel
  refuseIf !p.wellFormed
  p.visibleNames.forM checkName
  return p

def expressions : Parse Expr := do
  let first ← element g
  if ← sees "," then
    return .tuple (first :: (← afterCommas seesNoExpression (element g) g.fuel))
  refuseIf (isSpread first)
  return first

def yielded : Parse Expr := do
  needWord "yield"
  noteYield
  if ← takesWord "from" then return .yieldFrom (← g.expression)
  if ← startsExpression then return .yield (some (← expressions g))
  return .yield none

def pieces (parts : List Interpolation) : Nat → Parse (List Piece)
  | 0 => refuse
  | fuel + 1 => do
    parts.mapM fun
      | .fixed s => return .fixed s
      | .field source conversion spec => do
        match Token.scanFrom 0 ('(' :: source ++ [')']) with
        | some inner =>
          let outer := (← get).tokens
          modify fun r => { r with tokens := inner }
          let e ← g.atom
          needNewline
          modify fun r => { r with tokens := outer }
          return .field e conversion (merged (← pieces spec fuel))
        | none => refuse

def texts : Parse Expr := do
  let lexemes ← collect textLexeme? g.fuel
  match lexemes.mapM bytesOf? with
  | some bs => return .const (.bytes .value bs.flatten)
  | none =>
    match lexemes.mapM partsOf? with
    | some parts =>
      let all ← pieces g parts.flatten g.fuel
      if lexemes.any isTemplate then return .joined (merged all)
      return .const (.str .value (fixedText all))
    | none => refuse

def arguments (a : Arguments) : Nat → Parse Arguments
  | 0 => refuse
  | fuel + 1 => do
    if ← takes ")" then return a
    let goOn (a : Arguments) : Parse Arguments := do
      if ← takes ")" then return a
      need ","
      arguments a fuel
    match ← argumentName? with
    | some s =>
      advance
      advance
      let e ← g.expression
      refuseIf (a.named.any (·.1 == s))
      goOn { a with named := a.named ++ [(s, e)] }
    | none =>
      if ← takes "**" then
        let _ ← g.expression
        goOn { a with spread := true, spreadNames := true }
      else if ← takes "*" then
        let _ ← g.expression
        refuseIf a.spreadNames
        goOn { a with spread := true }
      else
        let start ← peek
        let e ← g.expression
        if ← clauses g start g.fuel then
          refuseIf (!a.positional.isEmpty || !a.named.isEmpty || a.spread)
          need ")"
          return { positional := [e], calculated := true }
        refuseIf (!a.named.isEmpty || a.spreadNames)
        goOn { a with positional := a.positional ++ [e] }

def positions : Parse Unit := do
  let part : Parse Unit := do
    if !(← sees ":") && !(← sees "]") && !(← sees ",") then
      let _ ← g.expression
  let one : Parse Unit := do
    if ← takes "*" then
      let _ ← g.expression
    else
      refuseIf ((← sees "]") || (← sees ","))
      part
      if ← takes ":" then
        part
        if ← takes ":" then part
  one
  let _ ← afterCommas (sees "]") one g.fuel
  need "]"

def trailers (start : Token) (e : Expr) : Nat → Parse Expr
  | 0 => refuse
  | fuel + 1 => do
    if ← takes "(" then
      match e with
      | .name "eval" | .name "exec" => refuse
      | _ => pure ()
      let a ← arguments g {} g.fuel
      if a.spread then
        onlyAtStart start
        trailers start (.absent "_apply_") fuel
      else trailers start (.call e a.positional a.named) fuel
    else if ← takes "." then
      let name ← needName
      refuseIf (name.startsWith "_" || name.endsWith "__roles__")
      onlyAtStart start
      trailers start (.member e name) fuel
    else if ← takes "[" then
      positions g
      onlyAtStart start
      trailers start (.absent "_getitem_") fuel
    else return e

def atom : Parse Expr := do
  let t ← peek
  match t.lexeme with
  | .name s =>
    advance
    useName t s
  | .number i =>
    advance
    return .const i
  | .text _ | .bytes _ | .template .. => texts g
  | .keyword "None" =>
    advance
    return .const .none
  | .keyword "True" =>
    advance
    return .const (.bool true)
  | .keyword "False" =>
    advance
    return .const (.bool false)
  | .sign "(" =>
    advance
    if ← takes ")" then return .tuple []
    if ← seesWord "yield" then
      let e ← yielded g
      need ")"
      return e
    let first ← element g
    if ← calculates g t first ")" then return .const .none
    if ← sees "," then return .tuple (first :: (← series g ")"))
    need ")"
    refuseIf (isSpread first)
    return first
  | .sign "[" =>
    advance
    if ← takes "]" then return .list []
    let first ← element g
    if ← calculates g t first "]" then return .const .none
    return .list (first :: (← series g "]"))
  | .sign "\x7b" =>
    advance
    if ← takes "\x7d" then return .dict []
    if ← sees "**" then return .dict (← entries g g.fuel)
    if ← sees "*" then
      let first ← element g
      return .set (first :: (← series g "\x7d"))
    let first ← g.expression
    if ← takes ":" then
      let v ← g.expression
      if ← calculates g t first "\x7d" then return .const .none
      if ← takes "," then return .dict ((some first, v) :: (← entries g g.fuel))
      need "\x7d"
      return .dict [(some first, v)]
    if ← calculates g t first "\x7d" then return .const .none
    return .set (first :: (← series g "\x7d"))
  | _ => refuse

def primary : Parse Expr := do
  let start ← peek
  trailers g start (← atom g) g.fuel

def unary : Nat → Parse Expr
  | 0 => refuse
  | fuel + 1 => do
    match ← unaryOperator? with
    | some op => return .unary op (← unary fuel)
    | none =>
      let base ← primary g
      if ← takes "**" then return .binary .pow base (← unary fuel)
      return base

def binary : Nat → Parse Expr
  | 0 => unary g g.fuel
  | weaker + 1 => do
    let first ← binary weaker
    let rest ← collect (do
      match ← operator? weaker with
      | some op => return some (op, ← binary weaker)
      | none => return none) g.fuel
    return rest.foldl (fun a (op, b) => .binary op a b) first

def inversion : Nat → Parse Expr
  | 0 => refuse
  | fuel + 1 => do
    if ← takesWord "not" then return .unary .not (← inversion fuel)
    let first ← binary g 6
    let rest ← collect (do
      match ← comparison? with
      | some c => return some (c, ← binary g 6)
      | none => return none) fuel
    return if rest.isEmpty then first else .compare first rest

def conjunction : Parse Expr := do
  let first ← inversion g g.fuel
  let rest ← each (takesWord "and") (inversion g g.fuel) g.fuel
  return if rest.isEmpty then first else .both (first :: rest)

def disjunction : Parse Expr := do
  let first ← conjunction g
  let rest ← each (takesWord "or") (conjunction g) g.fuel
  return if rest.isEmpty then first else .either (first :: rest)

def expression : Parse Expr := do
  if ← takesWord "lambda" then
    let p ← parameters g false
    need ":"
    let name ← fullName "<lambda>"
    let (body, inner) ← nested (functionScope name p.names) g.expression
    let shape := { p.shape with name, locals := inner.locals, yields := inner.yields }
    return .lambda (.mk shape p.defaults p.namedDefaults [] [.ret (some body)])
  let yes ← disjunction g
  if ← takesWord "if" then
    let test ← disjunction g
    needWord "else"
    return .choice test yes (← g.expression)
  return yes

def source : Parse Expr := do if ← seesWord "yield" then yielded g else expressions g

def plain : Parse (List Stmt) := do
  let start ← peek
  let first ← source g
  let sides ← each (takes "=") (source g) g.fuel
  match (first :: sides).reverse with
  | value :: left@(_ :: _) => assignment start (← left.reverse.mapM target) value
  | _ =>
    match (← peek).lexeme with
    | .sign s =>
      if combining.contains s then
        match first with
        | .name n =>
          bindName n
          onlyAtStart start
          advance
          let _ ← source g
          return [.eval (.absent "_inplacevar_")]
        | _ => refuse
      else return [.eval first]
    | _ => return [.eval first]

def dotted : Parse (List String) := do
  let first ← needName
  let rest ← each (takes ".") needName g.fuel
  return first :: rest

def imported : Parse Unit := do
  let one : Parse Unit := do
    let parts ← dotted g
    checkName (".".intercalate parts)
    if ← takesWord "as" then loadVisible (← needName) else loadName (parts.headD "")
  one
  let _ ← afterCommas (return false) one g.fuel

def importedFrom : Parse Bool := do
  let dots ← each (return (← takes ".") || (← takes "...")) (pure ()) g.fuel
  let place ← if !dots.isEmpty && (← seesWord "import") then pure [] else dotted g
  let choice := place == ["__future__"]
  needWord "import"
  let bracket ← takes "("
  let one : Parse Unit := do
    let name ← needName
    checkName name
    refuseIf (choice && !features.contains name)
    if ← takesWord "as" then loadVisible (← needName) else loadName name
  one
  let _ ← afterCommas (if bracket then sees ")" else return false) one g.fuel
  if bracket then need ")"
  refuseIf (choice && !(← get).atHead)
  return choice

def simple : Parse (List Stmt) := do
  let only (s : Stmt) : Parse (List Stmt) := do
    leaveHead
    return [s]
  match (← peek).lexeme with
  | .keyword "pass" =>
    advance
    only .pass
  | .keyword "break" =>
    advance
    refuseIf !(← scope).inLoop
    only .leave
  | .keyword "continue" =>
    advance
    refuseIf !(← scope).inLoop
    only .again
  | .keyword "return" =>
    advance
    refuseIf !(← scope).isFunction
    if ← seesEnd then only (.ret none) else only (.ret (some (← expressions g)))
  | .keyword "raise" =>
    advance
    if ← seesEnd then only (.raise none none)
    else
      let what ← expression g
      let cause ← if ← takesWord "from" then some <$> expression g else pure none
      only (.raise (some what) cause)
  | .keyword "assert" =>
    advance
    let test ← expression g
    let message ← if ← takes "," then some <$> expression g else pure none
    only (.assert test message)
  | .keyword "global" =>
    advance
    declareGlobal
    let _ ← afterCommas (return false) declareGlobal g.fuel
    only .pass
  | .keyword "del" =>
    advance
    let t ← peek
    let first ← primary g
    let rest ← afterCommas seesNoExpression (primary g) g.fuel
    match deletedAll? (first :: rest) with
    | some (names, whole) =>
      names.forM bindName
      if !whole then misplace t
      only (.delete names)
    | none => refuse
  | .keyword "import" =>
    advance
    imported g
    only .load
  | .keyword "from" =>
    advance
    if !(← importedFrom g) then leaveHead
    return [.load]
  | _ =>
    let stmts ← plain g
    match stmts with
    | [.eval (.const (.str ..))] => pure ()
    | _ => leaveHead
    return stmts

def another : Parse (Option (List Stmt)) := do
  if ← takes ";" then
    match (← peek).lexeme with
    | .newline => return none
    | _ => return some (← simple g)
  else return none

def line : Parse (List Stmt) := do
  let first ← simple g
  let rest ← collect (another g) g.fuel
  needNewline
  return first ++ rest.flatten

def statements : Parse (List Stmt) := do
  let parts ← collect (do
    match (← peek).lexeme with
    | .dedent | .finish => return none
    | _ => return some (← g.statement)) g.fuel
  return parts.flatten

def block : Parse (List Stmt) := do
  need ":"
  match (← peek).lexeme with
  | .newline =>
    advance
    match (← peek).lexeme with
    | .indent => advance
    | _ => refuse
    let body ← statements g
    match (← peek).lexeme with
    | .dedent => advance
    | _ => refuse
    return body
  | _ => line g

def blockAfter (word : String) : Parse (Option (List Stmt)) := do
  if ← takesWord word then return some (← block g) else return none

def branch : Nat → Parse Stmt
  | 0 => refuse
  | fuel + 1 => do
    let test ← expression g
    let yes ← block g
    if ← takesWord "elif" then return .branch test yes [← branch fuel]
    return .branch test yes ((← blockAfter g "else").getD [])

def handlers : Nat → Parse (List Handler)
  | 0 => refuse
  | fuel + 1 => do
    if !(← takesWord "except") then return []
    if ← sees ":" then
      let body ← block g
      refuseIf (← seesWord "except")
      return [.mk none body]
    let kind ← expression g
    if ← takesWord "as" then bindName (← needName)
    let body ← block g
    return .mk (some kind) body :: (← handlers fuel)

def guarded : Parse Stmt := do
  let (body, h) ← measured (block g)
  let (hs, hHandlers) ← measured (handlers g g.fuel)
  let (otherwise, hOtherwise) ←
    if hs.isEmpty then pure (none, 0) else measured (blockAfter g "else")
  let (final, hFinal) ← measured (blockAfter g "finally")
  refuseIf (hs.isEmpty && final.isNone)
  -- the handlers and the final block each put a block around what they watch
  let watched := if final.isSome && !hs.isEmpty then 1 else 0
  noteHeight (h + 1 + watched)
  if !hs.isEmpty then noteHeight (hHandlers + 2 + watched)
  noteHeight (hOtherwise + watched)
  if final.isSome then noteHeight (hFinal + 1)
  return .guard body hs (otherwise.getD []) (final.getD [])

def managers : Parse (List Expr) := do
  let one : Parse Expr := do
    let e ← expression g
    if ← takesWord "as" then
      let t ← target (← primary g)
      if isTuple t then onlyAtStart start
    return e
  let inBrackets : Parse (List Expr) := do
    need "("
    let first ← one
    let rest ← afterCommas (sees ")") one g.fuel
    need ")"
    refuseIf !(← sees ":")
    return first :: rest
  orElse inBrackets do
    let first ← one
    return first :: (← afterCommas (return false) one g.fuel)

def function (decorators : List Expr) : Parse Stmt := do
  let name ← needName
  if !(innerNames.contains name && start.column != 0) then checkName name
  need "("
  let p ← parameters g true
  need ")"
  let result ← if ← takes "->" then pure [← expression g] else pure []
  let full ← fullName name
  let (body, inner) ← nested (functionScope full p.names) (block g)
  bindAny name
  let shape := { p.shape with
    name := full
    locals := inner.locals
    globals := inner.globals
    yields := inner.yields }
  return .define name
    (.mk shape p.defaults p.namedDefaults (p.annotationsInOrder ++ result) body) decorators

def classBody (decorators : List Expr) : Parse Stmt := do
  let name ← needName
  checkName name
  if ← takes "(" then
    let a ← arguments g {} g.fuel
    refuseIf (a.calculated || a.named.any (·.1 == "metaclass"))
  let _ ← nested { path := (← fullName name) ++ "." } (block g)
  bindAny name
  return .defineClass decorators

def statement : Parse (List Stmt) := do
  let t ← peek
  match t.lexeme with
  | .keyword "if" =>
    begin
    return [← branch g g.fuel]
  | .keyword "while" =>
    begin
    let test ← expression g
    let body ← inLoop (block g)
    return [.loop test body ((← blockAfter g "else").getD [])]
  | .keyword "for" =>
    begin
    misplace t
    let _ ← targets g
    needWord "in"
    let _ ← expressions g
    let _ ← inLoop (block g)
    let _ ← blockAfter g "else"
    return [.pass]
  | .keyword "try" =>
    begin
    return [← guarded g]
  | .keyword "with" =>
    begin
    let es ← managers g t
    let _ ← inBlocks es.length (block g)
    return [.within (es.headD (.const .none))]
  | .keyword "def" =>
    begin
    return [← function g t []]
  | .keyword "class" =>
    begin
    return [← classBody g []]
  | .sign "@" =>
    leaveHead
    let decorators ← each (takes "@") (do
      let e ← expression g
      needNewline
      return e) g.fuel
    let t ← peek
    if ← takesWord "def" then return [← function g t decorators]
    if ← takesWord "class" then return [← classBody g decorators]
    refuse
  | _ => line g

end

def rules : Nat → Rules
  | 0 => ⟨0, refuse, refuse, refuse, refuse, refuse, refuse⟩
  | fuel + 1 =>
    { fuel := fuel
      expression := fun r => expression (rules fuel) r
      disjunction := fun r => disjunction (rules fuel) r
      operand := fun r => binary (rules fuel) 6 r
      primary := fun r => primary (rules fuel) r
      atom := fun r => atom (rules fuel) r
      statement := fun r => statement (rules fuel) r }

def program (fuel : Nat) : Parse (List Stmt) := do
  let (body, _) ← nested {} (statements (rules fuel))
  match (← peek).lexeme with
  | .finish => return body
  | _ => refuse

end Grammar

/-- A program that prints gets a collector of its own first: `_print = _print_(_getattr_)`. -/
def ownCollector : Stmt := .assign [.name "_print"] (.call (.name "_print_") [.name "_getattr_"] [])

def Tree.ofText (source : String) : Except Refusal Tree := do
  let tokens ← Token.scan source
  let (body, r) ← (Grammar.program (40 * source.length + 100)).run { tokens }
  match r.misplaced with
  | some (line, column) => throw (.misplaced line column)
  | none => return ⟨Fold.stmts (if r.prints then ownCollector :: body else body)⟩

end Rover.Program
