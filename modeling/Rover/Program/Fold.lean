import Rover.Program.Tree

/-!
# Constant parts

Parts of an expression that are constant are calculated when the program is read, unless the result
would be large or does not exist.
-/

namespace Rover.Program

namespace Item

mutual

def asConstant : Item → Item
  | .int _ n => .int .value n
  | .float _ x => .float .value x
  | .complex _ z => .complex .value z
  | .str _ s => .str .value s
  | .bytes _ bs => .bytes .value bs
  | .tuple _ items => .tuple .value (asConstants items)
  | i => i

def asConstants : List Item → List Item
  | [] => []
  | i :: rest => asConstant i :: asConstants rest

end

mutual

def elementsLeft? (limit : Nat) : Item → Option Nat
  | .tuple _ items =>
    if limit < items.length then Option.none else elementsLeftIn? (limit - items.length) items
  | _ => some limit

def elementsLeftIn? (limit : Nat) : List Item → Option Nat
  | [] => some limit
  | i :: rest => (elementsLeft? limit i).bind (elementsLeftIn? · rest)

end

end Item

namespace Fold

def width (n : Int) : Nat := if n = 0 then 0 else n.natAbs.log2 + 1

def widthLimit : Nat := 128

def smallRepeat (count : Int) (sequence : Item) : Bool :=
  let within (size limit : Nat) : Bool := size = 0 || (0 ≤ count && count.toNat ≤ limit / size)
  match sequence with
  | .tuple _ items =>
    within items.length 256
      && (count ≤ 0 || (sequence.elementsLeft? (1024 / count.toNat)).isSome)
  | .str _ s => within s.length 4096
  | .bytes _ bs => within bs.length 4096
  | _ => true

def isSmall (op : BinaryOp) (a b : Item) : Bool :=
  match op, a.integer?, b.integer? with
  | .mul, some m, some n => m = 0 || n = 0 || width m + width n ≤ widthLimit
  | .mul, some m, none => smallRepeat m b
  | .mul, none, some n => smallRepeat n a
  | .pow, some m, some n => n ≤ 0 || width m ≤ widthLimit / n.toNat
  | .shiftLeft, some m, some n =>
    m = 0 || n ≤ 0 || (n ≤ widthLimit && width m ≤ widthLimit - n.toNat)
  | .mod, _, _ => match a with
    | .str .. | .bytes .. => false
    | _ => true
  | _, _, _ => true

def binary (op : BinaryOp) (a b : Expr) : Expr :=
  match a, b with
  | .const x, .const y =>
    if isSmall op x y then
      match Item.binary op x y with
      | .ok r => .const r.asConstant
      | .error _ => .binary op a b
    else .binary op a b
  | a, b => .binary op a b

def unary (op : UnaryOp) (a : Expr) : Expr :=
  match a with
  | .const x =>
    match Item.unary op x with
    | .ok r => .const r.asConstant
    | .error _ => .unary op a
  | a => .unary op a

def constant? : Expr → Option Item
  | .const i => some i
  | _ => none

def tuple (items : List Expr) : Expr :=
  match items.mapM constant? with
  | some values => .const (.tuple .value values)
  | none => .tuple items

mutual

def expr : Expr → Expr
  | .const i => .const i
  | .name s => .name s
  | .list items => .list (exprs items)
  | .tuple items => tuple (exprs items)
  | .set items => .set (exprs items)
  | .dict es => .dict (entries es)
  | .spread e => .spread (expr e)
  | .unary op e => unary op (expr e)
  | .binary op a b => binary op (expr a) (expr b)
  | .compare first rest => .compare (expr first) (comparisons rest)
  | .both parts => .both (exprs parts)
  | .either parts => .either (exprs parts)
  | .choice test yes no => .choice (expr test) (expr yes) (expr no)
  | .call f positional named => .call (expr f) (exprs positional) (namedExprs named)
  | .lambda f => .lambda (function f)
  | .member e name => .member (expr e) name
  | .joined ps => .joined (pieces ps)
  | .yield e => .yield (expr? e)
  | .yieldFrom e => .yieldFrom (expr e)
  | .absent helper => .absent helper

def expr? : Option Expr → Option Expr
  | some e => some (expr e)
  | none => none

def exprs : List Expr → List Expr
  | [] => []
  | e :: rest => expr e :: exprs rest

def entries : List (Option Expr × Expr) → List (Option Expr × Expr)
  | [] => []
  | (k, v) :: rest => (expr? k, expr v) :: entries rest

def namedExprs : List (String × Expr) → List (String × Expr)
  | [] => []
  | (n, e) :: rest => (n, expr e) :: namedExprs rest

def comparisons : List (Comparison × Expr) → List (Comparison × Expr)
  | [] => []
  | (c, e) :: rest => (c, expr e) :: comparisons rest

def pieces : List Piece → List Piece
  | [] => []
  | .fixed s :: rest => .fixed s :: pieces rest
  | .field e conversion spec :: rest =>
    .field (expr e) conversion (pieces spec) :: pieces rest

def function : Function → Function
  | .mk shape defaults namedDefaults annotations body =>
    .mk shape (exprs defaults) (namedExprs namedDefaults) (exprs annotations) (stmts body)

def stmt : Stmt → Stmt
  | .eval e => .eval (expr e)
  | .assign targets value => .assign targets (expr value)
  | .branch test yes no => .branch (expr test) (stmts yes) (stmts no)
  | .loop test body otherwise => .loop (expr test) (stmts body) (stmts otherwise)
  | .define name f decorators => .define name (function f) (exprs decorators)
  | .defineClass decorators => .defineClass (exprs decorators)
  | .ret value => .ret (expr? value)
  | .leave => .leave
  | .again => .again
  | .pass => .pass
  | .raise what cause => .raise (expr? what) (expr? cause)
  | .guard body hs otherwise final =>
    .guard (stmts body) (handlers hs) (stmts otherwise) (stmts final)
  | .assert test message => .assert (expr test) (expr? message)
  | .delete names => .delete names
  | .load => .load
  | .within manager => .within (expr manager)

def stmts : List Stmt → List Stmt
  | [] => []
  | s :: rest => stmt s :: stmts rest

def handlers : List Handler → List Handler
  | [] => []
  | .mk kind body :: rest => .mk (expr? kind) (stmts body) :: handlers rest

end

end Fold

end Rover.Program
