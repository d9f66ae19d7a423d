import Rover.Program.Item.Arith

/-!
# Program trees

The structure of a program after its text was read.
-/

namespace Rover.Program

inductive Comparison where
  | eq | ne | lt | le | gt | ge | isIn | notIn | identical | notIdentical
deriving DecidableEq, Repr

inductive Conversion where
  | plain | text | repr | ascii
deriving DecidableEq, Repr

/-- The names of a function: its own, with those of the functions around it, those of its
parameters, and those it binds itself or takes from the outermost level. -/
structure Shape where
  name : String
  positional : List String := []
  positionalOnly : Nat := 0
  rest : Option String := none
  namedOnly : List String := []
  namedRest : Option String := none
  locals : List String := []
  globals : List String := []
  yields : Bool := false
deriving DecidableEq, Repr

inductive Target where
  | name (s : String)
  | list (before : List Target) (star : Option (Target × List Target))
  | tuple (before : List Target) (star : Option (Target × List Target))
  | absent (helper : String)
deriving Inhabited

mutual

inductive Expr where
  | const (i : Item)
  | name (s : String)
  | list (items : List Expr)
  | tuple (items : List Expr)
  | set (items : List Expr)
  | dict (entries : List (Option Expr × Expr))
  | spread (e : Expr)
  | unary (op : UnaryOp) (e : Expr)
  | binary (op : BinaryOp) (a b : Expr)
  | compare (first : Expr) (rest : List (Comparison × Expr))
  | both (parts : List Expr)
  | either (parts : List Expr)
  | choice (test yes no : Expr)
  | call (f : Expr) (positional : List Expr) (named : List (String × Expr))
  | lambda (f : Function)
  | member (e : Expr) (name : String)
  | joined (pieces : List Piece)
  | yield (e : Option Expr)
  | yieldFrom (e : Expr)
  | absent (helper : String)

inductive Piece where
  | fixed (s : String)
  | field (e : Expr) (conversion : Conversion) (spec : List Piece)

/-- Functions. The defaults belong to the last of the positional parameters. -/
inductive Function where
  | mk (shape : Shape) (defaults : List Expr) (namedDefaults : List (String × Expr))
      (annotations : List Expr) (body : List Stmt)

inductive Stmt where
  | eval (e : Expr)
  | assign (targets : List Target) (value : Expr)
  | branch (test : Expr) (yes no : List Stmt)
  | loop (test : Expr) (body otherwise : List Stmt)
  | define (name : String) (f : Function) (decorators : List Expr)
  | defineClass (decorators : List Expr)
  | ret (value : Option Expr)
  | leave
  | again
  | pass
  | raise (what cause : Option Expr)
  | guard (body : List Stmt) (handlers : List Handler) (otherwise final : List Stmt)
  | assert (test : Expr) (message : Option Expr)
  | delete (names : List String)
  | load
  | within (manager : Expr)

inductive Handler where
  | mk (kind : Option Expr) (body : List Stmt)

end

instance : Inhabited Expr := ⟨.const .none⟩
instance : Inhabited Stmt := ⟨.pass⟩

structure Tree where
  body : List Stmt

end Rover.Program
