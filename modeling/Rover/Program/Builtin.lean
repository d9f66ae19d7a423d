/-!
# Built-in names

The functions, the classes and the libraries that every program finds under a name of its own.
-/

namespace Rover.Program

inductive Builtin where
  | abs | all | any | bool | dict | enumerate | filter | float | int | isinstance | issubclass
  | len | list | map | max | min | pow | range | reversed | round | sorted | str | sum | tuple | zip
deriving DecidableEq, Repr

namespace Builtin

def every : List Builtin := [abs, all, any, bool, dict, enumerate, filter, float, int, isinstance,
  issubclass, len, list, map, max, min, pow, range, reversed, round, sorted, str, sum, tuple, zip]

def name : Builtin → String
  | abs => "abs" | all => "all" | any => "any" | bool => "bool" | dict => "dict"
  | enumerate => "enumerate" | filter => "filter" | float => "float" | int => "int"
  | isinstance => "isinstance" | issubclass => "issubclass" | len => "len" | list => "list"
  | map => "map" | max => "max" | min => "min" | pow => "pow" | range => "range"
  | reversed => "reversed" | round => "round" | sorted => "sorted" | str => "str" | sum => "sum"
  | tuple => "tuple" | zip => "zip"

def isClass : Builtin → Bool
  | bool | dict | enumerate | filter | float | int | list | map | range | reversed | str | tuple
  | zip => true
  | _ => false

def className (b : Builtin) : String :=
  if b.isClass then "type" else "builtin_function_or_method"

def shown (b : Builtin) : String :=
  if b.isClass then "<class '" ++ b.name ++ "'>" else "<built-in function " ++ b.name ++ ">"

end Builtin

inductive Library where
  | math | random | threading
deriving DecidableEq, Repr

namespace Library

def every : List Library := [random, math, threading]

def name : Library → String
  | math => "math" | random => "random" | threading => "threading"

end Library

end Rover.Program
