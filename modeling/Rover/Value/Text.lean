import Rover.Text.Quoted
import Rover.Value.Basic

/-!
# Values as text

`repr` shows a value inside another one, `text` shows it on its own: they differ in that a text on
its own has no quotes.
-/

namespace Rover.Value

open Number

mutual

def repr : Value → String
  | .none => "None"
  | .bool b => if b then "True" else "False"
  | .int n => intText n
  | .float x => floatText x
  | .str s => Quoted.encode s
  | .list items => "[" ++ reprItems items ++ "]"
  | .tuple [x] => "(" ++ repr x ++ ",)"
  | .tuple items => "(" ++ reprItems items ++ ")"
  | .dict entries => "\x7b" ++ reprEntries entries ++ "\x7d"
  | .range a b c =>
    "range(" ++ intText a ++ ", " ++ intText b
      ++ (if c = 1 then "" else ", " ++ intText c) ++ ")"
  | .object _ shown => shown

def reprItems : List Value → String
  | [] => ""
  | [x] => repr x
  | x :: rest => repr x ++ ", " ++ reprItems rest

def reprEntries : Entries → String
  | [] => ""
  | [e] => reprEntry e
  | e :: rest => reprEntry e ++ ", " ++ reprEntries rest

def reprEntry : Value × Value → String
  | (k, v) => repr k ++ ": " ++ repr v

end

def text : Value → String
  | .str s => s
  | v => repr v

mutual

def isWritable : Value → Bool
  | .int n => Number.isWritable n
  | .list items => writableItems items
  | .tuple items => writableItems items
  | .dict entries => writableEntries entries
  | .range a b c => Number.isWritable a && Number.isWritable b && Number.isWritable c
  | _ => true

def writableItems : List Value → Bool
  | [] => true
  | x :: rest => isWritable x && writableItems rest

def writableEntries : Entries → Bool
  | [] => true
  | (k, v) :: rest => isWritable k && isWritable v && writableEntries rest

end

end Rover.Value
