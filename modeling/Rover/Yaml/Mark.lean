import Rover.Fault

/-!
# Places in a text

A complaint about a text names the place it is about and shows the line there.
-/

namespace Rover.Yaml

/-- A place in a text: how many characters are before it, and how many lines, and how many
characters on its own line. -/
structure Mark where
  index : Nat := 0
  line : Nat := 0
  column : Nat := 0
deriving DecidableEq, Repr, Inhabited

def isBreak (c : Char) : Bool := c == '\n' || c == '\u0085' || c == '\u2028' || c == '\u2029'

namespace Mark

def reach : Nat := 36

def shownReach : Nat := 32

def cutMark : Chars := " ... ".toList

def side (line : Chars) : Chars × Bool :=
  let line := line.takeWhile (!isBreak ·)
  if reach < line.length then (line.take shownReach, true) else (line, false)

def snippet (text : Chars) (m : Mark) : Chars :=
  let (before, cutBefore) := side (text.take m.index).reverse
  let (after, cutAfter) := side (text.drop m.index)
  let head := (if cutBefore then cutMark else []) ++ before.reverse
  let tail := after ++ (if cutAfter then cutMark else [])
  let blanks (n : Nat) : Chars := List.replicate n ' '
  blanks 4 ++ head ++ tail ++ ['\n'] ++ blanks (4 + head.length) ++ ['^']

def describe (text : Chars) (m : Mark) : String :=
  "  in \"<unicode string>\", line " ++ natText (m.line + 1) ++ ", column "
    ++ natText (m.column + 1) ++ ":\n" ++ String.ofList (m.snippet text)

end Mark

def complaint (stage : MarkupStage) (text : Chars) (context : Option (String × Mark))
    (problem : String) (at' : Mark) : Fault :=
  let before : List String := match context with
    | some (words, m) =>
      if m.line = at'.line ∧ m.column = at'.column then [words] else [words, m.describe text]
    | none => []
  .badMarkup stage ("\n".intercalate (before ++ [problem, at'.describe text]))

end Rover.Yaml
