import Rover.Program.Builtins
import Rover.Text.Cut

/-!
# Members of texts

The functions that belong to a text: its forms, questions about its characters, and looking for
parts, cutting and joining.
-/

namespace Rover.Program

namespace Item

def sizeIndex (i : Item) : Result Int := do
  let n ← i.toIndex
  if n < -(indexBound : Int) ∨ (indexBound : Int) ≤ n then
    throw (.beyondRange "Python int too large to convert to C ssize_t")
  return n

def border (i : Option Item) (usual : Int) : Result Int :=
  match i with
  | Option.none | some .none => .ok usual
  | some i =>
    match i.integer? with
    | some n => .ok n
    | Option.none =>
      wrongType "slice indices must be integers or None or have an __index__ method"

end Item

def partBorders (start stop : Int) (length : Nat) : Int × Int :=
  let stop := if (length : Int) < stop then (length : Int)
    else if stop < 0 then max (stop + length) 0 else stop
  (if start < 0 then max (start + length) 0 else start, stop)

namespace TextMember

def needText (wanted : String) (i : Item) : Result Chars :=
  match i with
  | .str _ s => .ok s.toList
  | i => wrongType (wanted ++ ", not " ++ i.className)

def needNamedText (parameter : String) (i : Item) : Result Chars :=
  match i with
  | .str _ s => .ok s.toList
  | i => wrongType (parameter ++ " must be str, not " ++ i.classWord)

def endsWord (before after : Chars) : Bool :=
  (before.head?.map Case.isCased).getD false && !(after.head?.map Case.isCased).getD false

def smallFrom : Chars → Chars → Chars
  | _, [] => []
  | before, c :: rest =>
    (if c.toNat == 0x3A3 then [if endsWord before rest then 'ς' else 'σ']
      else Case.toSmall c) ++ smallFrom (c :: before) rest

variable (cs : Chars)

def toSmall : Chars := smallFrom [] cs

def toLarge : Chars := (cs.map Case.toLarge).flatten

def capitalized : Chars → Chars
  | [] => []
  | c :: rest => Case.toTitle c ++ smallFrom [c] rest

def titled (small title : Char → Chars) (cased : Char → Bool) : Bool → Chars → Chars
  | _, [] => []
  | inWord, c :: rest =>
    (if inWord then small c else title c) ++ titled small title cased (cased c) rest

def swapped : Chars :=
  (cs.map fun c =>
    if Case.isLarge c then Case.toSmall c
    else if Case.isSmall c then Case.toLarge c
    else [c]).flatten

def isDecimal (c : Char) : Bool := (Digit.value? c).isSome
def isDigit (c : Char) : Bool := isDecimal c || Case.looseDigits.contains c
def isNumeric (c : Char) : Bool := isDigit c || Case.looseNumbers.contains c
def isLetter (c : Char) : Bool := Case.letters.contains c

def allOf (p : Char → Bool) (cs : Chars) : Bool := !cs.isEmpty && cs.all p

def isTitled (large small : Char → Bool) : Bool → Bool → Chars → Bool
  | _, any, [] => any
  | inWord, any, c :: rest =>
    if large c then !inWord && isTitled large small true true rest
    else if small c then inWord && isTitled large small true true rest
    else isTitled large small false any rest

def isRaised (c : Char) : Bool := Case.isLarge c || Case.titled.contains c

def isName : Chars → Bool
  | [] => false
  | c :: rest => Letter.starts c && rest.all Letter.follows

variable (name : String)

def question? (cs : Chars) : Option Bool :=
  match name with
  | "isalnum" => some (allOf (fun c => isLetter c || isNumeric c) cs)
  | "isalpha" => some (allOf isLetter cs)
  | "isascii" => some (cs.all (·.toNat < 128))
  | "isdecimal" => some (allOf isDecimal cs)
  | "isdigit" => some (allOf isDigit cs)
  | "isidentifier" => some (isName cs)
  | "islower" => some (cs.any Case.isSmall && !cs.any isRaised)
  | "isnumeric" => some (allOf isNumeric cs)
  | "isprintable" => some (cs.all isPrintable)
  | "isspace" => some (allOf isBlank cs)
  | "istitle" => some (isTitled isRaised Case.isSmall false false cs)
  | "isupper" => some (cs.any Case.isLarge
      && !cs.any fun c => Case.isSmall c || Case.titled.contains c)
  | _ => none

def form? (cs : Chars) : Option Chars :=
  match name with
  | "capitalize" => some (capitalized cs)
  | "casefold" => some (cs.map Case.toFolded).flatten
  | "lower" => some (toSmall cs)
  | "swapcase" => some (swapped cs)
  | "title" => some (titled Case.toSmall Case.toTitle Case.isCased false cs)
  | "upper" => some (toLarge cs)
  | _ => none

/-! ## Looking for parts, cutting and filling

Texts and bytes do this alike; they differ in what is read as a part, and in the complaints. -/

variable (g : Given)

def searchArguments (name : String) : Result (Item × Int × Int) := do
  let items ← g.unnamed name
  let n := items.length
  match items with
  | [i] => return (i, 0, Item.indexBound)
  | [i, a] => return (i, ← Item.border (some a) 0, Item.indexBound)
  | [i, a, b] =>
    let start ← Item.border (some a) 0
    return (i, start, ← Item.border (some b) Item.indexBound)
  | [] => throw (.arguments (name ++ "() takes at least 1 argument (0 given)"))
  | _ => throw (.arguments (name ++ "() takes at most 3 arguments (" ++ natText n
      ++ " given)"))

def window? (start stop : Int) : Option (Nat × Chars) :=
  let (a, b) := partBorders start stop cs.length
  if b < a then none else some (a.toNat, (cs.take b.toNat).drop a.toNat)

def placeOf? (fromRight : Bool) (part cs : Chars) (start stop : Int) : Option Nat := do
  let (offset, window) ← window? cs start stop
  let n ← if fromRight then Cut.last? part window else Cut.first? part window
  return offset + n

variable (kind : String)

def touches (read? : Item → Option Chars)
    (member : Item → Result Chars) (name : String) (cs : Chars) (g : Given) : Result Item := do
  let (what, start, stop) ← searchArguments g name
  let matchesAt (part : Chars) : Bool :=
    match window? cs start stop with
    | some (_, window) =>
      if name == "startswith" then part.isPrefixOf window
      else part.reverse.isPrefixOf window.reverse
    | none => false
  match read? what, what with
  | some part, _ => return .bool (matchesAt part)
  | none, .tuple _ parts => return .bool (← parts.anyM fun i => do return matchesAt (← member i))
  | none, i => wrongType (name ++ " first arg must be " ++ kind ++ " or a tuple of " ++ kind
      ++ ", not " ++ i.className)

def search (absent : String) (sought : Item → Result Chars) (name : String)
    (cs : Chars) (g : Given) : Result Item := do
  let (what, start, stop) ← searchArguments g name
  let part ← sought what
  if name == "count" then
    match window? cs start stop with
    | some (_, window) => return ofNat (Cut.count part window)
    | none => return ofInt 0
  match placeOf? (name.startsWith "r") part cs start stop with
  | some n => return ofNat n
  | none => if name.endsWith "find" then return ofInt (-1) else unfit absent

def most (i : Option Item) : Result Nat := do
  match i with
  | none => return cs.length + 1
  | some i =>
    let n ← i.sizeIndex
    return if n < 0 then cs.length + 1 else min n.toNat (cs.length + 1)

def split (blank : Char → Bool) (separator : Item → Result Chars)
    (make : Chars → Item) (name : String) (cs : Chars) (g : Given) : Result Item := do
  let fromRight := name == "rsplit"
  let [sep, limit] ← g.flexible name ["sep", "maxsplit"] 0 2 | return .none
  let limit ← most cs limit
  let pieces ← match sep with
    | none | some .none =>
      pure (if fromRight then Cut.wordsRight blank limit cs else Cut.words blank limit cs)
    | some i =>
      let part ← separator i
      if part.isEmpty then unfit "empty separator"
      pure (if fromRight then Cut.splitRight part limit cs else Cut.split part limit cs)
  return ofList (pieces.map make)

def parted (make : Chars → Item) (name : String) (middle whole : Item) (part cs : Chars) :
    Result Item := do
  if part.isEmpty then unfit "empty separator"
  let fromRight := name == "rpartition"
  match if fromRight then Cut.atLast? part cs else Cut.atFirst? part cs with
  | some (before, after) => return ofTuple [make before, middle, make after]
  | none =>
    let empty := make []
    return ofTuple (if fromRight then [empty, empty, whole] else [whole, empty, empty])

def stripped (drop : Char → Bool) (name : String) (cs : Chars) : Chars :=
  let left := if name == "rstrip" then cs else cs.dropWhile drop
  if name == "lstrip" then left else (left.reverse.dropWhile drop).reverse

def filled (fillOf : Item → Result Char) (name : String) (cs : Chars)
    (g : Given) : Result Chars := do
  let (width, fill) ← match ← g.between (kind ++ "." ++ name) name 1 2 with
    | [w] => do pure (← w.sizeIndex, ' ')
    | [w, f] => do pure (← w.sizeIndex, ← fillOf f)
    | _ => pure (0, ' ')
  let missing := (width - cs.length).toNat
  if Item.sizeBound < missing then throw .outOfMemory
  let left := match name with
    | "ljust" => 0
    | "rjust" => missing
    | _ => missing / 2 + (if missing % 2 = 1 ∧ width % 2 = 1 then 1 else 0)
  return List.replicate left fill ++ cs ++ List.replicate (missing - left) fill

def zeroFilled (width : Int) : Result Chars := do
  let missing := (width - cs.length).toNat
  if Item.sizeBound < missing then throw .outOfMemory
  let zeros := List.replicate missing '0'
  return match cs with
    | '-' :: rest => '-' :: zeros ++ rest
    | '+' :: rest => '+' :: zeros ++ rest
    | cs => zeros ++ cs

def replaced (read : Nat → Item → Result Chars) (cs : Chars) (g : Given) : Result Chars := do
  let old :: new :: limit ← g.between (kind ++ ".replace") "replace" 2 3 | return cs
  let old ← read 1 old
  let new ← read 2 new
  return Cut.replace old new (← most cs limit.head?) cs

def trimmed (part cs : Chars) : Chars :=
  if name == "removeprefix" then if part.isPrefixOf cs then cs.drop part.length else cs
  else if part.reverse.isPrefixOf cs.reverse then cs.take (cs.length - part.length) else cs

def sequenceParts (expected : String) (read? : Item → Option Chars) (items : List Item) :
    Result (List Chars) :=
  items.zipIdx.mapM fun (i, n) =>
    match read? i with
    | some part => .ok part
    | none => wrongType ("sequence item " ++ natText n ++ ": expected " ++ expected ++ ", "
        ++ i.className ++ " found")

def tabSize : Result Nat := do
  let width := (← g.word "expandtabs" "tabsize" 8).toNat
  if cs.contains '\t' && Item.sizeBound < width then throw .outOfMemory
  return width

/-! ## Texts -/

def chars? : Item → Option Chars
  | .str _ s => some s.toList
  | _ => none

def stripping : Result (Char → Bool) := do
  match ← g.between ("str." ++ name) name 0 1 with
  | [.str _ s] => return fun c => s.toList.contains c
  | [] | [.none] => return isBlank
  | _ => wrongType (name ++ " arg must be None or str")

def fillOf (i : Item) : Result Char := do
  match ← needText "The fill character must be a unicode character" i with
  | [c] => return c
  | _ => wrongType "The fill character must be exactly one character long"

def tableEntry (table : Item) (c : Char) : Result (Option Chars) := do
  let code := Half.code c
  let entry? : Option Item ← match table with
    | .dict _ es => pure (Item.lookup? es (.int .value code))
    | .list _ items | .tuple _ items => pure items[code]?
    | .str _ s => pure ((s.toList[code]?).map fun c => Item.ofChars [c])
    | .bytes _ bs => pure ((bs[code]?).map ofNat)
    | .range _ a b c => pure (if code < Value.rangeLength a b c then
        some (ofInt (a + c * code)) else none)
    | i => throw (.notIndexable i.className)
  match entry? with
  | none => return none
  | some .none => return some []
  | some (.str _ s) => return some s.toList
  | some i =>
    match i.integer? with
    | some n =>
      if 0 ≤ n ∧ n < 0x110000 then return some [Half.toChar n.toNat]
      else unfit "character mapping must be in range(0x110000)"
    | none => wrongType "character mapping must return integer, None or str"

def translated (table : Item) : Result Item := do
  let parts ← cs.mapM fun c => do return (← tableEntry table c).getD [c]
  return Item.ofChars parts.flatten

def tableOf : Result Item := do
  let code (c : Char) : Item := ofNat (Half.code c)
  match ← g.between "str.maketrans" "maketrans" 1 3 with
  | [.dict _ es] =>
    let entries ← es.foldlM (fun acc (k, v) => do
      match k with
      | .str _ s =>
        match s.toList with
        | [c] => return Item.insert acc (code c) v
        | _ => unfit "string keys in translate table must be of length 1"
      | .int .. | .bool _ => return Item.insert acc k v
      | _ => wrongType "keys in translate table must be strings or integers") []
    return ofEntries entries
  | [_] => wrongType "if you give only one argument to maketrans it must be a dict"
  | items =>
    let part (n : Nat) : Result Chars :=
      needNamedText ("maketrans() argument " ++ natText (n + 1)) (items.getD n .none)
    let new ← part 1
    let dropped ← if items.length = 3 then part 2 else pure []
    match items.getD 0 .none with
    | .str _ s =>
      let old := s.toList
      if old.length != new.length then
        unfit "the first two maketrans arguments must have equal length"
      let pairs := (old.zip new).map fun (a, b) => (code a, code b)
      let all := pairs ++ dropped.map fun c => (code c, Item.none)
      return ofEntries (all.foldl (fun es (k, v) => Item.insert es k v) [])
    | _ => wrongType "first maketrans argument must be a string if there is a second argument"

inductive Leniency where
  | strict | dropping | replacing

def leniency (errors : String) : Leniency :=
  match errors with
  | "ignore" => .dropping
  | "replace" => .replacing
  | _ => .strict

def shownCode (c : Char) : String :=
  let code := Half.code c
  if code < 0x100 then "\\x" ++ Quoted.hex 2 code
  else if code < 0x10000 then "\\u" ++ Quoted.hex 4 code
  else "\\U" ++ Quoted.hex 8 code

def unencodable (encoding reason : String) (bad : Char → Bool) (cs : Chars) : Fault :=
  let n := (cs.takeWhile fun c => !bad c).length
  let run := (cs.drop n).takeWhile bad
  let place := match run with
    | [c] => "character '" ++ shownCode c ++ "' in position " ++ natText n
    | run => "characters in position " ++ natText n ++ "-"
        ++ natText (n + run.length - 1)
  .unfit ("'" ++ encoding ++ "' codec can't encode " ++ place ++ ": " ++ reason)

def encodedBy (l : Leniency) (encoding reason : String) (bad : Char → Bool)
    (bytes : Chars → List Nat) (cs : Chars) : Result Item :=
  match l with
  | .strict =>
    if cs.any bad then .error (unencodable encoding reason bad cs)
    else .ok (Item.ofBytes (bytes cs))
  | .dropping => .ok (Item.ofBytes (bytes (cs.filter fun c => !bad c)))
  | .replacing => .ok (Item.ofBytes (bytes (cs.map fun c => if bad c then '?' else c)))

def encoded : Result Item := do
  let [encoding, errors] ← g.flexible "encode" ["encoding", "errors"] 0 2 | return .none
  let wanted ← Given.textOr "utf-8" "encode" "encoding" encoding
  let l := leniency (← Given.textOr "strict" "encode" "errors" errors)
  let name := String.ofList
    ((wanted.toList.map Char.toLower).filter fun c => c != '-' && c != '_' && c != ' ')
  let narrow (encoding : String) (bound : Nat) : Result Item :=
    encodedBy l encoding ("ordinal not in range(" ++ natText bound ++ ")")
      (fun c => bound ≤ Half.code c) (·.map Half.code) cs
  if ["utf8", "u8", "utf"].contains name then
    encodedBy l "utf-8" "surrogates not allowed" Half.isHalf
      (fun cs => (String.ofList cs).toUTF8.toList.map UInt8.toNat) cs
  else if ["ascii", "usascii", "646"].contains name then narrow "ascii" 128
  else if ["latin1", "iso88591", "l1", "latin"].contains name then narrow "latin-1" 256
  else unfit ("unknown encoding: " ++ wanted)

def joined (items : List Item) : Result Item := do
  let texts ← sequenceParts "str instance" chars? items
  match items with
  | [i] => return i
  | _ => return newText (String.ofList (cs.intercalate texts))

def names : List String := ["capitalize", "casefold", "center", "count", "encode", "endswith",
  "expandtabs", "find", "format", "format_map", "index", "isalnum", "isalpha", "isascii",
  "isdecimal", "isdigit", "isidentifier", "islower", "isnumeric", "isprintable", "isspace",
  "istitle", "isupper", "join", "ljust", "lower", "lstrip", "maketrans", "partition",
  "removeprefix", "removesuffix", "replace", "rfind", "rindex", "rjust", "rpartition", "rsplit",
  "rstrip", "split", "splitlines", "startswith", "strip", "swapcase", "title", "translate",
  "upper", "zfill"]

def searches : List String :=
  ["count", "endswith", "find", "index", "rfind", "rindex", "startswith"]

def callPlain (receiver : Item) (s name : String) (g : Given) : Result Item := do
  let cs := s.toList
  match question? name cs, form? name cs with
  | some b, _ =>
    g.nothing ("str." ++ name)
    return .bool b
  | _, some result =>
    g.nothing ("str." ++ name)
    return newText (String.ofList result)
  | _, _ => pure ()
  let unlessSame (result : Chars) : Item :=
    if result == cs then receiver else Item.ofChars result
  match name with
  | "center" | "ljust" | "rjust" => return unlessSame (← filled "str" fillOf name cs g)
  | "count" | "find" | "index" | "rfind" | "rindex" =>
    search "substring not found" (needText "must be str") name cs g
  | "startswith" | "endswith" =>
    touches "str" chars? (needText ("tuple for " ++ name ++ " must only contain str")) name cs g
  | "encode" => encoded cs g
  | "expandtabs" => return Item.ofChars (Cut.expandTabs (← tabSize cs g) 0 cs)
  | "maketrans" => tableOf g
  | "partition" | "rpartition" =>
    let i ← g.single ("str." ++ name)
    parted Item.ofChars name i receiver (← needText "must be str" i) cs
  | "removeprefix" | "removesuffix" =>
    let part ← needNamedText (name ++ "() argument") (← g.single ("str." ++ name))
    return unlessSame (trimmed name part cs)
  | "replace" =>
    let read (n : Nat) := needNamedText ("replace() argument " ++ natText n)
    let result ← replaced "str" read cs g
    return if result == cs then receiver else newText (String.ofList result)
  | "split" | "rsplit" =>
    split isBlank (needText "must be str or None") Item.ofChars name cs g
  | "splitlines" =>
    let keep := (← g.word "splitlines" "keepends" 0) != 0
    return ofList ((Cut.lines Cut.endsLine keep cs []).map Item.ofChars)
  | "strip" | "lstrip" | "rstrip" => return unlessSame (stripped (← stripping name g) name cs)
  | "translate" => translated cs (← g.single "str.translate")
  | "zfill" => return unlessSame (← zeroFilled cs (← (← g.single "str.zfill").sizeIndex))
  | _ => throw (.notCallable "NoneType")

def call (receiver : Item) (s name : String) (g : Given) : Job Item := do
  if name == "join" then
    let i ← g.single "str.join"
    let items ← match i with
      | .iterator .. => Job.elements i
      | i =>
        match i.items with
        | .ok _ => Job.elements i
        | .error _ => .fail (.wrongType "can only join an iterable")
    made (← joined s.toList items)
  else made (← callPlain receiver s name g)

end TextMember

end Rover.Program
