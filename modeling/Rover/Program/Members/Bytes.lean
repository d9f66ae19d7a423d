import Rover.Program.Members.Text

/-!
# Members of bytes

Bytes have most of the functions of texts, for the characters with the codes of the bytes.
-/

namespace Rover.Program

namespace BytesMember

open TextMember Char Number

def lacking : List String := ["casefold", "encode", "format", "format_map", "isdecimal",
  "isidentifier", "isnumeric", "isprintable"]

def names : List String :=
  ["decode", "fromhex", "hex"] ++ TextMember.names.filter (!lacking.contains ·)

def ofChars (cs : Chars) : Item := Item.ofBytes (cs.map toNat)

def chars? : Item → Option Chars
  | .bytes _ bs => some (bs.map Char.ofNat)
  | _ => none

def needBytes (i : Item) : Result Chars :=
  match chars? i with
  | some cs => .ok cs
  | none => wrongType ("a bytes-like object is required, not '" ++ i.className ++ "'")

/-! ## Forms and questions

Only letters among the first 128 characters have forms. -/

def small (c : Char) : Char := c.toLower
def large (c : Char) : Char := c.toUpper

variable (name : String)

variable (cs : Chars)

def question? : Option Bool :=
  let allOf (p : Char → Bool) : Option Bool := some (!cs.isEmpty && cs.all p)
  match name with
  | "isalnum" => allOf isAlphanum
  | "isalpha" => allOf isAlpha
  | "isascii" => some (cs.all (·.toNat < 128))
  | "isdigit" => allOf Char.isDigit
  | "islower" => some (cs.any isLower && !cs.any isUpper)
  | "isspace" => allOf isSpace
  | "istitle" => some (isTitled isUpper isLower false false cs)
  | "isupper" => some (cs.any isUpper && !cs.any isLower)
  | _ => none

def form? : Option Chars :=
  match name with
  | "capitalize" => some (match cs with
      | [] => []
      | c :: rest => large c :: rest.map small)
  | "lower" => some (cs.map small)
  | "swapcase" => some (cs.map fun c => if c.isUpper then small c else large c)
  | "title" => some (titled (fun c => [small c]) (fun c => [large c]) isAlpha
      false cs)
  | "upper" => some (cs.map large)
  | _ => none

def sought (i : Item) : Result Chars :=
  match chars? i, i.integer? with
  | some cs, _ => .ok cs
  | none, some n =>
    if 0 ≤ n ∧ n < 256 then .ok [Char.ofNat n.toNat] else unfit "byte must be in range(0, 256)"
  | none, none =>
    wrongType ("argument should be integer or bytes-like object, not '" ++ i.className ++ "'")

def fillOf (i : Item) : Result Char :=
  match i with
  | .bytes _ [b] => .ok (Char.ofNat b)
  | i => wrongType (name ++ "() argument 2 must be a byte string of length 1, not " ++ i.classWord)

variable (g : Given)

def stripping : Result (Char → Bool) := do
  match ← g.between ("bytes." ++ name) name 0 1 with
  | [] | [.none] => return isSpace
  | i :: _ =>
    let dropped ← needBytes i
    return fun c => dropped.contains c

def tableOf : Result Item := do
  let [old, new] ← g.between "bytes.maketrans" "maketrans" 2 2 | return .none
  let old ← needBytes old
  let new ← needBytes new
  if old.length != new.length then unfit "maketrans arguments must have same length"
  let table := (old.zip new).foldl
    (fun (t : Chars) (a, b) => t.set a.toNat b) ((List.range 256).map Char.ofNat)
  return ofChars table

def translated (g : Given) : Result Item := do
  let [some table, dropped] ← g.flexible "translate" ["", "delete"] 1 2 | return .none
  let table ← match table with
    | .none => pure none
    | i => do
      let t ← needBytes i
      if t.length != 256 then unfit "translation table must be 256 characters long"
      pure (some t)
  let dropped ← match dropped with
    | some i => needBytes i
    | none => pure []
  let kept := cs.filter fun c => !dropped.contains c
  return ofChars (match table with
    | some t => kept.map fun c => t.getD c.toNat c
    | none => kept)

def decode (bs : List Nat) (g : Given) : Result Item := do
  let [encoding, errors] ← g.flexible "decode" ["encoding", "errors"] 0 2 | return .none
  let name ← Given.textOr "utf-8" "decode" "encoding" encoding
  let _ ← Given.textOr "" "decode" "errors" errors
  Builtin.decoded bs name

def ofHexDigits : Nat → Chars → Result (List Nat)
  | _, [] => .ok []
  | n, c :: rest =>
    let bad (n : Nat) : Fault := .unfit
      ("non-hexadecimal number found in fromhex() arg at position " ++ natText n)
    if isSpace c then ofHexDigits (n + 1) rest
    else match hexDigit? c, rest with
      | none, _ => .error (bad n)
      | some _, [] => .error (bad (n + 1))
      | some a, d :: rest =>
        match hexDigit? d with
        | none => .error (bad (n + 1))
        | some b => do return (16 * a + b) :: (← ofHexDigits (n + 2) rest)

def ofHex : Result Item := do
  match ← g.single "bytes.fromhex" with
  | .str _ s => return Item.ofBytes (← ofHexDigits 0 s.toList)
  | i => wrongType ("fromhex() argument must be str, not " ++ i.classWord)

def hex (bs : List Nat) (g : Given) : Result Item := do
  let digits := bs.map (Quoted.hex 2)
  match ← g.flexible "hex" ["sep", "bytes_per_sep"] 0 2 with
  | [some sep, size] =>
    let size ← (size.map Item.smallWord).getD (.ok 1)
    let length ← sep.length
    if length != 1 then unfit "sep must be length 1."
    let sep ← match sep with
      | .str _ s => pure s
      | .bytes _ bs => pure (String.ofList (bs.map Char.ofNat))
      | _ => wrongType "sep must be str or bytes."
    if sep.any (fun c : Char => 128 ≤ c.toNat) then unfit "sep must be ASCII."
    -- a positive size counts from the end
    let n := size.natAbs
    let breaksBefore (i : Nat) : Bool :=
      n != 0 && 0 < i && (if 0 < size then bs.length - i else i) % n == 0
    return newText (String.join (digits.zipIdx.map fun (d, i) =>
      if breaksBefore i then sep ++ d else d))
  | _ => return newText (String.join digits)

def callPlain (bs : List Nat) (name : String) (g : Given) : Result Item := do
  let cs := bs.map Char.ofNat
  match question? name cs, form? name cs with
  | some b, _ =>
    g.nothing ("bytes." ++ name)
    return .bool b
  | _, some result =>
    g.nothing ("bytes." ++ name)
    return ofChars result
  | _, _ => pure ()
  match name with
  | "center" | "ljust" | "rjust" =>
    return ofChars (← filled "bytes" (fillOf name) name cs g)
  | "count" | "find" | "index" | "rfind" | "rindex" =>
    search "subsection not found" sought name cs g
  | "startswith" | "endswith" => touches "bytes" chars? needBytes name cs g
  | "decode" => decode bs g
  | "expandtabs" => return ofChars (Cut.expandTabs (← tabSize cs g) 0 cs)
  | "fromhex" => ofHex g
  | "hex" => hex bs g
  | "maketrans" => tableOf g
  | "partition" | "rpartition" =>
    let part ← needBytes (← g.single ("bytes." ++ name))
    parted ofChars name (ofChars part) (ofChars cs) part cs
  | "removeprefix" | "removesuffix" =>
    return ofChars (trimmed name (← needBytes (← g.single ("bytes." ++ name))) cs)
  | "replace" => return ofChars (← replaced "bytes" (fun _ => needBytes) cs g)
  | "split" | "rsplit" => split isSpace needBytes ofChars name cs g
  | "splitlines" =>
    let keep := (← g.word "splitlines" "keepends" 0) != 0
    return ofList ((Cut.lines (fun c => c == '\n' || c == '\r') keep cs []).map ofChars)
  | "translate" => translated cs g
  | "zfill" =>
    return ofChars (← zeroFilled cs (← (← g.single "bytes.zfill").sizeIndex))
  | name => return ofChars (stripped (← stripping name g) name cs)

def call (bs : List Nat) (name : String) (g : Given) : Job Item := do
  if name == "join" then
    let items ← match ← (Job.elements (← g.single "bytes.join")).attempt with
      | .ok items => pure items
      | .error (.notIterable _) => .fail (.wrongType "can only join an iterable")
      | .error f => .fail f
    let parts ← sequenceParts "a bytes-like object" chars? items
    made (ofChars ((bs.map Char.ofNat).intercalate parts))
  else made (← callPlain bs name g)

end BytesMember

end Rover.Program
