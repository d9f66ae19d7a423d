import Rover.Program.Fold
import Rover.Program.Members

/-!
# The meaning of programs

Expressions and statements as jobs.
-/

namespace Rover.Program

open Job

inductive Flow where
  | next
  | leave
  | again
  | ret (i : Item)

namespace Eval

open Job (perform request iter next? fold elements call)

def contained (i container : Item) : Job Bool :=
  match container with
  | .iterator .. => fold (fun _ x => return (x.alike i, !x.alike i)) false container
  | c => ofExcept (c.contains i)

def compare (c : Comparison) (a b : Item) : Job Bool := do
  match c with
  | .eq => return a.same b
  | .ne => return !a.same b
  | .lt => Item.compare .lt a b
  | .le => Item.compare .le a b
  | .gt => Item.compare .gt a b
  | .ge => Item.compare .ge a b
  | .isIn => contained a b
  | .notIn => return !(← contained a b)
  | .identical => return a.identical b
  | .notIdentical => return !a.identical b

def spreadItems (i : Item) : Job (List Item) :=
  match i with
  | .iterator .. => elements i
  | i =>
    match i.items with
    | .ok _ => elements i
    | .error _ =>
      .fail (.wrongType ("Value after * must be an iterable, not " ++ i.className))

def insertItems (slots : Slots) (items : List Item) : Result Slots := do
  items.forM Item.hashable
  return slots.insertAll items

def spreadOver (slots : Slots) (i : Item) : Job Slots := do
  match i with
  | .set _ other => return slots.merge other
  | i => insertItems slots (← elements i)

def manyElements : Nat := 30

def entriesTogether : Nat := 15

def entryRun (entries : List (Option Expr × Expr)) : Nat :=
  min (entries.takeWhile (·.1.isSome)).length (entriesTogether + 2)

def spreadEntries (es : Entries) (i : Item) : Result Entries :=
  match i with
  | .dict _ more => .ok (more.foldl (fun es (k, v) => Item.insert es k v) es)
  | i => wrongType ("'" ++ i.className ++ "' object is not a mapping")

def insertEntries (es : Entries) (more : Entries) : Result Entries :=
  more.foldlM (fun es (k, v) => Item.insertChecked es k v) es

def converted (c : Conversion) (i : Item) : Result Item := do
  match c with
  | .plain => return i
  | .text => i.asText
  | .repr => return newText (← i.repr)
  | .ascii => return newText (Item.asciiText (← i.repr))

def laidOut (spec : String) (i : Item) : Result Item := do
  if spec.isEmpty then i.asText else return Item.ofString (← i.laidOut spec)

def textOf : Item → String
  | .str _ s => s
  | _ => ""

def joined (pieces : List Item) : Item :=
  match pieces with
  | [i] => i
  | pieces => newText (String.join (pieces.map textOf))

mutual

def prepared : Target → Item → Job Item
  | .tuple before star, i => do
    let items ← elements i
    let after := match star with
      | some (_, after) => after.length
      | none => 0
    if items.length < before.length + after then made (ofList items)
    else
      let first ← preparedAll before (items.take before.length)
      let others := items.drop before.length
      let middle := others.take (others.length - after)
      let last ← match star with
        | some (_, after) => preparedAll after (others.drop (others.length - after.length))
        | none => pure []
      made (ofList (first ++ (if star.isSome then middle else others) ++ last))
  | _, i => .done i

def preparedAll : List Target → List Item → Job (List Item)
  | t :: ts, i :: items => do return (← prepared t i) :: (← preparedAll ts items)
  | _, items => .done items

end

variable (layers : List Layer)

mutual

def assign : Target → Item → Job Unit
  | .name s, i => perform (.write layers s i)
  | .list before star, i | .tuple before star, i => do
    match star with
    | none => assignAll before (← unpack before.length i)
    | some (t, after) =>
      let (first, middle, last) ← unpackAround before.length after.length i
      assignAll before first
      assign t (← made (ofList middle))
      assignAll after last
  | .absent helper, _ => .fail (.unknownName helper)

def assignAll : List Target → List Item → Job Unit
  | t :: ts, i :: items => do
    assign t i
    assignAll ts items
  | _, _ => .done ()

end

def store (i : Item) (t : Target) : Job Unit := do
  assign layers t (← prepared t i)

def handling (f : Fault) (body : Job Flow) : Job Flow := do
  perform (.handle f)
  let outcome ← body.attempt
  perform .handled
  outcome

def finally_ (body final : Job Flow) : Job Flow := do
  let settled (otherwise : Job Flow) : Job Flow := do
    match ← final with
    | .next => otherwise
    | flow => return flow
  match ← body.attempt with
  | .ok flow => settled (return flow)
  | .error f => handling f (settled (.fail f))

def whileTrue (test : Job Item) (body otherwise : Job Flow) : Job Flow :=
  loop (fun (_ : Unit) => do
    perform .step
    if (← test).truth then
      match ← body with
      | .leave => return .inr .next
      | .ret i => return .inr (.ret i)
      | _ => return .inl ()
    else return .inr (← otherwise)) plenty ()

def handOut (i : Item) : Job Item := do
  let it ← iter i
  let _ ← fold (fun (_ : Unit) x => do
    let _ ← request (.yield x)
    return ((), true)) () it
  match it with
  | .iterator "generator" id => request (.outcome id)
  | _ => return .none

mutual

def expr : Expr → Job Item
  | .const i => .done i
  | .name s => request (.read layers s)
  | .list es => do made (ofList (← items es))
  | .tuple es => do made (ofTuple (← items es))
  | .set es => do
    if 2 < es.length && es.all (fun e => (Fold.constant? e).isSome) then
      let table := Slots.ofItems (es.filterMap Fold.constant?)
      made (.set .unborn (Slots.empty.merge table))
    else
      made (.set .unborn (← setItems (manyElements < es.length) Slots.empty [] es))
  | .dict entries => do made (ofEntries (← dictEntries [] [] 0 false entries))
  | .spread e => expr e
  | .unary op e => do made (← Item.unary op (← expr e))
  | .binary op a b => do
    let x ← expr a
    let y ← expr b
    made (← Item.binary op x y)
  | .compare first rest => do comparisons (← expr first) rest
  | .both parts => lazily true parts
  | .either parts => lazily false parts
  | .choice test yes no => do
    if (← expr test).truth then expr yes else expr no
  | .call f positional named => do
    let f ← expr f
    let args ← items positional
    request (.call f args (← namedItems named))
  | .lambda f => closure f
  | .member e name => do
    let i ← expr e
    made (← i.member name)
  | .joined ps => do made (joined (← pieces ps))
  | .yield e => do request (.yield (← item? e))
  | .yieldFrom e => do handOut (← expr e)
  | .absent helper => .fail (.unknownName helper)

def item? : Option Expr → Job Item
  | some e => expr e
  | none => .done .none

def items : List Expr → Job (List Item)
  | [] => .done []
  | .spread e :: rest => do
    let spread ← spreadItems (← expr e)
    return spread ++ (← items rest)
  | e :: rest => do
    let i ← expr e
    return i :: (← items rest)

def namedItems : List (String × Expr) → Job Named
  | [] => .done []
  | (n, e) :: rest => do
    let i ← expr e
    return (n, i) :: (← namedItems rest)

def setItems (begun : Bool) (slots : Slots) (pending : List Item) : List Expr → Job Slots
  | [] => ofExcept (insertItems slots pending.reverse)
  | .spread e :: rest => do
    let slots ← insertItems slots pending.reverse
    let slots ← spreadOver slots (← expr e)
    setItems true slots [] rest
  | e :: rest => do
    let i ← expr e
    if begun then setItems true (← insertItems slots [i]) [] rest
    else setItems false slots (i :: pending) rest

/-- The entries of a dictionary. A small number of them is calculated first and put into the
dictionary then: `pending` holds those, the last one first. -/
def dictEntries (es pending : Entries) (left : Nat) (many : Bool) :
    List (Option Expr × Expr) → Job Entries
  | [] => ofExcept (insertEntries es pending.reverse)
  | (none, e) :: rest => do
    let es ← insertEntries es pending.reverse
    let es ← spreadEntries es (← expr e)
    dictEntries es [] 0 false rest
  | (some k, v) :: rest => do
    let (left, many) : Nat × Bool := if left = 0 then
        let n := entryRun ((some k, v) :: rest)
        (n, decide (entriesTogether < n))
      else (left, many)
    let key ← expr k
    let value ← expr v
    if many then
      dictEntries (← insertEntries es [(key, value)]) [] (left - 1) many rest
    else if left = 1 then
      dictEntries (← insertEntries es ((key, value) :: pending).reverse) [] 0 false rest
    else dictEntries es ((key, value) :: pending) (left - 1) many rest

def comparisons (a : Item) : List (Comparison × Expr) → Job Item
  | [] => .done (.bool true)
  | (c, e) :: rest => do
    let b ← expr e
    if ← compare c a b then
      if rest.isEmpty then return .bool true else comparisons b rest
    else return .bool false

def lazily (going : Bool) : List Expr → Job Item
  | [] => .done (.bool going)
  | [e] => expr e
  | e :: rest => do
    let i ← expr e
    if i.truth == going then lazily going rest else return i

def pieces : List Piece → Job (List Item)
  | [] => .done []
  | .fixed s :: rest => do return .str .value s :: (← pieces rest)
  | .field e conversion spec :: rest => do
    let i ← expr e
    let spec := joined (← pieces spec)
    let text ← made (← laidOut (textOf spec) (← converted conversion i))
    return text :: (← pieces rest)

def closure : Function → Job Item
  | .mk shape defaults namedDefaults annotations body => do
    let values ← items defaults
    let named ← namedItems namedDefaults
    annotated annotations
    request (.close layers (.mk shape defaults namedDefaults annotations body) values named)

def annotated : List Expr → Job Unit
  | [] => .done ()
  | .spread e :: rest => do
    let _ ← unpack 1 (← expr e)
    annotated rest
  | e :: rest => do
    let _ ← expr e
    annotated rest

end

mutual

def stmt : Stmt → Job Flow
  | .eval e => do
    let _ ← expr layers e
    return .next
  | .assign targets value => do
    let i ← expr layers value
    each (store layers i) targets
    return .next
  | .branch test yes no => do
    if (← expr layers test).truth then block yes else block no
  | .loop test body otherwise =>
    whileTrue (expr layers test) (block body) (block otherwise)
  | .define name f decorators => do
    let wrappers ← items layers decorators
    let f ← closure layers f
    let i ← wrappers.foldrM (fun w i => call w [i]) f
    perform (.write layers name i)
    return .next
  | .defineClass decorators => do
    let _ ← items layers decorators
    .fail .classForbidden
  | .ret value => do return .ret (← item? layers value)
  | .leave => .done .leave
  | .again => .done .again
  | .pass => .done .next
  | .raise what cause =>
    match what with
    | none => do
      perform .again
      return .next
    | some e => do
      let _ ← expr layers e
      let _ ← item? layers cause
      .fail .notAnException
  | .guard body handlers otherwise final =>
    let tried : Job Flow := do
      match ← (block body).attempt with
      | .ok .next => block otherwise
      | .ok flow => return flow
      | .error f => handling f (handle f handlers)
    finally_ tried (block final)
  | .assert test message => do
    if !(← expr layers test).truth then
      match message with
      | none => .fail (.failedAssertion (.str ""))
      | some e =>
        let i ← expr layers e
        .fail (.failedAssertion i.toValue)
    return .next
  | .delete names => do
    each (fun n => perform (.delete layers n)) names
    return .next
  | .load => .fail .importForbidden
  | .within manager => do
    let i ← expr layers manager
    .fail (.noManager i.className)

def block : List Stmt → Job Flow
  | [] => .done .next
  | s :: rest => do
    match ← stmt s with
    | .next => block rest
    | flow => return flow

def handle (f : Fault) : List Handler → Job Flow
  | [] => .fail f
  | .mk none body :: _ => block body
  | .mk (some kind) _ :: rest => do
    match ← expr layers kind with
    | .tuple _ [] => handle f rest
    | _ => .fail .notCatchable

end

def body (stmts : List Stmt) : Job Reply := do
  match ← block layers stmts with
  | .ret i => return some i
  | _ => return some .none

end Eval

end Rover.Program
