import Rover.Signature

/-!
# Remote calls

A call names a method and gives its arguments, either in order or by name.
-/

namespace Rover.Remote

inductive Edition where
  | first | second
deriving DecidableEq, Repr

structure Call where
  edition : Edition
  method : String
  args : List Value := []
  named : Record := []
  id : Value := .none
  silent : Bool := false

inductive Post where
  | single (call : Call)
  | batch (calls : List Call)

def Post.calls : Post → List Call
  | .single c => [c]
  | .batch cs => cs

def hasFields (entries : Entries) (needed allowed : List String) : Bool :=
  needed.all (fun n => (Value.lookup? entries (.str n)).isSome)
    && entries.all fun (k, _) => allowed.any fun n => k.same (.str n)

def ofFirst (entries : Entries) : Result (Option Call) := do
  let fields := ["method", "params", "id"]
  if !hasFields entries fields fields then return none
  let get (name : String) : Value := (Value.lookup? entries (.str name)).getD .none
  match get "method", get "params" with
  | .str method, .list args =>
    let id := get "id"
    return some { edition := .first, method, args, id, silent := id matches .none }
  | .str _, params => throw (.unfit ("Incorrect params " ++ params.text))
  | _, _ => throw (.unfit "Method should be string")

def isId : Value → Bool
  | .none | .str _ | .int _ | .bool _ => true
  | _ => false

def ofSecond? (v : Value) : Option Call :=
  match v with
  | .dict entries =>
    if !hasFields entries ["jsonrpc", "method"] ["jsonrpc", "method", "params", "id"] then none
    else
      let id? := Value.lookup? entries (.str "id")
      let id := id?.getD .none
      let make (method : String) (args : List Value) (named : Record) :
          Option Call :=
        if method.startsWith "rpc." || !isId id then none
        else some { edition := .second, method, args, named, id, silent := id?.isNone }
      match Value.lookup? entries (.str "method"), Value.lookup? entries (.str "params") with
      | some (.str method), none | some (.str method), some .none => make method [] []
      | some (.str method), some (.list args) => make method args []
      | some (.str method), some (.dict named) =>
        make method [] (named.map fun (k, v) => (k.text, v))
      | _, _ => none
  | _ => none

def Post.ofValue (v : Value) : Result (Option Post) := do
  match v with
  | .dict entries =>
    if (Value.lookup? entries (.str "jsonrpc")).isNone then
      return (← ofFirst entries).map .single
    else return (ofSecond? v).map .single
  | .list [] => return none
  | .list vs => return (vs.mapM ofSecond?).map .batch
  | _ => return none

end Rover.Remote
