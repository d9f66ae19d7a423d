import Rover.Json.Reader
import Rover.Json.Writer
import Rover.Remote.Call
import Rover.Remote.Methods

/-!
# Answers to remote calls

A call is answered by the result of its method or by a complaint; complaints have numbers that are
fixed by the protocol.
-/

namespace Rover

def Signature.suits (s : Signature Value) (args : List Value) (named : Record) : Bool :=
  let collecting := (s.rest.toList ++ s.namedRest.toList).map fun n => (⟨n, none⟩ : Parameter Value)
  let parameters := s.parameters ++ s.namedOnly ++ collecting
  let left := parameters.filter fun p => !named.any (·.1 == p.name)
  let required := left.filter (·.default.isNone)
  named.all (fun (n, _) => parameters.any (·.name == n))
    && decide (required.length ≤ args.length ∧ args.length ≤ left.length)

namespace Remote

inductive Complaint where
  | unreadable
  | noCall
  | unknownMethod
  | unsuitable (cause : Fault)
  | failed (cause : Fault)

variable (report : Fault → Value)

namespace Complaint

def code : Complaint → Int
  | unreadable => -32700
  | noCall => -32600
  | unknownMethod => -32601
  | unsuitable _ => -32602
  | failed _ => -32000

def message : Complaint → String
  | unreadable => "Parse error"
  | noCall => "Invalid Request"
  | unknownMethod => "Method not found"
  | unsuitable _ => "Invalid params"
  | failed _ => "Server error"

def cause? : Complaint → Option Fault
  | unsuitable f | failed f => some f
  | _ => none

def toValue (c : Complaint) : Value :=
  record ([("code", .int c.code), ("message", .str c.message)]
    ++ c.cause?.toList.map fun f => ("data", report f))

end Complaint

open Server (M)

def serve (c : Call) : M (Except Complaint Value) := do
  match Method.find? c.method with
  | none => return .error .unknownMethod
  | some m =>
    let run : M Value := do m.run (← m.signature.bind c.args c.named)
    match ← Op.attempt run with
    | .ok result => return .ok result
    | .error f =>
      if f.kind = .type && !m.signature.suits c.args c.named then return .error (.unsuitable f)
      else return .error (.failed f)

def answerOf (edition : Edition) (id : Value) (outcome : Except Complaint Value) : Value :=
  let content := match outcome with
    | .ok v => ("result", v)
    | .error c => ("error", c.toValue report)
  let mark := if edition = .second then [("jsonrpc", .str "2.0")] else []
  record (mark ++ [content, ("id", id)])

def answer (c : Call) : M (Option Value) := do
  let outcome ← serve c
  if c.silent then
    if c.edition = .first then
      Op.fail (.unfit "id could not be null for JSON-RPC1.0 Response")
    return none
  return some (answerOf report c.edition c.id outcome)

def answerPost (post : Post) : M Value := do
  let answers := (← post.calls.mapM (answer report)).filterMap id
  let whole ← match post, answers with
    | _, [] => Op.fail (.noAttribute "NoneType" "json")
    | .single _, a :: _ => pure a
    | .batch _, answers => pure (.list answers)
  -- what cannot be written down cannot be sent
  let _ ← Json.write true whole
  return whole

def answerText (text : String) : M Value := do
  let refuse (c : Complaint) : Value := answerOf report .second .none (.error c)
  match Json.parse text with
  | .error f => if f.kind = .recursion then Op.fail f else return refuse .unreadable
  | .ok v =>
    match ← Post.ofValue v with
    | none => return refuse .noCall
    | some post => answerPost report post

end Remote

end Rover
