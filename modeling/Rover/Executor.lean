import Rover.Program.Grammar
import Rover.Program.Machine

/-!
# The executor

Runs programs one at a time, each with a time limit, and lets others stop them.
-/

namespace Rover

open Rig

structure Executor where
  executing : Bool := false
  interrupted : Bool := false
  processId : Value := .none
  stopRequested : Bool := false
  timeout : Value := .int 30
  commands : Bool := true
  /-- What the collector of printed texts holds. -/
  printed : List String := []
  /-- Programs that were started, but could not be waited for. -/
  abandoned : List Program.Tree := []

/-- A vehicle, the executor that drives it, and what others were answered while a program ran. -/
structure Runner where
  vehicle : Vehicle := {}
  executor : Executor := {}
  answers : List (Result Value) := []

namespace Runner

instance : MonadLift (Op Vehicle) (Op Runner) :=
  ⟨Op.onPart Runner.vehicle ({ · with vehicle := · })⟩

instance : HasRig Runner :=
  ⟨fun r => r.vehicle.rig, fun r rig => { r with vehicle.rig := rig }⟩

@[inline] def onRig {α : Type} (op : Op Rig α) : Op Runner α := HasRig.onRig op

instance : MonadLift (Op Rig) (Op Runner) := ⟨onRig⟩

@[inline] def update (f : Executor → Executor) : Op Runner Unit :=
  modify fun r => { r with executor := f r.executor }

def refusalText : Program.Refusal → String
  | .malformed => "代码语法错误"
  | .misplaced line column =>
    "代码编译异常: " ++
      if line = 1 then
        "line 1, column " ++ natText column ++ "-0 is not a valid range"
      else "AST node line range (" ++ natText line ++ ", 1) is not valid"

def treeOf : Value → Except String Program.Tree
  | .str s => (Program.Tree.ofText s).mapError refusalText
  | v => .error ("代码编译异常: Not allowed source type: \"" ++ v.className ++ "\".")

def compile (code : Value) : Op Runner (Option Program.Tree) := do
  match treeOf code with
  | .ok t => return some t
  | .error text =>
    error text
    return none

abbrev Meanwhile := Nat → Option (Op Runner Value)

def undisturbed : Meanwhile := fun _ => none

variable (meanwhile : Meanwhile)

def host (sleeps : Nat) : Program.Host Runner := fun c args named => do
  let before := (← get).vehicle.rig.sleeps
  let v ← c.call args named
  let after := (← get).vehicle.rig.sleeps
  if before < after then
    if let some request := meanwhile (after - sleeps) then
      let answer ← Op.attempt request
      modify fun r => { r with answers := r.answers ++ [answer] }
  return v

inductive Ending where
  | finished
  | failed (cause : Fault)
  | overdue

def runUntil (tree : Program.Tree) (deadline : Option Float) : Op Runner Ending := fun r =>
  let rig := r.vehicle.rig
  let limit (r : Runner) (d : Option Float) : Runner :=
    { r with vehicle := { r.vehicle with rig := { r.vehicle.rig with deadline := d } } }
  match tree.run (host meanwhile rig.sleeps) r.executor.commands (limit r deadline) with
  | .ok _ r => .ok .finished (limit r none)
  | .error (.fault f) r => .ok (.failed f) (limit r none)
  | .error .ended r => .ok .overdue (limit r none)

def report (success : Bool) (error : Value) (output : List String := []) : Record :=
  [("success", .bool success), ("error", error), ("output", .list (output.map .str))]

def limitFor (timeout usual : Value) : Value :=
  match timeout with
  | .none => usual
  | t => t

/-- A thread is waited for by a clock that counts nanoseconds, on 64 bits. -/
def waitLimit : Float := 9223372036.854776

def waitTime (x : Num) : Result Float :=
  -- what is too far below zero for a double is no time at all
  if x.less (.float waitLimit) then .ok (x.toFloat.toOption.getD 0)
  else match x with
    | .int _ => .error (.beyondRange "timestamp too large to convert to C _PyTime_t")
    | .float y =>
      if y.isNaN then .error (.unfit "Invalid value NaN (not a number)")
      else .error (.beyondRange "timestamp out of range for platform time_t")

def deadlineAt (clock : Float) (limit : Value) : Result (Option Float) :=
  match limit with
  | .none => .ok none
  | t => match t.num? with
    | some x => (waitTime x).map fun seconds => some (clock + seconds)
    | none => .error (.order ">" "int" t.className)

/-- Waits for a program that was started. If this cannot be done, the program runs on. -/
def await (tree : Program.Tree) (limit : Value) : Op Runner Ending := do
  match deadlineAt (← now) limit with
  | .ok deadline => runUntil meanwhile tree deadline
  | .error f =>
    update fun e => { e with abandoned := e.abandoned ++ [tree] }
    Op.fail f

def conclude (limit : Value) (ending : Ending) : Op Runner Record := do
  let (success, complaint) ← match ending with
    | .finished => pure (true, .none)
    | .failed f =>
      -- a fault that cannot be put into words comes out instead of a report
      if !f.isWritable then Op.fail .unwritable
      error ("代码执行错误: " ++ f.message)
      pure (false, .str ("执行错误: " ++ f.message))
    | .overdue =>
      update fun e => { e with interrupted := true }
      warn ("代码执行超时: " ++ limit.text ++ "秒")
      pure (false, .str ("执行超时（" ++ limit.text ++ "秒）"))
  let output := (← get).executor.printed
  update fun e => { e with executing := false }
  return report success complaint output

def execute (code timeout : Value) : Op Runner Record := do
  if (← get).executor.executing then return report false (.str "已有代码正在执行")
  match ← compile code with
  | none => return report false (.str "代码编译失败")
  | some tree =>
    update fun e => { e with executing := true, interrupted := false, printed := [] }
    let limit := limitFor timeout (← get).executor.timeout
    conclude limit (← await meanwhile tree limit)

def interrupt : Op Runner Unit := do
  if (← get).executor.executing then
    update fun e => { e with interrupted := true }
    info "代码执行被中断"
    if (← get).executor.commands then Motion.stop

def reset : Op Runner Unit :=
  update fun e => { e with executing := false, interrupted := false }

def nameFor (processId : Value) (clock : Float) : Result Value :=
  if processId.truth then .ok processId
  else do return .str ("exec_" ++ Number.intText (← (Value.float clock).toInteger))

def forgetName : Op Runner Unit := do
  if !(← get).executor.stopRequested then update fun e => { e with processId := .none }

def start (code processId timeout : Value) : Op Runner Record := do
  let e := (← get).executor
  if e.executing then
    return [("success", .bool false), ("error", .str "已有代码正在执行，请先停止"),
      ("process_id", e.processId)]
  let name ← nameFor processId (← now)
  update fun e => { e with stopRequested := false, processId := name }
  info ("开始执行代码: process_id=" ++ name.text)
  let result ← execute meanwhile code timeout
  let name := (← get).executor.processId
  forgetName
  return result ++ [("process_id", name)]

def stop : Op Runner Bool := do
  if (← get).executor.executing then
    update fun e => { e with stopRequested := true }
    interrupt
    info ("停止执行: process_id=" ++ (← get).executor.processId.text)
    update fun e => { e with processId := .none }
    return true
  return false

def emergencyStop : Op Runner Unit := do
  if (← get).executor.commands then Motion.stop
  let _ ← stop
  warn "紧急停止已触发"

def status (e : Executor) : Record :=
  [("executing", .bool e.executing), ("process_id", e.processId),
    ("interrupted", .bool e.interrupted), ("stop_requested", .bool e.stopRequested)]

end Runner

end Rover
