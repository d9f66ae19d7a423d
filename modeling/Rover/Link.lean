import Rover.Json.Reader
import Rover.Json.Writer
import Rover.Rig.Bus

/-!
# The link to the cloud

One socket at a time leads to the gateway in the cloud.
-/

namespace Rover

open Rig

structure GatewayAddress where
  socketUrl : String
  host : String
deriving DecidableEq, Repr

namespace GatewayAddress

open Text (occurs replaceAll before after?)

variable (url : Chars)

def toSocketScheme : Chars :=
  replaceAll "http://".toList "ws://".toList (replaceAll "https://".toList "wss://".toList url)

def toWebScheme : Chars :=
  replaceAll "ws://".toList "http://".toList (replaceAll "wss://".toList "https://".toList url)

def gatewayPath : Chars := "/block/ws/gateway".toList

def socketOf : Chars :=
  if occurs "/ws/gateway".toList url then toSocketScheme url
  else toSocketScheme (before "/block".toList url) ++ gatewayPath

def hostOf : Chars :=
  match after? "://".toList (toWebScheme url) with
  | some rest =>
    before ":".toList (before "/".toList (before "://".toList rest))
  | none => "lanser.fun".toList

def ofUrl (url : String) : GatewayAddress :=
  ⟨String.ofList (socketOf url.toList), String.ofList (hostOf url.toList)⟩

end GatewayAddress

inductive TimerTask where
  | register
  | heartbeat
deriving DecidableEq, Repr

structure LinkTimer where
  id : Nat
  due : Float
  task : TimerTask

/-- Who receives messages of a type: the vehicle's own service, or a journal, which notes them under
a type and may then refuse them. A value in their place cannot receive anything. -/
inductive Receiver where
  | service
  | journal (type : Value) (refusal : Option Fault)
  | inert (v : Value)

def Receiver.counts : Receiver → Bool
  | .inert v => v.truth
  | _ => true

/-- Who is told about the state of the link: the vehicle's log or a journal. A value in their place
cannot be told anything. -/
inductive Listener where
  | log
  | journal
  | inert (v : Value)

def Listener.ofValue (v : Value) : Option Listener := if v.truth then some (.inert v) else none

inductive Notice where
  | connected
  | disconnected
  | failed (text : String)
  | received (type : Value) (message : Value)

structure Link where
  address : GatewayAddress
  trusting : Bool := false
  vehicleId : Value
  running : Bool := false
  socket : Option Nat := none
  sockets : Nat := 0
  reconnects : Nat := 0
  timers : List LinkTimer := []
  nextTimer : Nat := 0
  heartbeat : Option Nat := none
  receivers : List (Value × Receiver) := []
  onConnect : Option Listener := none
  onDisconnect : Option Listener := none
  onError : Option Listener := none
  notices : List Notice := []

structure Net where
  rig : Rig := {}
  link : Link

namespace Net

instance : HasRig Net := ⟨Net.rig, ({ · with rig := · })⟩

instance : MonadLift (Op Rig) (Op Net) := ⟨HasRig.onRig⟩

@[inline] def update (f : Link → Link) : Op Net Unit := modify fun n => { n with link := f n.link }

def remember (n : Notice) : Op Net Unit :=
  update fun l => { l with notices := l.notices ++ [n] }

end Net

namespace Link

open Net (update remember)

def new (url vehicleId : Value) (trusting : Bool) : Result Link :=
  match url with
  | .str s => .ok { address := .ofUrl s, vehicleId, trusting }
  | v => .error (.noAttribute v.className "replace")

variable (l : Link)

def isConnected : Bool := l.running && l.socket.isSome

def checks : Value :=
  if l.trusting then record [("cert_reqs", .int 0)]
  else record [("server_hostname", .str l.address.host)]

def startTimer (delay : Float) (task : TimerTask) : Op Net Nat := do
  let id := (← get).link.nextTimer
  let due := (← get).rig.clock + delay
  update fun l => { l with timers := l.timers ++ [⟨id, due, task⟩], nextTimer := id + 1 }
  return id

def stopHeartbeat : Op Net Unit :=
  update fun l => match l.heartbeat with
    | none => l
    | some id => { l with timers := l.timers.filter (·.id != id), heartbeat := none }

def heartbeatInterval : Float := 10

def startHeartbeat : Op Net Unit := do
  stopHeartbeat
  let id ← startTimer heartbeatInterval .heartbeat
  update fun l => { l with heartbeat := some id }

def withLabel (key : String) (v : Value) (entries : Entries) : Entries :=
  if (Value.lookup? entries (.str key)).isSome then entries else entries ++ [(.str key, v)]

def labelled (now : Int) (entries : Entries) : Entries :=
  withLabel "timestamp" (.int now) (withLabel "vehicle_id" l.vehicleId entries)

/-- The message that is sent in place of a value: an object is labelled, other values are refused
unless they already hold the labels. -/
def complete (now : Result Int) (message : Value) : Result Value :=
  match message with
  | .dict entries => do
    if (Value.lookup? entries (.str "timestamp")).isSome then
      return .dict (withLabel "vehicle_id" l.vehicleId entries)
    return .dict (labelled l (← now) entries)
  | v => do
    if ← v.contains (.str "vehicle_id") then
      if ← v.contains (.str "timestamp") then return v
      let _ ← now
    match v with
    | .list _ =>
      throw (.position "list" "str")
    | v => throw (.wrongType ("'" ++ v.className ++ "' object does not support item assignment"))

def typeText (message : Value) : Result String :=
  match message with
  | .dict entries => .ok ((Value.lookup? entries (.str "type")).getD .none).text
  | v => .error (.noAttribute v.className "get")

def send (message : Value) : Op Net Unit := do
  let l := (← get).link
  if l.isConnected then
    let message ← complete l (Value.toInteger (.float (← get).rig.clock)) message
    let attempt : Op Net Unit := do
      let text ← Json.write true message
      meetFault
      emit (.sent text)
      debug ("发送消息: " ++ (← typeText message))
    Op.guarded attempt fun f => Rig.error ("发送消息失败: " ++ f.message)
  else warn "未连接到云端，无法发送消息"

def sendData (type : String) (data : Record) : Op Net Unit :=
  send (record [("type", .str type), ("data", record data)])

def sendHeartbeat : Op Net Unit := sendData "heartbeat" []

def sendStarted (execution : Value) : Op Net Unit :=
  sendData "execution_started" [("execution_id", execution)]

def sendFinished (execution success output error : Value) : Op Net Unit :=
  let given (key : String) : Value → Record
    | .none => []
    | v => [(key, v)]
  sendData "execution_finished"
    ([("execution_id", execution), ("success", success)] ++ given "output" output
      ++ given "error" error)

def sendStopped (execution : Value) : Op Net Unit :=
  sendData "execution_stopped" [("execution_id", execution)]

def sendError (execution error : Value) : Op Net Unit :=
  sendData "execution_error" [("execution_id", execution), ("error", error)]

def sendEmergencyStop : Op Net Unit := sendData "emergency_stop" []

def sendSensors (sensors : Value) : Op Net Unit := sendData "sensor_update" [("sensors", sensors)]

def sendBusy (busy : Value) : Op Net Unit := sendData "status_update" [("busy", busy)]

def sendPicture (request image : Value) : Op Net Unit :=
  sendData "camera_snapshot_response" [("request_id", request), ("image", image)]

def vehicleName (id : Value) : Result String := do
  if ← id.contains (.str "-") then
    match id with
    | .str s =>
      let number := (Text.after? ['-'] s.toList).getD []
      return "小车" ++ String.ofList (Text.before ['-'] number)
    | v => throw (.noAttribute v.className "split")
  return "小车001"

def sendRegister : Op Net Unit := do
  let id := (← get).link.vehicleId
  info ("发送车辆注册消息: vehicle_id=" ++ id.text)
  let name ← vehicleName id
  sendData "register" [("vehicle_id", id), ("name", .str name),
    ("capabilities", record [("motion", .bool true),
      ("sensors", .list (["ultrasonic", "infrared", "line", "battery"].map .str)),
      ("vision", .bool true)])]

def beat : Op Net Unit := do
  if (← get).link.isConnected then
    Op.guarded (do sendHeartbeat; startHeartbeat) fun f =>
      Rig.error ("发送心跳失败: " ++ f.message)

def runTask : TimerTask → Op Net Unit
  | .register => Op.guarded sendRegister fun f => Rig.error ("发送注册消息失败: " ++ f.message)
  | .heartbeat => beat

def nextDue (timers : List LinkTimer) : Option LinkTimer :=
  timers.foldl (fun best t => match best with
    | none => some t
    | some b => if t.due < b.due then some t else best) none

def fireUntil (target : Float) : Nat → Op Net Unit
  | 0 => return
  | fuel + 1 => do
    match nextDue (← get).link.timers with
    | none => return
    | some t =>
      if target < t.due then return
      update fun l => { l with timers := l.timers.filter (·.id != t.id) }
      modify fun n => { n with rig := { n.rig with clock := max n.rig.clock t.due } }
      runTask t.task
      fireUntil target fuel

def elapse (duration : Value) : Op Net Unit := do
  let target ← (← Value.add (.float (← get).rig.clock) duration).toFloat
  let beats := ((target - (← get).rig.clock) / heartbeatInterval).toUInt64.toNat
  fireUntil target ((← get).link.timers.length + beats + 2)
  modify fun n => { n with rig := { n.rig with clock := target } }

def connect : Op Net Unit := do
  let l := (← get).link
  info ("正在连接到云端: " ++ l.address.socketUrl)
  if l.trusting then warn "SSL 证书验证已禁用（WS_SKIP_SSL_VERIFY=true）"
  emit (.socket l.address.socketUrl (record [("X-Vehicle-ID", l.vehicleId)]))
  update fun l => { l with socket := some l.sockets, sockets := l.sockets + 1 }

def tell (listener : Option Listener) (log : Op Rig Unit) (notice : Notice) : Op Net Unit :=
  match listener with
  | none => return
  | some .log => log
  | some .journal => remember notice
  | some (.inert v) => Op.fail (.notCallable v.className)

def tellError (text : String) : Op Net Unit := do
  tell (← get).link.onError (Rig.error ("连接错误: " ++ text)) (.failed text)

def runSocket : Op Net Unit := do
  let serve : Op Net Unit := do
    emit (.socketRun (← get).link.checks)
    meetFault
  Op.guarded serve fun f => do
    Rig.error ("WebSocket运行异常: " ++ f.message)
    Rig.error ("错误类型: " ++ f.kind.word)
    tellError f.message

def mostReconnects : Nat := 5

def reconnectDelay (attempt : Nat) : Nat := min (twoPow attempt) 30

def opened : Op Net Unit := do
  info ("WebSocket连接已建立 (vehicle_id: " ++ (← get).link.vehicleId.text ++ ")")
  update fun l => { l with running := true, reconnects := 0 }
  let _ ← startTimer 0.1 .register
  startHeartbeat
  tell (← get).link.onConnect (info "已连接到云端") .connected

def errored (error : Value) : Op Net Unit := do
  Rig.error ("WebSocket错误: " ++ error.text ++ " (类型: " ++ error.className ++ ")")
  tellError error.text

def closed (code reason : Value) : Op Net Unit := do
  info ("WebSocket连接已关闭: " ++ code.text ++ " - " ++ reason.text)
  update fun l => { l with running := false }
  stopHeartbeat
  tell (← get).link.onDisconnect (warn "与云端断开连接") .disconnected
  let attempts := (← get).link.reconnects
  let most := natText mostReconnects
  if attempts < mostReconnects then
    let attempt := attempts + 1
    update fun l => { l with reconnects := attempt }
    let delay := reconnectDelay attempt
    info ("将在 " ++ natText delay ++ " 秒后尝试重连 (" ++ natText attempt
      ++ "/" ++ most ++ ")...")
    sleep (.int delay)
    connect
  else Rig.error ("已达到最大重连次数 (" ++ most ++ ")，停止重连")

def disconnect : Op Net Unit := do
  stopHeartbeat
  if (← get).link.socket.isSome then
    update fun l => { l with running := false }
    emit .socketClosed

def setListeners (onConnect onDisconnect onError : Option Listener) : Op Net Unit :=
  update ({ · with onConnect, onDisconnect, onError })

def register (type : Value) (r : Receiver) : Op Net Unit := do
  type.hashable
  update fun l =>
    { l with receivers :=
        if l.receivers.any (fun (t, _) => t.same type) then
          l.receivers.map fun (t, old) => (t, if t.same type then r else old)
        else l.receivers ++ [(type, r)] }

def receiver? (type : Value) : Result (Option Receiver) := do
  type.hashable
  return ((l.receivers.find? fun (t, _) => t.same type).map Prod.snd).filter Receiver.counts

def readMessage (text : Value) : Result Value :=
  match text with
  | .str s => Json.parse s
  | v => .error (.wrongType
      ("the JSON object must be str, bytes or bytearray, not " ++ v.className))

def typed (text message : Value) : Value × Value :=
  match message with
  | .dict entries => ((Value.lookup? entries (.str "type")).getD .none, message)
  | _ => (text, record [("type", text)])

def socketTypes : List String := ["ping", "pong", "close"]

section
variable {σ : Type} (onNet : {α : Type} → Op Net α → Op σ α)

variable (service : Value → Op σ Unit)

def give (r : Receiver) (message : Value) : Op σ Unit :=
  match r with
  | .service => service message
  | .journal type refusal => onNet do
    remember (.received type message)
    match refusal with
    | none => return
    | some f => Op.fail f
  | .inert v => Op.fail (.notCallable v.className)

def registered (type : Value) : Op σ (Option Receiver) := do
  (← onNet (do return (← get).link)).receiver? type

/-- A received text goes to the receiver of its type. One that is no JSON, or whose receiver says so,
goes to the receiver that is registered for the text itself. -/
def dispatch (hand : Receiver → Value → Op σ Unit) (text : Value) : Op σ Unit := do
  let attempt : Op σ Unit := do
    let (type, message) := typed text (← readMessage text)
    onNet (debug ("收到消息: " ++ type.text))
    match ← registered onNet type with
    | some r => hand r message
    | none =>
      if (socketTypes.any fun t => type.same (.str t)) then
        onNet (debug ("WebSocket协议消息: " ++ type.text))
      else onNet (warn ("未知消息类型: " ++ type.text))
  Op.guarded attempt fun f => do
    if f.kind = .decoding then
      onNet (warn ("收到非JSON消息: " ++ text.text))
      if let some r ← registered onNet text then hand r (record [("type", text)])
    else onNet (Rig.error ("处理消息失败: " ++ f.message))

def receive (text : Value) : Op σ Unit :=
  dispatch onNet (give onNet service) text

end

inductive SocketEvent where
  | opened
  | received (text : Value)
  | errored (error : Value)
  | closed (code reason : Value)

def hear {σ : Type} (onNet : {α : Type} → Op Net α → Op σ α) (service : Value → Op σ Unit)
    (_socket : Nat) : SocketEvent → Op σ Unit
  | .opened => onNet opened
  | .received text => receive onNet service text
  | .errored error => onNet (errored error)
  | .closed code reason => onNet (closed code reason)

end Link

end Rover
