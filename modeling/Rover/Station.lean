import Rover.Address
import Rover.Executor
import Rover.Image.Jpeg
import Rover.Link

/-!
# The station

The service that runs on the vehicle: it answers the cloud over the link, browsers over their own
connection and plain web requests, and lets all of them run programs on the executor.
-/

namespace Rover

open Link Rig

structure Settings where
  vehicleId : Value := .str "vehicle-001"
  gatewayUrl : Value := .str "wss://lanser.fun/block/ws/gateway"
  host : Value := .str "0.0.0.0"
  port : Value := .int 5000
  debug : Value := .bool false
  logLevel : Value := .str "INFO"
  mockHardware : Value := .bool false
  libraryPath : Value := .str "./TurboPi"
  timeLimit : Value := .int 30

namespace Settings

def ofEnvironment (setting : String → Option String) : Result Settings := do
  let text (name : String) (usual : Value) : Value := (setting name).elim usual .str
  let number (name : String) (usual : Int) : Result Value :=
    return .int (← (text name (.int usual)).toInteger)
  let usual : Settings := {}
  return {
    vehicleId := text "VEHICLE_ID" usual.vehicleId
    gatewayUrl := text "CLOUD_GATEWAY_URL" usual.gatewayUrl
    host := text "FLASK_HOST" usual.host
    port := ← number "FLASK_PORT" 5000
    debug := .bool (setting "FLASK_ENV" == some "development")
    logLevel := text "LOG_LEVEL" usual.logLevel
    mockHardware := .bool ((setting "MOCK_HARDWARE").map String.toLower == some "true")
    libraryPath := text "TURBOPI_PATH" usual.libraryPath
    timeLimit := ← number "EXECUTION_TIMEOUT" 30 }

def entries (s : Settings) : Record := [
  ("VEHICLE_ID", s.vehicleId), ("CLOUD_GATEWAY_URL", s.gatewayUrl), ("FLASK_HOST", s.host),
  ("FLASK_PORT", s.port), ("DEBUG", s.debug), ("LOG_LEVEL", s.logLevel),
  ("MOCK_HARDWARE", s.mockHardware), ("TURBOPI_PATH", s.libraryPath),
  ("EXECUTION_TIMEOUT", s.timeLimit)]

def ofEntries (given : String → Option Value) : Settings :=
  let u : Settings := {}
  let get (name : String) (usual : Value) : Value := (given name).getD usual
  { vehicleId := get "VEHICLE_ID" u.vehicleId
    gatewayUrl := get "CLOUD_GATEWAY_URL" u.gatewayUrl
    host := get "FLASK_HOST" u.host
    port := get "FLASK_PORT" u.port
    debug := get "DEBUG" u.debug
    logLevel := get "LOG_LEVEL" u.logLevel
    mockHardware := get "MOCK_HARDWARE" u.mockHardware
    libraryPath := get "TURBOPI_PATH" u.libraryPath
    timeLimit := get "EXECUTION_TIMEOUT" u.timeLimit }

end Settings

structure Station where
  runner : Runner := {}
  link : Link
  settings : Settings := {}

inductive Reply where
  | report (value : Value)
  | picture
  | moved
  | malformed
  | notFound
  | failed

namespace Reply

def status : Reply → String
  | report _ | picture => "200 OK"
  | moved => "308 PERMANENT REDIRECT"
  | malformed => "400 BAD REQUEST"
  | notFound => "404 NOT FOUND"
  | failed => "500 INTERNAL SERVER ERROR"

def contentType : Reply → String
  | report _ => "application/json"
  | picture => "image/jpeg"
  | malformed => "text/plain"
  | moved | notFound | failed => "text/html; charset=utf-8"

end Reply

namespace Station

@[inline] def onNet {α : Type} (op : Op Net α) : Op Station α :=
  Op.onPart (fun s => (⟨s.runner.vehicle.rig, s.link⟩ : Net))
    (fun s n => { s with
      link := n.link
      runner := { s.runner with vehicle := { s.runner.vehicle with rig := n.rig } } }) op

instance : MonadLift (Op Net) (Op Station) := ⟨onNet⟩

instance : MonadLift (Op Runner) (Op Station) :=
  ⟨Op.onPart Station.runner ({ · with runner := · })⟩

instance : HasRig Station :=
  ⟨fun s => s.runner.vehicle.rig, fun s rig => { s with runner.vehicle.rig := rig }⟩

@[inline] def onRig {α : Type} (op : Op Rig α) : Op Station α := HasRig.onRig op

instance : MonadLift (Op Rig) (Op Station) := ⟨onRig⟩

def entry (request : Value) (key : String) (usual : Value) : Result Value :=
  match request with
  | .dict entries => .ok ((Value.lookup? entries (.str key)).getD usual)
  | v => .error (.noAttribute v.className "get")

def reported (report : Record) (key : String) (usual : Value) : Value :=
  (report.lookup key).getD usual

def tellBrowsers (name : String) (data : Record) : Op Station Unit :=
  emit (.emitted name (record data))

structure Audience where
  started : Op Station Unit
  finished : Record → Op Station Unit

def runProgram (code execution limit : Value) (audience : Audience) : Op Station Record := do
  sendStarted execution
  audience.started
  let report ← Runner.start Runner.undisturbed code execution limit
  let success := reported report "success" .none
  let output := reported report "output" (.list [])
  if success.truth then
    sendFinished execution (.bool true) output .none
  else
    sendFinished execution (.bool false) output (reported report "error" .none)
  audience.finished report
  return report

def selfReport (withLink : Bool) : Op Station Value := do
  let e := (← get).runner.executor
  let sensors ← onRig Sensors.all
  let s ← get
  return record
    ([("vehicle_id", s.settings.vehicleId)]
      ++ (if withLink then [("connected", .bool s.link.isConnected)] else [])
      ++ [("busy", .bool e.executing), ("process_id", e.processId), ("sensors", sensors)])

def pictureText : String := "<jpeg>"

def picture : Op Station (Option Raster) := do
  match (← get).runner.vehicle.vision.frame with
  | none => return none
  | some s =>
    if s.width = 0 ∨ s.height = 0 then Op.fail .unencodable
    return some (.ofScene s)

def sendSnapshot (request : Value) : Op Station Unit := do
  let attempt : Op Station Unit := do
    match ← picture with
    | some r =>
      sendPicture request (.str pictureText)
      info ("摄像头快照已发送: request_id=" ++ request.text ++ ", size="
        ++ natText (Jpeg.size r))
    | none =>
      warn "无法读取摄像头帧"
      sendPicture request (.str "")
  Op.guarded attempt fun f => do
    error ("处理摄像头快照请求失败: " ++ f.message)
    sendPicture request (.str "")

inductive CloudRequest where
  | execute | stop | emergencyStop | status | ping | snapshot
deriving DecidableEq, Repr

namespace CloudRequest

def all : List CloudRequest := [.execute, .stop, .emergencyStop, .status, .ping, .snapshot]

def type : CloudRequest → String
  | .execute => "execute_code"
  | .stop => "stop_execution"
  | .emergencyStop => "emergency_stop"
  | .status => "get_status"
  | .ping => "ping"
  | .snapshot => "camera_snapshot_request"

def ofType? (type : Value) : Option CloudRequest := all.find? fun r => type.same (.str r.type)

end CloudRequest

def fulfil (request : CloudRequest) (message : Value) : Op Station Unit := do
  match request with
  | .execute =>
    let data ← entry message "data" (.dict [])
    let execution ← entry data "execution_id" .none
    let code ← entry data "code" .none
    let limit ← entry data "timeout" (← get).settings.timeLimit
    info ("收到代码执行请求: " ++ execution.text)
    if code.truth then
      let _ ← runProgram code execution limit ⟨pure (), fun _ => pure ()⟩
    else sendFinished execution (.bool false) .none (.str "代码为空")
  | .stop =>
    let execution ← entry (← entry message "data" (.dict [])) "execution_id" .none
    info ("收到停止执行请求: " ++ execution.text)
    if ← Runner.stop then sendStopped execution
  | .emergencyStop =>
    warn "收到紧急停止请求"
    Runner.emergencyStop
    sendEmergencyStop
  | .status =>
    let data ← selfReport false
    send (record [("type", .str "status_update"), ("data", data)])
  | .ping => sendData "pong" []
  | .snapshot =>
    let id ← entry (← entry message "data" (.dict [])) "request_id" (.str "unknown")
    info ("收到摄像头快照请求: " ++ id.text)
    sendSnapshot id

def handle (message : Value) : Op Station Unit := do
  match CloudRequest.ofType? (← entry message "type" .none) with
  | some request => fulfil request message
  | none => return

def greet : Op Station Unit := do
  info "客户端已连接"
  tellBrowsers "connected" [("vehicle_id", (← get).settings.vehicleId),
    ("status", record (Runner.status (← get).runner.executor))]

def bidFarewell : Op Station Unit := info "客户端已断开"

def execute (request : Value) : Op Station Value := do
  let code ← entry request "code" .none
  let execution ← entry request "execution_id" .none
  let limit ← entry request "timeout" (← get).settings.timeLimit
  if !code.truth then
    tellBrowsers "error" [("code", .str "CODE_EMPTY"), ("message", .str "代码为空")]
    return record [("success", .bool false), ("error", .str "代码为空")]
  info ("执行代码: " ++ execution.text)
  let report ← runProgram code execution limit {
    started := tellBrowsers "execution_started" [("execution_id", execution)]
    finished := fun report => do
      let success := (reported report "success" .none).truth
      tellBrowsers "execution_finished"
        ([("execution_id", execution), ("success", .bool success)]
          ++ (if success then [] else [("error", reported report "error" .none)])
          ++ [("output", reported report "output" (.list []))]) }
  return record [("success", reported report "success" .none), ("execution_id", execution)]

def stop (request : Value) : Op Station Value := do
  let execution ← entry request "execution_id" .none
  info ("停止执行: " ++ execution.text)
  if ← Runner.stop then
    let running := (← get).runner.executor.processId
    sendStopped (if execution.truth then execution else running)
    tellBrowsers "execution_stopped" [("execution_id", execution)]
    return record [("success", .bool true)]
  return record [("success", .bool false), ("error", .str "没有正在执行的代码")]

def emergencyStop : Op Station Value := do
  warn "紧急停止！"
  Runner.emergencyStop
  sendEmergencyStop
  tellBrowsers "emergency_stop" [("vehicle_id", (← get).settings.vehicleId)]
  return record [("success", .bool true)]

inductive Page where
  | health | status | snapshot
deriving DecidableEq, Repr

namespace Page

def all : List Page := [.health, .status, .snapshot]

def path : Page → String
  | .health => "/health"
  | .status => "/api/status"
  | .snapshot => "/camera/snapshot"

end Page

def browserPaths : String := "/socket.io/"

def isFilePath (path : Chars) : Bool :=
  let folder := "/static/".toList
  folder.isPrefixOf path && ((path.drop folder.length).head?.any (· != '/'))

def reply (target : String) : Op Station Reply := do
  let named := Address.unescape (← Address.read target).path
  if browserPaths.toList.isPrefixOf named then return .malformed
  let path := '/' :: named.dropWhile (· == '/')
  let page? (path : Chars) : Option Page := Page.all.find? fun p => p.path.toList = path
  match page? path with
  | some .health =>
    let s ← get
    return .report (record [("status", .str "healthy"),
      ("vehicle_id", s.settings.vehicleId), ("connected", .bool s.link.isConnected),
      ("mock_hardware", s.settings.mockHardware)])
  | some .status =>
    let attempt : Op Station Reply := do
      let data ← selfReport true
      return .report (record [("success", .bool true), ("data", data)])
    Op.guarded attempt fun _ => do
      error ("Exception on " ++ String.ofList path ++ " [GET]")
      return .failed
  | some .snapshot =>
    let attempt : Op Station Reply := do
      return if (← picture).isSome then .picture else .notFound
    Op.guarded attempt fun f => do
      error ("获取摄像头快照失败: " ++ f.message)
      return .failed
  | none =>
    let joined := Address.joinSlashes path
    return if !isFilePath path && ((page? joined).isSome || isFilePath joined) then .moved
      else .notFound

def prepare : Op Station Unit := do
  for r in CloudRequest.all do
    register (.str r.type) .service
  Net.update fun l => { l with
    onConnect := some .log, onDisconnect := some .log, onError := some .log }

def start : Op Station Unit := do
  prepare
  let s := (← get).settings
  info ("正在连接到云端: " ++ s.gatewayUrl.text)
  connect
  info ("启动车载服务: " ++ s.host.text ++ ":" ++ s.port.text)
  emit (.served (record [("host", s.host), ("port", s.port), ("debug", s.debug),
    ("allow_unsafe_werkzeug", .bool true)]))

def joinLater : Op Station Unit := do
  sleep (.int 2)
  connect

def new (rig : Rig) : Station :=
  { runner := { vehicle := { rig } }
    link := { address := .ofUrl "wss://lanser.fun/block/ws/gateway", vehicleId := .str "vehicle-001" } }

end Station

end Rover
