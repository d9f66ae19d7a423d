import Rover.Image.ColorSpace
import Rover.Image.Contour
import Rover.Image.Morphology
import Rover.Rig.Camera
import Rover.Vehicle

/-!
# Vision

Finding coloured objects in the camera picture, and the reader that keeps the picture up to date.
-/

namespace Rover.Vision

open Rig

open ColorSpace (Range selectHsv)

/-- A colour that can be looked for: its name in programs, its name in the log, and its boxes of
hue, saturation and value. -/
structure Target where
  name : String
  title : String
  ranges : List Range

def hueRange (low high : Int) : Range := ⟨(low, 100, 100), (high, 255, 255)⟩

def targets : List Target := [
  ⟨"hong", "红色", [hueRange 0 10, hueRange 170 180]⟩,
  ⟨"lv", "绿色", [hueRange 35 85]⟩,
  ⟨"lan", "蓝色", [hueRange 100 130]⟩,
  ⟨"huang", "黄色", [hueRange 20 35]⟩,
  ⟨"cheng", "橙色", [hueRange 10 25]⟩]

variable (name : Value)

def target? : Result (Option Target) := do
  name.hashable
  return targets.find? fun t => name.same (.str t.name)

structure Finding where
  x : Int
  y : Int
  area : Float

def largest (contours : List Contour) : Option Contour :=
  contours.foldl (fun best c =>
    match best with
    | none => if 0 < c.doubleArea then some c else none
    | some b => if b.doubleArea < c.doubleArea then some c else best) none

def colorMask (r : Raster) (t : Target) : Mask :=
  let masks := t.ranges.map (selectHsv r)
  let all := masks.foldl Mask.union (Mask.empty r.width r.height)
  all.closeDisc.openDisc

def leastArea : Nat := 500

def findColor (s : Scene) (t : Target) : Option Finding := do
  let c ← largest (colorMask (.ofScene s) t).contours
  if c.doubleArea ≤ 2 * leastArea then none
  let (x, y) ← c.centroid?
  let x ← (Binary.ofFloat? x).map Binary.truncate
  let y ← (Binary.ofFloat? y).map Binary.truncate
  return ⟨x, y, c.area⟩

def detect (frame : Option Scene) (name : Value) : Op Vehicle (Option Finding) := do
  match ← target? name with
  | none =>
    warn ("未知颜色: " ++ (← name.shown))
    return none
  | some t =>
    match frame with
    | none => Op.fail .badImage
    | some s =>
      if s.width = 0 ∨ s.height = 0 then Op.fail .badImage
      return findColor s t

def sees : Op Vehicle Bool := do
  let title := match ← target? name with
    | some t => t.title
    | none => name.text
  match (← get).vision.frame with
  | none =>
    warn "无法读取摄像头图像"
    return false
  | some s =>
    let found := (← detect (some s) name).isSome
    debug ("颜色识别: " ++ title ++ " -> " ++ (if found then "检测到" else "未检测到"))
    return found

def position : Op Vehicle (Option (Int × Int)) := do
  match (← get).vision.frame with
  | none => return none
  | some s => return (← detect (some s) name).map fun f => (f.x, f.y)

def firstDevice : List Nat → Op Rig (Option Nat)
  | [] => return none
  | i :: rest => do
    if ← openCamera i then
      info ("成功打开摄像头: index=" ++ natText i)
      return some i
    releaseCamera i
    firstDevice rest

def startReader : Op Vehicle Unit := do
  if !(← get).vision.running then
    modify fun v => { v with vision := { v.vision with running := true, reader := true } }
    info "后台摄像头读取线程已启动"

def new : Op Vehicle Unit := do
  match ← Vehicle.onRig (firstDevice [0, 1, 2]) with
  | none => Op.fail (.unfitRuntime "无法打开摄像头（尝试了索引 0-2）")
  | some i =>
    modify fun v => { v with
      vision := { device := some i, frame := none, count := 0, running := false, reader := false } }
    startReader
    info "摄像头初始化成功（帧缓冲池模式）"

def readerRuns (v : Vision) : Bool := v.running && v.reader

def mostFailures : Nat := 10

def readLoop : Nat → Nat → Op Vehicle Unit
  | 0, _ => return
  | fuel + 1, failures => do
    if !(← get).vision.running then return
    let reading : Op Vehicle (Option Scene) := do
      match (← get).vision.device with
      | none => Op.fail (.noAttribute "NoneType" "read")
      | some _ => readCamera
    match ← Op.attempt reading with
    | .ok (some s) =>
      modify fun v => { v with
        vision := { v.vision with frame := some s, count := v.vision.count + 1 } }
      sleep (.float 0.03)
      readLoop fuel 0
    | .ok none =>
      let failures := failures + 1
      if mostFailures ≤ failures then
        error ("摄像头连续读取失败 " ++ natText failures ++ " 次，停止后台读取")
      else
        sleep (.float 0.1)
        readLoop fuel failures
    | .error f =>
      error ("后台读取摄像头异常: " ++ f.message)
      let failures := failures + 1
      if mostFailures ≤ failures then
        error "达到最大失败次数，停止后台读取"
      else
        sleep (.float 0.5)
        readLoop fuel failures

def runReader : Op Vehicle Unit := do
  modify fun v => { v with vision := { v.vision with running := true } }
  readLoop ((← get).rig.shots.length + mostFailures + 1) 0
  info "后台摄像头读取线程已停止"

def release : Op Vehicle Unit := do
  modify fun v => { v with vision := { v.vision with running := false } }
  if (← get).vision.reader then warn "后台读取线程未能在超时时间内结束"
  match (← get).vision.device with
  | none => pure ()
  | some i =>
    releaseCamera i
    modify fun v => { v with vision := { v.vision with device := none } }
    info "摄像头已释放"
  modify fun v => { v with vision := { v.vision with frame := none, count := 0 } }

end Rover.Vision
