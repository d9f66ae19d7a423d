import Rover.Number.Arith
import Rover.Op

/-!
# PID controllers

A controller with proportional, integral and derivative terms, a bound on the integral and a least
time between two updates.
-/

namespace Rover

open Arith

/-- A controller: its gains, its bounds, its times and the terms of its last update. -/
structure Pid (α : Type) where
  kp : α
  ki : α
  kd : α
  sampleTime : α
  currentTime : α
  lastTime : α
  setPoint : α
  pTerm : α
  iTerm : α
  dTerm : α
  lastError : α
  windupGuard : α
  output : α

namespace Pid

variable {α : Type} [Arith α]

def clear (c : Pid α) : Pid α :=
  { c with
    setPoint := real 0
    pTerm := real 0
    iTerm := real 0
    dTerm := real 0
    lastError := real 0
    windupGuard := real 20
    output := real 0 }

def new (kp ki kd now : α) : Pid α :=
  clear
    { kp, ki, kd, sampleTime := real 0, currentTime := now, lastTime := now
      setPoint := now, pTerm := now, iTerm := now, dTerm := now, lastError := now
      windupGuard := now, output := now }

def limitIntegral : Op (Pid α) Unit := do
  let c ← get
  let low ← neg c.windupGuard
  if ← less c.iTerm low then
    set { c with iTerm := low }
  else if ← less c.windupGuard c.iTerm then
    set { c with iTerm := c.windupGuard }

def combine : Op (Pid α) Unit := do
  let c ← get
  let held ← add c.pTerm (← mul c.ki c.iTerm)
  let output ← add held (← mul c.kd c.dTerm)
  set { c with output }

def update (now feedback : α) : Op (Pid α) Unit := do
  let c ← get
  let error ← sub c.setPoint feedback
  set { c with currentTime := now }
  let elapsed ← sub now c.lastTime
  let change ← sub error c.lastError
  if ← atMost c.sampleTime elapsed then
    let p ← mul c.kp error
    modify fun c => { c with pTerm := p }
    let i ← add c.iTerm (← mul error elapsed)
    modify fun c => { c with iTerm := i }
    limitIntegral
    modify fun c => { c with dTerm := real 0 }
    if ← less (whole 0) elapsed then
      let d ← div change elapsed
      modify fun c => { c with dTerm := d }
    modify fun c => { c with lastTime := now, lastError := error }
    combine

end Pid

end Rover
