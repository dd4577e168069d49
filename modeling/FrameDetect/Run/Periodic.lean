import FrameDetect.Cycle.Run
import FrameDetect.Run.Shutdown
import FrameDetect.Run.Summary

/-!
# Periodic cycles

A run repeats cycles at fixed intervals until the stream is lost, a request to shut down comes, enough
cycles are done, or a tensor is malformed.  A cycle that takes longer than its interval is not made up
for: the next interval starts when it ends.
-/

namespace FrameDetect.Run

open FrameDetect.Cycle (Detector Devices)
open FrameDetect.Time (Duration)

/-- The interval of cycles that is not given. -/
def defaultPeriod : Duration := .ofMilliseconds 500

/-- A run of cycles at intervals. -/
structure Periodic where
  /-- The program is given it as a word of milliseconds. -/
  period : Duration
  /-- The cycles after which the run ends. -/
  maxCycles : Option UInt64
deriving Repr, DecidableEq

namespace Periodic

/-- A run between two cycles. -/
structure State where
  detector : Detector
  summary : Summary
  /-- When the next interval starts. -/
  deadline : Duration

/-- The end of a run. -/
abbrev Result := Except Fault Summary × Detector

/-- What comes after the requests have been looked for. -/
inductive Turn where
  /-- Enough cycles are done. -/
  | complete (cycles : UInt64)
  /-- The cycle of a number comes next. -/
  | cycle (number : UInt64)

/-- Counts the cycles that are done, and the next one if there is to be one. -/
def turn (p : Periodic) (s : Summary) : Except Overflow Turn := do
  let cycles ← s.cycles
  if p.maxCycles.any (· ≤ cycles) then return .complete cycles
  return .cycle (← addChecked cycles 1)

/-- The end of an interval: one period after the last one, but not in the past.  The steady clock of a computer
ends after `2 ^ 63` seconds; here it does not, as no period that is a word of milliseconds comes near. -/
def nextDeadline (p : Periodic) (deadline now : Duration) : Duration :=
  ⟨max (deadline + p.period).nanoseconds now.nanoseconds⟩

variable {m : Type → Type} [Monad m] [MonadLog m] [MonadClock m] {F : Type}

/-- Starts a run. -/
def start (p : Periodic) (d : Devices m F) (detector : Detector) : m State := do
  logInfo s!"开始任务, 周期 {p.period.text}"
  d.declare
  return ⟨detector, .empty, ← elapsed⟩

/-- Runs the next cycle, unless the run has ended, and waits for the end of its interval. -/
def step (p : Periodic) (d : Devices m F) (listener : Listener m) (s : State) :
    m (Sum State Result) := do
  if ← listener.isTriggered then
    logWarn "中断信号接收，退出任务循环"
    return .inr (.ok { s.summary with interrupted := true }, s.detector)
  match p.turn s.summary with
  | .error cause => return .inr (.error (.overflow cause), s.detector)
  | .ok (.complete cycles) =>
    logInfo s!"达到指定周期数 {cycles}, 退出任务循环"
    return .inr (.ok s.summary, s.detector)
  | .ok (.cycle number) =>
    logInfo s!"处理第 {number} 个周期"
    let (result, detector) ← Cycle.run d s.detector
    match s.summary.extend result with
    | .error fault => return .inr (.error fault, detector)
    | .ok summary =>
      if summary.sourceLost then
        logWarn "采集流已丢失，不再启动新的周期"
        return .inr (.ok summary, detector)
      let deadline := p.nextDeadline s.deadline (← elapsed)
      if ← listener.waitUntil deadline then
        logWarn "等待期间收到中断信号，退出任务循环"
        return .inr (.ok { summary with interrupted := true }, detector)
      return .inl ⟨detector, summary, deadline⟩

/-- Ends a run.  A run that breaks off leaves its events declared. -/
def finish (d : Devices m F) : Result → m Result
  | (.error (.overflow cause), detector) => return (.error (.overflow cause), detector)
  | (.error fault, detector) => do
    d.notifier.undeclare
    return (.error fault, detector)
  | (.ok summary, detector) => do
    d.notifier.undeclare
    logInfo (s!"任务完成，退出: 发布 {summary.published} 次, " ++
      s!"跳过 {summary.skipped} 次, 检测 {summary.detections} 个")
    return (.ok summary, detector)

/-- At most `n` steps from a state of a run; none if the run has not ended by then. -/
def steps (p : Periodic) (d : Devices m F) (listener : Listener m) (s : State) :
    Nat → m (Option Result)
  | 0 => return none
  | n + 1 => do
    match ← p.step d listener s with
    | .inl s => p.steps d listener s n
    | .inr result => return some result

/-- A whole run of at most `n` steps; none if it has not ended by then. -/
def runFor (n : Nat) (p : Periodic) (d : Devices m F) (listener : Listener m) (detector : Detector) :
    m (Option (Except Fault Summary × Detector)) := do
  let s ← p.start d detector
  match ← p.steps d listener s n with
  | none => return none
  | some result => return some (← finish d result)

end Periodic

end FrameDetect.Run
