import FrameDetect.Run.Shutdown

/-!
# Triggers and their listener

Whoever holds a trigger can make a request, copy the trigger or give it up.  One listener asks for
requests, waits for them, or stops listening.  All of them act in their own time, so that an exchange goes
through their actions in any order in which these can happen.
-/

namespace FrameDetect.Run

open FrameDetect.Time (Duration)

/-- What the listener is about. -/
inductive Activity where
  | free
  /-- It waits for a request, until a moment of the steady clock. -/
  | waiting (deadline : Duration)
  /-- It sleeps until that moment, as nobody is left who could make a request. -/
  | sleeping (deadline : Duration)
deriving Repr, DecidableEq

/-- What happens next. -/
inductive Action where
  /-- Someone makes a request. -/
  | trigger
  /-- Someone copies a trigger. -/
  | clone
  /-- Someone gives up a trigger. -/
  | drop
  /-- The listener asks whether there has been a request. -/
  | ask
  /-- The listener starts to wait for a request until a moment of the steady clock. -/
  | wait (deadline : Duration)
  /-- The listener, while it waits, looks whether the wait is over. -/
  | look
  /-- The listener goes away. -/
  | close
  /-- Time passes. -/
  | pass (time : Duration)
deriving Repr, DecidableEq

/-- Requests, together with those who make them and the one who waits for them. -/
structure Exchange where
  shutdown : Shutdown
  /-- The triggers that have not been given up. -/
  triggers : Nat
  activity : Activity
  /-- The steady clock. -/
  now : Duration
deriving Repr, DecidableEq

namespace Exchange

/-- A trigger and its listener. -/
def opening (now : Duration) : Exchange := ⟨.quiet, 1, .free, now⟩

/-- Whether the listener can start something. -/
def isFree (s : Exchange) : Bool := s.shutdown.listening && s.activity = .free

/-- Ends a wait without a request once its moment has come. -/
def expire (s : Exchange) (deadline : Duration) : Exchange × Option Bool :=
  if deadline.nanoseconds ≤ s.now.nanoseconds then ({ s with activity := .free }, some false)
  else (s, none)

/-- Looks whether a wait is over.  A request counts also when its moment has come, or when it was made
by the last trigger before that was given up. -/
def look (s : Exchange) : Option (Exchange × Option Bool) :=
  match s.activity with
  | .free => none
  | .waiting deadline =>
    match s.shutdown.isTriggered with
    | (true, shutdown) => some ({ s with shutdown, activity := .free }, some true)
    | (false, _) =>
      if s.triggers = 0 then some ({ s with activity := .sleeping deadline }.expire deadline)
      else some (s.expire deadline)
  | .sleeping deadline => some (s.expire deadline)

/-- What an action leads to, with the answer if it gives one; none if it cannot happen. -/
def perform (s : Exchange) : Action → Option (Exchange × Option Bool)
  | .trigger => if 0 < s.triggers then some ({ s with shutdown := s.shutdown.trigger }, none) else none
  | .clone => if 0 < s.triggers then some ({ s with triggers := s.triggers + 1 }, none) else none
  | .drop => if 0 < s.triggers then some ({ s with triggers := s.triggers - 1 }, none) else none
  | .ask =>
    if s.isFree then
      let (triggered, shutdown) := s.shutdown.isTriggered
      some ({ s with shutdown }, some triggered)
    else none
  | .wait deadline => if s.isFree then some ({ s with activity := .waiting deadline }, none) else none
  | .look => s.look
  | .close => if s.isFree then some ({ s with shutdown := s.shutdown.close }, none) else none
  | .pass time => some ({ s with now := s.now + time }, none)

/-- What actions lead to, one after the other, with the answers that they give; none if one of them
cannot happen. -/
def run (s : Exchange) : List Action → Option (Exchange × List Bool)
  | [] => some (s, [])
  | action :: rest => do
    let (s, answer) ← s.perform action
    let (s, answers) ← s.run rest
    return (s, answer.toList ++ answers)

end Exchange

end FrameDetect.Run
