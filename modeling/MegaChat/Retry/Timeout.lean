import MegaChat.Retry.Controller

/-!
# `performWithTimeout`

`performWithTimeout(cb, timeout, cancelCb)` returns a promise `pms`, arms a timer that
rejects it with "Operation timed out" and calls `cancelCb` unless it is done, calls `cb()`
and attaches two continuations to the promise `retpms` that `cb` returned:
`_timeoutAttachThenHandler(retpms)`, and a `fail` handler that rejects `pms` with `cb`'s
error unless it is done. The first is passed `retpms`, so it resolves `retpms`, already
resolved when it runs, and not `pms`: `cb`'s value never reaches `pms`, which the timer
rejects later.

A call is modelled by both promises' settlements, whether the timer is still armed and how
often `cancelCb` ran; the events are the timer firing and `retpms` settling. A promise that
`cb()` returns already settled runs its continuations when they are attached, which is the
same as settling right after.
-/

namespace MegaChat.Retry

/-- The error the timer rejects with. -/
def operationTimedOut : Error := ⟨"Operation timed out", 1, 1⟩

/-- The two promises of a call: the one `performWithTimeout` returns, and `cb`'s. -/
inductive Target where
  | pms
  | retpms
  deriving DecidableEq, Repr

/-- One call of `performWithTimeout`. -/
structure TimeoutCall (α : Type) where
  pms : List (Outcome α)
  retpms : List (Outcome α)
  armed : Bool
  cancelCalls : Nat
  deriving DecidableEq, Repr

namespace TimeoutCall

variable {α : Type} (c : TimeoutCall α)

/-- The settlements of a promise. -/
def promise : Target → List (Outcome α)
  | .pms => c.pms
  | .retpms => c.retpms

/-- `done()`. -/
def done (target : Target) : Bool := !(c.promise target).isEmpty

/-- `resolve` or `reject`. -/
def settle : Target → Outcome α → TimeoutCall α
  | .pms, outcome => { c with pms := c.pms ++ [outcome] }
  | .retpms, outcome => { c with retpms := c.retpms ++ [outcome] }

/-- The continuation `_timeoutAttachThenHandler` attaches for the value `val`: it resolves the
promise passed to it, its parameter `pms`, unless that is done. -/
def timeoutThenHandler (target : Target) (val : α) : TimeoutCall α :=
  if !c.done target then c.settle target (.resolved val) else c

/-- The timer's lambda. -/
def onTimeout : TimeoutCall α :=
  if c.done .pms then c
  else { c.settle .pms (.rejected operationTimedOut) with cancelCalls := c.cancelCalls + 1 }

/-- The `fail` lambda on `retpms`. -/
def onFailure (err : Error) : TimeoutCall α :=
  if !c.done .pms then c.settle .pms (.rejected err) else c

/-- `retpms` settles, once, and runs its continuations in the order they were attached. -/
def settleRetpms (outcome : Outcome α) : TimeoutCall α :=
  if c.done .retpms then c
  else
    let c := c.settle .retpms outcome
    match outcome with
    | .resolved val => c.timeoutThenHandler .retpms val
    | .rejected err => c.onFailure err

end TimeoutCall

/-- The call just made: the timer armed, both promises pending. -/
def performWithTimeout {α : Type} : TimeoutCall α := ⟨[], [], true, 0⟩

/-- What happens to a call: the timer fires, or `retpms` settles. -/
inductive TimeoutEvent (α : Type) where
  | fire
  | settle (outcome : Outcome α)

namespace TimeoutCall

variable {α : Type}

/-- One event; a timer fires once. -/
def step (c : TimeoutCall α) : TimeoutEvent α → TimeoutCall α
  | .fire => if c.armed then { c.onTimeout with armed := false } else c
  | .settle outcome => c.settleRetpms outcome

/-- A sequence of events. -/
def run (c : TimeoutCall α) (events : List (TimeoutEvent α)) : TimeoutCall α :=
  events.foldl step c

end TimeoutCall

/-- `cb`'s promise resolving with 7 leaves the returned promise pending, and the timer then
rejects it with "Operation timed out" and calls the cancel callback. -/
theorem timeout_discards_value :
    let resolved : TimeoutCall Nat := performWithTimeout.run [.settle (.resolved 7)]
    resolved.pms = [] ∧ resolved.retpms = [.resolved 7] ∧
      (resolved.step .fire).pms = [.rejected operationTimedOut] ∧
      (resolved.step .fire).cancelCalls = 1 := by
  decide

end MegaChat.Retry
