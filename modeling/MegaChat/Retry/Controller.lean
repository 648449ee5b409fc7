import Mathlib.Data.List.Basic

/-!
# The `RetryController` of retryHandler.h

`RetryController` calls a promise-returning function `mFunc` until an attempt succeeds, the
attempt budget runs out or it is aborted, waiting with exponential backoff in between. It is
driven from outside: by its API (`start`, `restart`, `abort`, `reset`), by the timers it arms,
and by the settlement of the promises `mFunc` returned. `World` is the controller together
with that environment: the live timers of the timer service and the promise of every attempt.
Each member function is a function on `World`; one that throws `std::runtime_error` returns the
error text instead.

Continuations run synchronously when a promise settles. A promise that `mFunc` returns already
settled runs its continuations inside `nextTry`; nothing follows `nextTry` in any of its
callers, so that is the same as settling the promise right after, which is how it is modelled.
The cancel function is user code whose only effect here is to settle attempt promises, which
the events that call it carry. A second settlement of the output promise is recorded in
`mPromise`, and execution goes on. `mAutoDestruct` and the log lines are left out.
-/

namespace MegaChat.Retry

/-- `kStateBitRunning`: the bit set in the code of a running state. -/
def kStateBitRunning : Nat := 0x04

/-- `RetryController` states. -/
inductive State where
  | kStateNotStarted
  | kStateInProgress
  | kStateRetryWait
  | kStateFinished
  deriving DecidableEq, Repr

/-- The numeric code of each state. -/
def State.code : State → Nat
  | .kStateNotStarted => 0
  | .kStateInProgress => 1 ||| kStateBitRunning
  | .kStateRetryWait => 2 ||| kStateBitRunning
  | .kStateFinished => 3

/-- `promise::Error`. -/
structure Error where
  msg : String
  code : Int
  type : Int
  deriving DecidableEq, Repr

/-- `promise::kErrorTypeGeneric`, declared in promise.h, which is not under src/; the
docstring of `abort()` gives it as error type 1. -/
def kErrorTypeGeneric : Int := 1

/-- `promise::kErrAbort`, declared in promise.h; the docstring of `abort()` gives it as
code 2. -/
def kErrAbort : Int := 2

/-- `promise::kErrTimeout`, declared in promise.h. Neither src/ nor the spec gives its value:
`3` is a placeholder, and no result depends on it. -/
def kErrTimeout : Int := 3

/-- The error `abort()` rejects the output promise with. -/
def abortedError : Error := ⟨"aborted", kErrAbort, kErrorTypeGeneric⟩

/-- The `static const timeoutError` of the attempt-timeout callback. -/
def timeoutError : Error := ⟨"timeout", kErrTimeout, kErrorTypeGeneric⟩

/-- How a promise settled. -/
inductive Outcome (α : Type) where
  | resolved (value : α)
  | rejected (err : Error)
  deriving DecidableEq, Repr

/-- What a timer armed by the controller runs: the lambda of `start` and `schedNextRetry`
(`mTimer = 0; nextTry();`), or the attempt-timeout lambda of `nextTry` with the
`mCurrentAttemptId` it captured. -/
inductive Callback where
  | retry
  | attemptTimeout (attempt : Nat)
  deriving DecidableEq, Repr

/-- A live timer of the timer service. -/
structure Timer where
  handle : Nat
  delay : Nat
  callback : Callback
  deriving DecidableEq, Repr

/-- The promise returned by one call of `mFunc`: `attemptNo` is the call's argument and
`attempt` the `mCurrentAttemptId` its continuations captured; `result` is how it settled, and
`timedOut` whether its timeout fired with it still pending after the cancel function ran. -/
structure Attempt (α : Type) where
  attemptNo : Nat
  attempt : Nat
  result : Option (Outcome α)
  timedOut : Bool
  deriving DecidableEq, Repr

/-- The generation the continuation for `outcome` captured: `attachThenHandler` receives it
as an `unsigned`, the `fail` lambda captures the `size_t` itself. -/
def Attempt.captured {α : Type} (a : Attempt α) : Outcome α → Nat
  | .resolved _ => a.attempt % 4294967296
  | .rejected _ => a.attempt

/-- A `RetryController` with its timers and attempt promises. `size_t` and `unsigned long`
members are `Nat`, the `unsigned` and `unsigned short` ones bit vectors; `mPromise` lists
the settlements made on the output promise, which is done once there is one. -/
structure World (α : Type) where
  mState : State
  mCurrentAttemptNo : Nat
  mCurrentAttemptId : Nat
  mMaxAttemptCount : Nat
  mAttemptTimeout : BitVec 32
  mMaxSingleWaitTime : BitVec 32
  mDelayRandPct : BitVec 16
  mPromise : List (Outcome α)
  mTimer : Nat
  mInitialWaitTime : BitVec 16
  mRestart : BitVec 32
  timers : List Timer
  lastHandle : Nat
  attempts : List (Attempt α)

/-- `kBitness`: `sizeof(unsigned)*8-10`. -/
def kBitness : Nat := 32 - 10

/-- The constructor `RetryController(func, cancelFunc, attemptTimeout, maxSingleWaitTime,
maxAttemptCount, backoffStart)`. -/
def World.init {α : Type} (attemptTimeout maxSingleWaitTime : BitVec 32) (maxAttemptCount : Nat)
    (backoffStart : BitVec 16) : World α :=
  { mState := .kStateNotStarted, mCurrentAttemptNo := 0, mCurrentAttemptId := 0,
    mMaxAttemptCount := maxAttemptCount, mAttemptTimeout := attemptTimeout,
    mMaxSingleWaitTime := maxSingleWaitTime, mDelayRandPct := 20, mPromise := [], mTimer := 0,
    mInitialWaitTime := backoffStart, mRestart := 0, timers := [], lastHandle := 0,
    attempts := [] }

namespace World

variable {α : Type} (w : World α)

/-- `mPromise.done()`. -/
def done : Bool := !w.mPromise.isEmpty

/-- `cancelTimer()`. -/
def cancelTimer : World α :=
  if w.mTimer = 0 then w
  else { w with timers := w.timers.filter (fun t => t.handle != w.mTimer), mTimer := 0 }

/-- `mTimer = setTimeout(callback, delay)`: a fresh handle, stored in `mTimer`. -/
def armTimer (callback : Callback) (delay : Nat) : World α :=
  { w with
    timers := w.timers ++ [⟨w.lastHandle + 1, delay, callback⟩]
    lastHandle := w.lastHandle + 1
    mTimer := w.lastHandle + 1 }

/-- `calcWaitTimeNoRandomness()`: `(1 << (mCurrentAttemptNo-1)) * mInitialWaitTime` in 32 bits,
capped at `mMaxSingleWaitTime`, once the exponent is within `kBitness`. Both operands of the
product are `int`; a product that overflows is taken as the two's-complement wrap, which the
assignment to `unsigned t` reads modulo `2^32`. -/
def calcWaitTimeNoRandomness : BitVec 32 :=
  if w.mCurrentAttemptNo > kBitness then
    if w.mInitialWaitTime = 0 then 0 else w.mMaxSingleWaitTime
  else
    let t : BitVec 32 :=
      BitVec.ofNat 32 ((1 <<< (w.mCurrentAttemptNo - 1)) * w.mInitialWaitTime.toNat)
    if t.toNat ≤ w.mMaxSingleWaitTime.toNat then t else w.mMaxSingleWaitTime

/-- `calcWaitTime()`, with `rand` the value `rand()` returned. -/
def calcWaitTime (rand : Nat) : BitVec 32 :=
  let t := w.calcWaitTimeNoRandomness
  let randRange := t * w.mDelayRandPct.setWidth 32 / 100
  t - randRange + BitVec.ofNat 32 (rand % 1000) * (randRange * 2) / 1000

/-- `nextTry()`: arm the attempt timeout, enter `kStateInProgress`, and call `mFunc`, whose
promise's continuations capture the current `mCurrentAttemptId`. -/
def nextTry : World α :=
  let attempt := w.mCurrentAttemptId
  let w := if w.mAttemptTimeout ≠ 0 then
      w.armTimer (.attemptTimeout attempt) w.mAttemptTimeout.toNat
    else w
  let w := { w with mState := .kStateInProgress }
  { w with attempts := w.attempts ++ [⟨w.mCurrentAttemptNo, attempt, none, false⟩] }

/-- `start(delay)` past its state check. -/
def startBody (delay : BitVec 32) : World α :=
  let w := { w with mCurrentAttemptId := w.mCurrentAttemptId + 1, mCurrentAttemptNo := 1 }
  if delay ≠ 0 then ({ w with mState := .kStateRetryWait }).armTimer .retry delay.toNat
  else w.nextTry

/-- `start(delay)`. -/
def start (delay : BitVec 32) : Except String (World α) :=
  if w.mState ≠ .kStateNotStarted then
    .error "RetryController: Already started or not reset after finished"
  else .ok (w.startBody delay)

/-- `schedNextRetry(err)`: a pending restart starts over (its `start` cannot throw, the state
being `kStateNotStarted`); otherwise the attempt number and the generation move on, and the
controller gives up or waits `calcWaitTime()`. -/
def schedNextRetry (err : Error) (rand : Nat) : World α :=
  if w.mRestart ≠ 0 then
    ({ w with mRestart := 0, mState := .kStateNotStarted }).startBody w.mRestart
  else
    let w := { w with
      mCurrentAttemptNo := w.mCurrentAttemptNo + 1
      mCurrentAttemptId := w.mCurrentAttemptId + 1 }
    if w.mMaxAttemptCount ≠ 0 ∧ w.mCurrentAttemptNo > w.mMaxAttemptCount then
      { w with mPromise := w.mPromise ++ [.rejected err], mState := .kStateFinished }
    else
      ({ w with mState := .kStateRetryWait }).armTimer .retry (w.calcWaitTime rand).toNat

/-- The continuation `attachThenHandler` attaches; `attempt` is its `unsigned` parameter. -/
def onAttemptSuccess (attempt : Nat) (ret : α) : World α :=
  if attempt ≠ w.mCurrentAttemptId ∨ w.done then w
  else
    let w := w.cancelTimer
    { w with mPromise := w.mPromise ++ [.resolved ret], mState := .kStateFinished }

/-- The `fail` continuation `nextTry` attaches. -/
def onAttemptFailure (attempt : Nat) (err : Error) (rand : Nat) : World α :=
  if attempt ≠ w.mCurrentAttemptId ∨ w.done then w
  else w.cancelTimer.schedNextRetry err rand

/-- The continuation attempt `a`'s promise runs when it settles with `outcome`. -/
def runContinuation (a : Attempt α) (rand : Nat) : Outcome α → World α
  | .resolved ret => w.onAttemptSuccess (a.captured (.resolved ret)) ret
  | .rejected err => w.onAttemptFailure (a.captured (.rejected err)) err rand

/-- The record `a` of attempt `index` notes that its promise settled with `outcome`. -/
def recordResult (index : Nat) (a : Attempt α) (outcome : Outcome α) : World α :=
  { w with attempts := w.attempts.set index { a with result := some outcome } }

/-- The promise of attempt `index` settles with `outcome`, if it has not yet, and runs its
continuation. -/
def settleAttempt (index : Nat) (outcome : Outcome α) (rand : Nat) : World α :=
  match w.attempts[index]? with
  | some a =>
      if a.result.isNone then (w.recordResult index a outcome).runContinuation a rand outcome
      else w
  | none => w

/-- `callFuncIfNotNull(mCancelFunc)`: the cancel function settles the given attempt promises. -/
def callCancelFunc (cancel : List (Nat × Outcome α)) (rand : Nat) : World α :=
  cancel.foldl (fun w effect => w.settleAttempt effect.1 effect.2 rand) w

/-- The attempt-timeout lambda of `nextTry`. It bails out when the cancel function has already
moved the generation on. -/
def onAttemptTimeout (cancel : List (Nat × Outcome α)) (rand : Nat) : World α :=
  let w := { w with mTimer := 0 }
  let id := w.mCurrentAttemptId
  let w := w.callCancelFunc cancel rand
  if id ≠ w.mCurrentAttemptId then w else w.schedNextRetry timeoutError rand

/-- The retry lambda of `start` and `schedNextRetry`. -/
def onRetryTimer : World α := ({ w with mTimer := 0 }).nextTry

/-- `abort()`, with what it returns. -/
def abort (cancel : List (Nat × Outcome α)) (rand : Nat) : World α × Bool :=
  if w.mState.code &&& kStateBitRunning = 0 then (w, false)
  else
    let w := w.cancelTimer
    let w := if w.mState = .kStateInProgress then w.callCancelFunc cancel rand else w
    ({ w with mPromise := w.mPromise ++ [.rejected abortedError] }, true)

/-- `reset()`. -/
def reset : Except String (World α) :=
  if w.mState = .kStateNotStarted then .ok w
  else if w.mState ≠ .kStateFinished then
    .error "RetryController::reset: Can't reset while in progress"
  else .ok { w with mPromise := [], mCurrentAttemptNo := 0, mState := .kStateNotStarted }

/-- `restart(delay)`. -/
def restart (delay : BitVec 32) : Except String (World α) :=
  if w.mState = .kStateFinished then .error "restart: Already in finished state"
  else if w.mState = .kStateInProgress then
    .ok { w with mRestart := if delay ≠ 0 then delay else 1 }
  else ({ w.cancelTimer with mState := .kStateNotStarted }).start delay

/-- `setWaitRandomnessPct(pct)`. -/
def setWaitRandomnessPct (pct : BitVec 16) : World α := { w with mDelayRandPct := pct }

/-- The timer service's record that the attempt with generation `attempt` timed out while
its promise was pending. -/
def markTimedOut (attempt : Nat) : World α :=
  { w with attempts := w.attempts.map fun a =>
      if a.attempt = attempt ∧ a.result.isNone then { a with timedOut := true } else a }

/-- The timer service fires the live timer `handle`. -/
def fire (handle : Nat) (cancel : List (Nat × Outcome α)) (rand : Nat) : World α :=
  match w.timers.find? (fun t => t.handle == handle) with
  | none => w
  | some t =>
      let w := { w with timers := w.timers.filter (fun t => t.handle != handle) }
      match t.callback with
      | .retry => w.onRetryTimer
      | .attemptTimeout attempt => (w.onAttemptTimeout cancel rand).markTimedOut attempt

end World

/-- What can happen to a controller: an API call, a timer firing (with what the cancel
function does if it is called, and what `rand()` returns), or an attempt promise settling. -/
inductive Event (α : Type) where
  | start (delay : BitVec 32)
  | restart (delay : BitVec 32)
  | abort (cancel : List (Nat × Outcome α)) (rand : Nat)
  | reset
  | setWaitRandomnessPct (pct : BitVec 16)
  | fire (handle : Nat) (cancel : List (Nat × Outcome α)) (rand : Nat)
  | settle (index : Nat) (outcome : Outcome α) (rand : Nat)

namespace World

variable {α : Type}

/-- An API call that throws leaves the controller as it was. -/
def orUnchanged (w : World α) : Except String (World α) → World α
  | .ok next => next
  | .error _ => w

/-- One event. -/
def step (w : World α) : Event α → World α
  | .start delay => w.orUnchanged (w.start delay)
  | .restart delay => w.orUnchanged (w.restart delay)
  | .abort cancel rand => (w.abort cancel rand).1
  | .reset => w.orUnchanged w.reset
  | .setWaitRandomnessPct pct => w.setWaitRandomnessPct pct
  | .fire handle cancel rand => w.fire handle cancel rand
  | .settle index outcome rand => w.settleAttempt index outcome rand

/-- A sequence of events. -/
def run (w : World α) (events : List (Event α)) : World α := events.foldl step w

@[simp]
theorem run_nil (w : World α) : w.run [] = w := rfl

@[simp]
theorem run_cons (w : World α) (event : Event α) (events : List (Event α)) :
    w.run (event :: events) = (w.step event).run events := rfl

end World

/-- The worlds some sequence of events leads a freshly constructed controller to. -/
inductive Reachable {α : Type} : World α → Prop where
  | init (attemptTimeout maxSingleWaitTime : BitVec 32) (maxAttemptCount : Nat)
      (backoffStart : BitVec 16) :
      Reachable (World.init attemptTimeout maxSingleWaitTime maxAttemptCount backoffStart)
  | step {w : World α} (event : Event α) : Reachable w → Reachable (w.step event)

/-- `createRetryController(func, cancelFunc, attemptTimeout, maxRetries, maxSingleWaitTime,
backoffStart)`: the constructor, with `maxSingleWaitTime` passed from a `size_t` to an
`unsigned` parameter and `backoffStart` from a `short` to an `unsigned short`. -/
def createRetryController {α : Type} (attemptTimeout : BitVec 32) (maxRetries : Nat)
    (maxSingleWaitTime : BitVec 64) (backoffStart : BitVec 16) : World α :=
  World.init attemptTimeout (maxSingleWaitTime.setWidth 32) maxRetries backoffStart

/-- `retry(func, cancelFunc, attemptTimeout, maxRetries, maxSingleWaitTime, backoffStart)`: a
controller created as `createRetryController` does and started at once; the caller keeps its
output promise, `mPromise`. -/
def retry {α : Type} (attemptTimeout : BitVec 32) (maxRetries : Nat)
    (maxSingleWaitTime : BitVec 64) (backoffStart : BitVec 16) : World α :=
  (createRetryController attemptTimeout maxRetries maxSingleWaitTime backoffStart).step (.start 0)

end MegaChat.Retry
