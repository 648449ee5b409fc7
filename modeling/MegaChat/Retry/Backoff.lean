import MegaChat.Retry.Budget
import MegaChat.Retry.Wait

/-!
# After a failure: backoff and pending restarts

`schedNextRetry` increments `mCurrentAttemptNo` before it calls `calcWaitTime()`, so the wait
it schedules after the `k`-th call of `mFunc` fails is computed for attempt number `k + 1`:
`(1 << k) * mInitialWaitTime`, capped, and not `(1 << (k - 1)) * mInitialWaitTime`. The first wait
is twice `backoffStart`, where the constructor's documentation promises `backoffStart` itself
("the first wait will be 1s the next 2s, then 4s").

Its other branch consumes a restart that `restart(delay)` requested during an attempt: the
numbering starts over at 1 and the wait is `delay`. Nothing else clears `mRestart`, so a
request made during an attempt that then succeeds outlives `reset()`, and the next cycle's
first failure starts over once more instead of backing off.
-/

namespace MegaChat.Retry.World

variable {α : Type} {w : World α}

/-- `calcWaitTime()` reads the attempt number, the initial and maximum waits and the jitter. -/
theorem calcWaitTime_congr {w' : World α} (no : w'.mCurrentAttemptNo = w.mCurrentAttemptNo)
    (initial : w'.mInitialWaitTime = w.mInitialWaitTime)
    (max : w'.mMaxSingleWaitTime = w.mMaxSingleWaitTime) (pct : w'.mDelayRandPct = w.mDelayRandPct)
    (rand : Nat) : w'.calcWaitTime rand = w.calcWaitTime rand := by
  unfold calcWaitTime calcWaitTimeNoRandomness
  rw [no, initial, max, pct]

/-- A retry that does not give up arms the retry timer with the wait of the attempt about to
be made. -/
theorem schedNextRetry_timers_of_room (noRestart : w.mRestart = 0)
    (room : w.mMaxAttemptCount = 0 ∨ w.mCurrentAttemptNo + 1 ≤ w.mMaxAttemptCount) (err : Error)
    (rand : Nat) : (w.schedNextRetry err rand).timers = w.timers ++
      [⟨w.lastHandle + 1, ({ w with mCurrentAttemptNo := w.mCurrentAttemptNo + 1 }.calcWaitTime
        rand).toNat, .retry⟩] := by
  unfold schedNextRetry
  rw [if_neg (by simp [noRestart])]
  dsimp only
  rw [if_neg (by omega)]
  rfl

/-- In a run in which every attempt fails or times out, the failure of the `k`-th call of
`mFunc`, when the budget allows another, arms the one retry timer with the wait
`calcWaitTime()` computes for attempt number `k + 1`. -/
theorem Budget.wait_after_failure (budget : w.Budget) (ok : w.TimersOk) {index : Nat}
    {a : Attempt α} (found : w.attempts[index]? = some a)
    (current : a.attempt = w.mCurrentAttemptId)
    (room : w.mMaxAttemptCount = 0 ∨ w.attempts.length < w.mMaxAttemptCount) (err : Error)
    (rand : Nat) : (w.settleAttempt index (.rejected err) rand).timers =
      [⟨w.lastHandle + 1, ({ w with mCurrentAttemptNo := w.attempts.length + 1 }.calcWaitTime
        rand).toNat, .retry⟩] := by
  have member := List.getElem?_mem found
  have atLeast := budget.atLeast_of_current member current
  obtain ⟨_, count, _, empty, _⟩ := budget.inProgress member atLeast
  obtain ⟨_, pending, _⟩ := budget.current a member atLeast
  have ending := budget.ending ok found current err
  unfold settleAttempt
  rw [found]
  dsimp only
  rw [if_pos (by simp [pending]), runContinuation_rejected]
  unfold onAttemptFailure
  rw [if_neg (by simp [current, done, empty]), schedNextRetry_timers_of_room ending.noRestart
    (by rw [ending.count]; simpa using room), ending.quiet.2, List.nil_append,
    cancelTimer_lastHandle]
  refine congrArg (fun wait : BitVec 32 => [(⟨w.lastHandle + 1, wait.toNat, .retry⟩ : Timer)])
    (calcWaitTime_congr ?_ ?_ ?_ ?_ rand) <;> simp [count, recordResult]

/-- In a run in which every attempt fails or times out, with an initial wait of at most 10
bits and a jitter of at most 100 %, the failure of the `k`-th call of `mFunc` arms the retry
timer with a delay within the jitter of `min(maxSingleWaitTime, backoffStart * 2^k)`: the
backoff doubles from twice `backoffStart`, up to `kBitness`. -/
theorem Budget.wait_within_jitter (budget : w.Budget) (ok : w.TimersOk) {index : Nat}
    {a : Attempt α} (found : w.attempts[index]? = some a)
    (current : a.attempt = w.mCurrentAttemptId)
    (room : w.mMaxAttemptCount = 0 ∨ w.attempts.length < w.mMaxAttemptCount)
    (small : w.mInitialWaitTime.toNat < 2 ^ 10) (within : w.attempts.length + 1 ≤ kBitness)
    (pct : w.mDelayRandPct.toNat ≤ 100) (err : Error) (rand : Nat) :
    let t : Nat :=
      min w.mMaxSingleWaitTime.toNat (w.mInitialWaitTime.toNat * 2 ^ w.attempts.length)
    ∃ delay : Nat, (w.settleAttempt index (.rejected err) rand).timers =
        [⟨w.lastHandle + 1, delay, .retry⟩] ∧
      (t : Int) - (t * w.mDelayRandPct.toNat / 100 : Nat) ≤ delay ∧
        (delay : Int) ≤ t + (t * w.mDelayRandPct.toNat / 100 : Nat) := by
  let next : World α := { w with mCurrentAttemptNo := w.attempts.length + 1 }
  have unjittered : next.calcWaitTimeNoRandomness.toNat =
      min w.mMaxSingleWaitTime.toNat (w.mInitialWaitTime.toNat * 2 ^ w.attempts.length) :=
    calcWaitTimeNoRandomness_toNat_of_ten_bits next small within
  obtain ⟨narrower, belowT, offset, _⟩ :=
    jitter_arith next.calcWaitTimeNoRandomness.isLt pct (Nat.mod_lt rand (by decide)) rfl
  refine ⟨_, budget.wait_after_failure ok found current room err rand, ?_⟩
  rw [calcWaitTime_toNat next pct rand, ← unjittered]
  dsimp only
  omega

/-- The first failure of a controller with the default wait and jitter: its retry timer is
armed within 20 % of 1000 ms. -/
theorem first_wait_within_jitter :
    let w : World Nat := (World.init 0 60000 0 1000 : World Nat).run [.start 0]
    w.Budget ∧ w.TimersOk ∧ w.attempts[0]? = some ⟨1, 1, none, false⟩ ∧
      (⟨1, 1, none, false⟩ : Attempt Nat).attempt = w.mCurrentAttemptId ∧
      (w.mMaxAttemptCount = 0 ∨ w.attempts.length < w.mMaxAttemptCount) ∧
      w.mInitialWaitTime.toNat < 2 ^ 10 ∧ w.attempts.length + 1 ≤ kBitness ∧
      w.mDelayRandPct.toNat ≤ 100 ∧
      let t : Nat :=
        min w.mMaxSingleWaitTime.toNat (w.mInitialWaitTime.toNat * 2 ^ w.attempts.length)
      ∃ delay : Nat, (w.settleAttempt 0 (.rejected timeoutError) 0).timers =
          [⟨w.lastHandle + 1, delay, .retry⟩] ∧
        (t : Int) - (t * w.mDelayRandPct.toNat / 100 : Nat) ≤ delay ∧
          (delay : Int) ≤ t + (t * w.mDelayRandPct.toNat / 100 : Nat) := by
  intro w
  have budget : w.Budget :=
    (init_budget 0 60000 0 1000).run (init_timersOk 0 60000 0 1000)
      ⟨.inl trivial, trivial⟩
  have ok : w.TimersOk := (init_timersOk 0 60000 0 1000).run _
  have found : w.attempts[0]? = some ⟨1, 1, none, false⟩ := by decide
  have current : (⟨1, 1, none, false⟩ : Attempt Nat).attempt = w.mCurrentAttemptId := by decide
  have room : w.mMaxAttemptCount = 0 ∨ w.attempts.length < w.mMaxAttemptCount := by decide
  have small : w.mInitialWaitTime.toNat < 2 ^ 10 := by decide
  have within : w.attempts.length + 1 ≤ kBitness := by decide
  have pct : w.mDelayRandPct.toNat ≤ 100 := by decide
  exact ⟨budget, ok, found, current, room, small, within, pct,
    budget.wait_within_jitter ok found current room small within pct timeoutError 0⟩

end MegaChat.Retry.World

namespace MegaChat.Retry

open World

/-- With no jitter, `backoffStart = 1000` and `maxSingleWaitTime = 60000`, the waits after
the first three failures are 2000, 4000 and 8000 milliseconds. -/
theorem backoff_exponent_off_by_one :
    let failed : World Nat := (World.init 0 60000 0 1000 : World Nat).run
      [.setWaitRandomnessPct 0, .start 0, .settle 0 (.rejected timeoutError) 0]
    let failedTwice : World Nat := failed.run [.fire 1 [] 0, .settle 1 (.rejected timeoutError) 0]
    let failedThrice : World Nat :=
      failedTwice.run [.fire 2 [] 0, .settle 2 (.rejected timeoutError) 0]
    failed.timers = [⟨1, 2000, .retry⟩] ∧ failedTwice.timers = [⟨2, 4000, .retry⟩] ∧
      failedThrice.timers = [⟨3, 8000, .retry⟩] := by
  decide

/-- A restart requested during an attempt that then succeeds outlives `reset()`. After
`setWaitRandomnessPct(0)`, `start()`, `restart(5)` and the attempt's success, the controller
has finished with the request still pending; reset and started again, its first failure makes
it wait 5 ms and call attempt 1 again, where a freshly constructed controller waits 2000 ms
and calls attempt 2. -/
theorem reset_keeps_pending_restart :
    let finished : World Nat := (World.init 0 60000 0 1000 : World Nat).run
      [.setWaitRandomnessPct 0, .start 0, .restart 5, .settle 0 (.resolved 1) 0]
    let reused : World Nat := finished.run [.reset, .start 0, .settle 1 (.rejected timeoutError) 0]
    let fresh : World Nat := (World.init 0 60000 0 1000 : World Nat).run
      [.setWaitRandomnessPct 0, .start 0, .settle 0 (.rejected timeoutError) 0]
    finished.mState = .kStateFinished ∧ finished.mRestart = 5 ∧
      reused.timers.map (·.delay) = [5] ∧ reused.mCurrentAttemptNo = 1 ∧
      fresh.timers.map (·.delay) = [2000] ∧ fresh.mCurrentAttemptNo = 2 := by
  decide

/-- A restart left pending by an earlier cycle makes a later `restart(0)` behave unlike
`start(0)`: the first failure after it restarts numbering once more, after 5 ms, where a
freshly constructed controller started with `start(0)` backs off 2000 ms and calls attempt
2. -/
theorem restart_replays_stale_request :
    let cycle : World Nat := (World.init 0 60000 0 1000 : World Nat).run
      [.setWaitRandomnessPct 0, .start 0, .restart 5, .settle 0 (.resolved 1) 0, .reset]
    let restarted : World Nat := cycle.run [.restart 0, .settle 1 (.rejected timeoutError) 0]
    let fresh : World Nat := (World.init 0 60000 0 1000 : World Nat).run
      [.setWaitRandomnessPct 0, .start 0, .settle 0 (.rejected timeoutError) 0]
    cycle.mState = .kStateNotStarted ∧ cycle.mRestart = 5 ∧
      restarted.timers.map (·.delay) = [5] ∧ restarted.mCurrentAttemptNo = 1 ∧
      fresh.timers.map (·.delay) = [2000] ∧ fresh.mCurrentAttemptNo = 2 := by
  decide

end MegaChat.Retry
