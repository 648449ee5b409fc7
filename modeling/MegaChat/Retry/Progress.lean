import MegaChat.Retry.Generations
import MegaChat.Retry.Lifecycle

/-!
# A controller that never stalls

A controller whose output promise is unsettled waits for one of two things: its retry timer,
in `kStateRetryWait`, or the promise of the attempt in progress, in `kStateInProgress`. The
first always comes: in every reachable world a waiting controller has its retry timer live,
and firing it calls `mFunc` with the current attempt number and generation. The second cannot
hang once an attempt timeout is configured: an attempt in progress has the timeout of its
generation live, and firing it leaves `kStateInProgress`, to wait for the next retry or
finished. That last step rests on `Generations`: once a settlement inside the cancel function
has moved the controller out of `kStateInProgress`, every later settlement is stale.

A finished controller, for its part, stays finished until `reset()`: over any run without
`reset()` its state, its output promise and its calls of `mFunc` stay as they are.

One success can still be lost, through the code's types: the success continuation keeps its
generation as an `unsigned`, while `mCurrentAttemptId` is a `size_t`. Past `2^32` generations
the success of the current call compares unequal and is ignored as stale, and a controller
with no attempt timeout then waits in `kStateInProgress` until `abort()`;
`success_lost_past_unsigned_generations` reaches such a controller.
-/

namespace MegaChat.Retry.World

variable {α : Type}

section Leaving

variable (w : World α) (err : Error) (rand : Nat)

@[simp]
theorem nextTry_mAttemptTimeout : w.nextTry.mAttemptTimeout = w.mAttemptTimeout := by
  unfold nextTry; split <;> rfl

theorem startBody_mState_of_ne {delay : BitVec 32} (nonzero : delay ≠ 0) :
    (w.startBody delay).mState = .kStateRetryWait := by
  unfold startBody; dsimp only; rw [if_pos nonzero]; rfl

/-- `schedNextRetry()` waits for the next retry, or gives up: a pending restart starts over
with a nonzero delay. -/
theorem schedNextRetry_mState :
    (w.schedNextRetry err rand).mState = .kStateRetryWait ∨
      (w.schedNextRetry err rand).mState = .kStateFinished := by
  unfold schedNextRetry
  split
  · rename_i pending
    exact .inl (startBody_mState_of_ne _ pending)
  · dsimp only
    split
    · exact .inr rfl
    · exact .inl rfl

/-- A settlement is stale and only records its result, or its continuation leaves the
controller waiting for the next retry or finished. -/
theorem settleAttempt_cases (index : Nat) (outcome : Outcome α) :
    (w.settleAttempt index outcome rand = w ∨
      ∃ a, w.settleAttempt index outcome rand = w.recordResult index a outcome) ∨
    (w.settleAttempt index outcome rand).mState = .kStateRetryWait ∨
      (w.settleAttempt index outcome rand).mState = .kStateFinished := by
  unfold settleAttempt
  split
  · rename_i a _
    split
    · cases outcome with
      | resolved ret =>
          rw [runContinuation_resolved]
          unfold onAttemptSuccess
          split
          · exact .inl (.inr ⟨a, rfl⟩)
          · exact .inr (.inr rfl)
      | rejected err =>
          rw [runContinuation_rejected]
          unfold onAttemptFailure
          split
          · exact .inl (.inr ⟨a, rfl⟩)
          · exact .inr (schedNextRetry_mState _ err rand)
    · exact .inl (.inl rfl)
  · exact .inl (.inl rfl)

end Leaving

/-- The cancel function either leaves the generation as it was or leaves the controller
waiting for the next retry or finished. -/
theorem Generations.callCancelFunc_leaves {w : World α} (gen : w.Generations) (ok : w.TimersOk)
    (cancel : List (Nat × Outcome α)) (rand : Nat) :
    (w.callCancelFunc cancel rand).mCurrentAttemptId = w.mCurrentAttemptId ∨
      (w.callCancelFunc cancel rand).mState = .kStateRetryWait ∨
      (w.callCancelFunc cancel rand).mState = .kStateFinished := by
  induction cancel generalizing w with
  | nil => exact .inl rfl
  | cons effect rest inductionHypothesis =>
      have unfolded : w.callCancelFunc (effect :: rest) rand =
          (w.settleAttempt effect.1 effect.2 rand).callCancelFunc rest rand := rfl
      rw [unfolded]
      have settledGen := gen.settleAttempt ok effect.1 effect.2 rand
      have settledOk := ok.settleAttempt effect.1 effect.2 rand
      rcases settleAttempt_cases w rand effect.1 effect.2 with stale | left
      · have same : (w.settleAttempt effect.1 effect.2 rand).mCurrentAttemptId =
            w.mCurrentAttemptId := by
          rcases stale with same | ⟨a, recorded⟩
          · rw [same]
          · rw [recorded]; rfl
        rw [← same]
        exact inductionHypothesis settledGen settledOk
      · have idle : (w.settleAttempt effect.1 effect.2 rand).mState ≠ .kStateInProgress := by
          rcases left with state | state <;> rw [state] <;> decide
        rw [settledGen.callCancelFunc_idle settledOk idle]
        exact .inr left

/-- The attempt-timeout lambda, run in `kStateInProgress` once its timer is off the list,
leaves the controller waiting for the next retry or finished. -/
theorem Generations.onAttemptTimeout_leaves {w : World α} (gen : w.Generations)
    (noTimers : w.timers = []) (inProgress : w.mState = .kStateInProgress)
    (cancel : List (Nat × Outcome α)) (rand : Nat) :
    (w.onAttemptTimeout cancel rand).mState = .kStateRetryWait ∨
      (w.onAttemptTimeout cancel rand).mState = .kStateFinished := by
  have quiet : Quiet { w with mTimer := 0 } := ⟨rfl, noTimers⟩
  have cleared : Generations { w with mTimer := 0 } :=
    Generations.of_inProgress gen.increasing gen.bounded noTimers inProgress
  unfold World.onAttemptTimeout
  dsimp only
  split
  · rename_i moved
    exact (cleared.callCancelFunc_leaves quiet.timersOk cancel rand).resolve_left
      fun same => moved same.symm
  · exact schedNextRetry_mState _ timeoutError rand

/-- The live timer is the only one: the timer service finds it, and firing it empties the
list. -/
theorem TimersOk.find_only {w : World α} (ok : w.TimersOk) {t : Timer} (live : t ∈ w.timers) :
    w.timers.find? (fun s => s.handle == t.handle) = some t ∧
      w.timers.filter (fun s => s.handle != t.handle) = [] := by
  obtain ⟨t', only, -, -⟩ := ok.quiet_or_armed.resolve_left fun quiet => by
    simp [quiet.2] at live
  rw [only, List.mem_singleton] at live
  subst live
  simp [only]

theorem TimersOk.fire_retry {w : World α} (ok : w.TimersOk) {t : Timer} (live : t ∈ w.timers)
    (retry : t.callback = .retry) (cancel : List (Nat × Outcome α)) (rand : Nat) :
    w.fire t.handle cancel rand = ({ w with timers := [] } : World α).onRetryTimer := by
  obtain ⟨found, emptied⟩ := ok.find_only live
  simp only [World.fire, found, emptied, retry]

theorem TimersOk.fire_timeout {w : World α} (ok : w.TimersOk) {t : Timer} (live : t ∈ w.timers)
    {attempt : Nat} (timeout : t.callback = .attemptTimeout attempt)
    (cancel : List (Nat × Outcome α)) (rand : Nat) :
    w.fire t.handle cancel rand =
      (({ w with timers := [] } : World α).onAttemptTimeout cancel rand).markTimedOut attempt := by
  obtain ⟨found, emptied⟩ := ok.find_only live
  simp only [World.fire, found, emptied, timeout]

/-- An attempt in progress with its output promise unsettled has the timeout of its generation
live, when the controller has an attempt timeout. -/
def TimeoutArmed (w : World α) : Prop :=
  w.mState = .kStateInProgress → w.mPromise = [] → w.mAttemptTimeout ≠ 0 →
    ∃ t ∈ w.timers, t.callback = .attemptTimeout w.mCurrentAttemptId

section Armed

variable {w : World α}

theorem TimeoutArmed.of_idle (idle : w.mState ≠ .kStateInProgress) : w.TimeoutArmed :=
  fun running => absurd running idle

theorem TimeoutArmed.of_settled (settled : w.mPromise ≠ []) : w.TimeoutArmed :=
  fun _ unsettled => absurd unsettled settled

theorem nextTry_timeoutArmed (w : World α) : w.nextTry.TimeoutArmed := by
  intro _ _ timeout
  rw [nextTry_mAttemptTimeout] at timeout
  unfold nextTry
  dsimp only
  rw [if_pos timeout]
  exact ⟨_, List.mem_append_right _ (List.mem_singleton_self _), rfl⟩

theorem startBody_timeoutArmed (w : World α) (delay : BitVec 32) :
    (w.startBody delay).TimeoutArmed := by
  unfold startBody
  split
  · exact .of_idle (by simp)
  · exact nextTry_timeoutArmed _

theorem TimeoutArmed.settleAttempt (armed : w.TimeoutArmed) (index : Nat) (outcome : Outcome α)
    (rand : Nat) : (w.settleAttempt index outcome rand).TimeoutArmed := by
  rcases settleAttempt_cases w rand index outcome with (same | ⟨a, recorded⟩) | left
  · rw [same]; exact armed
  · rw [recorded]; exact armed
  · exact .of_idle (by rcases left with state | state <;> rw [state] <;> decide)

theorem TimeoutArmed.fire (armed : w.TimeoutArmed) (gen : w.Generations) (ok : w.TimersOk)
    (handle : Nat) (cancel : List (Nat × Outcome α)) (rand : Nat) :
    (w.fire handle cancel rand).TimeoutArmed := by
  cases found : w.timers.find? (fun t => t.handle == handle) with
  | none => simpa [World.fire, found] using armed
  | some t =>
      obtain ⟨live, -⟩ := ok.fired found
      have hits : t.handle = handle := by simpa using List.find?_some found
      subst hits
      cases callback : t.callback with
      | retry =>
          rw [ok.fire_retry live callback]
          exact nextTry_timeoutArmed _
      | attemptTimeout attempt =>
          have running := gen.timeout_progress t live attempt callback
          have cleared : Generations ({ w with timers := [] } : World α) :=
            Generations.of_inProgress gen.increasing gen.bounded rfl running
          rw [ok.fire_timeout live callback]
          exact .of_idle (by
            rcases cleared.onAttemptTimeout_leaves rfl running cancel rand with state | state <;>
              simp [markTimedOut, state])

theorem TimeoutArmed.step (armed : w.TimeoutArmed) (gen : w.Generations) (ok : w.TimersOk)
    (event : Event α) : (w.step event).TimeoutArmed := by
  cases event with
  | start delay =>
      simp only [World.step, World.start]
      split
      · exact armed
      · exact startBody_timeoutArmed _ delay
  | restart delay =>
      simp only [World.step, World.restart]
      split
      · exact armed
      · split
        · exact armed
        · simp only [World.start, ne_eq, not_true_eq_false, if_false, orUnchanged]
          exact startBody_timeoutArmed _ delay
  | abort cancel rand =>
      simp only [World.step, World.abort]
      split
      · exact armed
      · exact .of_settled (by simp)
  | reset =>
      simp only [World.step, World.reset]
      split
      · exact armed
      · split
        · exact armed
        · exact .of_idle (by simp [orUnchanged])
  | setWaitRandomnessPct pct => exact armed
  | fire handle cancel rand => exact armed.fire gen ok handle cancel rand
  | settle index outcome rand => exact armed.settleAttempt index outcome rand

theorem init_timeoutArmed (attemptTimeout maxSingleWaitTime : BitVec 32) (maxAttemptCount : Nat)
    (backoffStart : BitVec 16) :
    (init attemptTimeout maxSingleWaitTime maxAttemptCount backoffStart : World α).TimeoutArmed :=
  .of_idle (by simp [init])

end Armed

/-- Once finished with the output promise settled, a run without `reset()` leaves the state,
the output promise and the number of calls of `mFunc` as they are. -/
theorem TimersOk.finished_run {w : World α} (ok : w.TimersOk) (settled : w.mPromise ≠ [])
    (finished : w.mState = .kStateFinished) {events : List (Event α)}
    (noReset : ∀ event ∈ events, event ≠ .reset) :
    (w.run events).mState = .kStateFinished ∧ (w.run events).mPromise = w.mPromise ∧
      (w.run events).attempts.length = w.attempts.length := by
  induction events generalizing w with
  | nil => exact ⟨finished, rfl, rfl⟩
  | cons event rest inductionHypothesis =>
      obtain ⟨stillFinished, samePromise, sameLength⟩ :=
        ok.finished_step settled finished event (noReset event (List.mem_cons_self _ _))
      obtain ⟨state, promise, length⟩ := inductionHypothesis (ok.step event)
        (by rw [samePromise]; exact settled) stillFinished
        fun other member => noReset other (List.mem_cons_of_mem _ member)
      exact ⟨state, promise.trans samePromise, length.trans sameLength⟩

section Wraparound

variable {w : World α}

/-- The success continuation compares the `unsigned` copy of its generation with the `size_t`
counter: past `2^32` generations the success of the current call is taken for a stale one. -/
theorem settleAttempt_success_past_unsigned {index : Nat} {a : Attempt α}
    (found : w.attempts[index]? = some a) (pending : a.result = none)
    (current : a.attempt = w.mCurrentAttemptId) (wide : 4294967296 ≤ w.mCurrentAttemptId)
    (ret : α) (rand : Nat) :
    w.settleAttempt index (.resolved ret) rand = w.recordResult index a (.resolved ret) := by
  have lost : a.attempt % 4294967296 ≠ w.mCurrentAttemptId := by
    have := Nat.mod_lt a.attempt (by decide : 0 < 4294967296)
    omega
  simp [World.settleAttempt, found, pending, World.onAttemptSuccess, lost]

/-- A controller held in `kStateInProgress`: its output promise unsettled, no timer live and
every call of `mFunc` settled, so that no continuation and no timer is left to move it. -/
structure Stuck (w : World α) : Prop where
  inProgress : w.mState = .kStateInProgress
  unsettled : w.mPromise = []
  noTimers : w.timers = []
  settled : ∀ a ∈ w.attempts, a.result ≠ none

/-- Every event but `abort()` leaves a stuck controller stuck: `start()` and `reset()` throw,
`restart()` is deferred to the end of an attempt that has already ended, no timer fires and
every settlement finds its call settled. -/
theorem Stuck.step (stuck : w.Stuck) (event : Event α)
    (notAbort : ∀ cancel rand, event ≠ .abort cancel rand) : (w.step event).Stuck := by
  cases event with
  | start delay => simpa [World.step, World.start, stuck.inProgress, orUnchanged] using stuck
  | restart delay =>
      simp only [World.step, World.restart, stuck.inProgress, reduceCtorEq, if_false, if_true,
        orUnchanged]
      exact ⟨rfl, stuck.unsettled, stuck.noTimers, stuck.settled⟩
  | abort cancel rand => exact absurd rfl (notAbort cancel rand)
  | reset => simpa [World.step, World.reset, stuck.inProgress, orUnchanged] using stuck
  | setWaitRandomnessPct pct =>
      exact ⟨stuck.inProgress, stuck.unsettled, stuck.noTimers, stuck.settled⟩
  | fire handle cancel rand => simpa [World.step, World.fire, stuck.noTimers] using stuck
  | settle index outcome rand =>
      cases found : w.attempts[index]? with
      | none => simpa [World.step, World.settleAttempt, found] using stuck
      | some a =>
          have done := stuck.settled a (List.mem_iff_getElem?.mpr ⟨index, found⟩)
          simpa [World.step, World.settleAttempt, found, Option.isNone_iff_eq_none, done]
            using stuck

theorem Stuck.run (stuck : w.Stuck) {events : List (Event α)}
    (notAbort : ∀ event ∈ events, ∀ cancel rand, event ≠ .abort cancel rand) :
    (w.run events).Stuck := by
  induction events generalizing w with
  | nil => exact stuck
  | cons event rest inductionHypothesis =>
      exact inductionHypothesis (stuck.step event (notAbort event (List.mem_cons_self _ _)))
        fun other member => notAbort other (List.mem_cons_of_mem _ member)

/-- With no attempt timeout and a budget of one attempt, `start()`, the failure of its attempt
and `reset()` bring the controller back to `kStateNotStarted` two generations on. -/
theorem run_fail_and_reset (w : World α) (state : w.mState = .kStateNotStarted)
    (unsettled : w.mPromise = []) (noTimeout : w.mAttemptTimeout = 0)
    (budget : w.mMaxAttemptCount = 1) (noRestart : w.mRestart = 0) (quiet : w.Quiet) :
    w.run [.start 0, .settle w.attempts.length (.rejected timeoutError) 0, .reset] =
      { w with mCurrentAttemptId := w.mCurrentAttemptId + 2, mCurrentAttemptNo := 0,
               attempts := w.attempts ++
                 [⟨1, w.mCurrentAttemptId + 1, some (.rejected timeoutError), false⟩] } := by
  simp [World.step, World.start, World.startBody, World.nextTry, World.settleAttempt,
    World.recordResult, World.onAttemptFailure, World.cancelTimer, World.schedNextRetry,
    World.reset, orUnchanged, World.done, state, noTimeout, budget, noRestart, quiet.1, quiet.2,
    unsettled]

end Wraparound

end MegaChat.Retry.World

namespace MegaChat.Retry

open World

/-- Every even generation is reached, before `start()`, by a controller with no attempt timeout
and a budget of one attempt whose calls have all settled. -/
theorem exists_at_generation (k : Nat) :
    ∃ w : World Nat, Reachable w ∧ w.mState = .kStateNotStarted ∧ w.mCurrentAttemptId = 2 * k ∧
      w.mPromise = [] ∧ w.mAttemptTimeout = 0 ∧ w.mMaxAttemptCount = 1 ∧ w.mRestart = 0 ∧
      w.Quiet ∧ ∀ a ∈ w.attempts, a.result ≠ none := by
  induction k with
  | zero =>
      exact ⟨createRetryController 0 1 60000 1000, .createRetryController _ _ _ _, rfl, rfl, rfl,
        rfl, rfl, rfl, ⟨rfl, rfl⟩, by simp [createRetryController, World.init]⟩
  | succ k inductionHypothesis =>
      obtain ⟨w, reachable, state, generation, unsettled, noTimeout, budget, noRestart, quiet,
        settled⟩ := inductionHypothesis
      refine ⟨_, reachable.run [.start 0, .settle w.attempts.length (.rejected timeoutError) 0,
        .reset], ?_⟩
      rw [run_fail_and_reset w state unsettled noTimeout budget noRestart quiet]
      refine ⟨state, by simp only [generation]; omega, unsettled, noTimeout, budget, noRestart,
        quiet, fun a member => ?_⟩
      rcases List.mem_append.mp member with old | new
      · exact settled a old
      · rw [List.mem_singleton.mp new]
        simp

theorem Reachable.timeoutArmed {α : Type} {w : World α} (reachable : Reachable w) :
    w.TimeoutArmed := by
  induction reachable with
  | init => exact init_timeoutArmed _ _ _ _
  | step event previous inductionHypothesis =>
      exact inductionHypothesis.step previous.generations previous.timersOk event

/-- In every reachable world a controller waiting to retry with its output promise unsettled
has its retry timer live, and firing it calls `mFunc` once more, with the current attempt
number and the current generation, in `kStateInProgress`. -/
theorem waiting_controller_retries {α : Type} (w : World α) (reachable : Reachable w)
    (waiting : w.mState = .kStateRetryWait) (unsettled : w.mPromise = []) :
    ∃ t ∈ w.timers, t.callback = .retry ∧ ∀ (cancel : List (Nat × Outcome α)) (rand : Nat),
      (w.step (.fire t.handle cancel rand)).mState = .kStateInProgress ∧
      (w.step (.fire t.handle cancel rand)).attempts =
        w.attempts ++ [⟨w.mCurrentAttemptNo, w.mCurrentAttemptId, none, false⟩] := by
  obtain ⟨t, live, retry⟩ := reachable.generations.waiting_armed waiting unsettled
  refine ⟨t, live, retry, fun cancel rand => ?_⟩
  rw [World.step, reachable.timersOk.fire_retry live retry cancel rand]
  exact ⟨nextTry_mState _, nextTry_attempts _⟩

/-- A failed first attempt: the controller waits, and its retry timer calls `mFunc` again. -/
theorem retry_after_first_failure :
    let w : World Nat := (retry 0 0 60000 1000 : World Nat).run
      [.settle 0 (.rejected timeoutError) 0]
    Reachable w ∧ w.mState = .kStateRetryWait ∧ w.mPromise = [] ∧
      ∃ t ∈ w.timers, t.callback = .retry ∧ ∀ (cancel : List (Nat × Outcome Nat)) (rand : Nat),
        (w.step (.fire t.handle cancel rand)).mState = .kStateInProgress ∧
        (w.step (.fire t.handle cancel rand)).attempts =
          w.attempts ++ [⟨w.mCurrentAttemptNo, w.mCurrentAttemptId, none, false⟩] := by
  intro w
  have reachable : Reachable w := (Reachable.retry 0 0 60000 1000).run _
  have waiting : w.mState = .kStateRetryWait := by decide
  have unsettled : w.mPromise = [] := by decide
  exact ⟨reachable, waiting, unsettled, waiting_controller_retries w reachable waiting unsettled⟩

/-- In every reachable world with an attempt timeout configured, an attempt in progress whose
output promise is unsettled has the timeout of the current generation live, and firing it,
whatever the cancel function does, leaves `kStateInProgress`: the controller waits for the
next retry or has finished. So no attempt that never answers can hold the controller. -/
theorem attempt_timeout_armed {α : Type} (w : World α) (reachable : Reachable w)
    (inProgress : w.mState = .kStateInProgress) (unsettled : w.mPromise = [])
    (timeout : w.mAttemptTimeout ≠ 0) :
    ∃ t ∈ w.timers, t.callback = .attemptTimeout w.mCurrentAttemptId ∧
      ∀ (cancel : List (Nat × Outcome α)) (rand : Nat),
        (w.step (.fire t.handle cancel rand)).mState = .kStateRetryWait ∨
        (w.step (.fire t.handle cancel rand)).mState = .kStateFinished := by
  obtain ⟨t, live, callback⟩ := reachable.timeoutArmed inProgress unsettled timeout
  have gen := reachable.generations
  have cleared : Generations ({ w with timers := [] } : World α) :=
    Generations.of_inProgress gen.increasing gen.bounded rfl inProgress
  refine ⟨t, live, callback, fun cancel rand => ?_⟩
  rw [World.step, reachable.timersOk.fire_timeout live callback cancel rand]
  exact cleared.onAttemptTimeout_leaves rfl inProgress cancel rand

/-- A first attempt with a timeout of 100 ms: its timeout is armed, and it ends the attempt. -/
theorem first_attempt_times_out :
    let w : World Nat := retry 100 0 60000 1000
    Reachable w ∧ w.mState = .kStateInProgress ∧ w.mPromise = [] ∧ w.mAttemptTimeout ≠ 0 ∧
      ∃ t ∈ w.timers, t.callback = .attemptTimeout w.mCurrentAttemptId ∧
        ∀ (cancel : List (Nat × Outcome Nat)) (rand : Nat),
          (w.step (.fire t.handle cancel rand)).mState = .kStateRetryWait ∨
          (w.step (.fire t.handle cancel rand)).mState = .kStateFinished := by
  intro w
  have reachable : Reachable w := Reachable.retry 100 0 60000 1000
  have inProgress : w.mState = .kStateInProgress := by decide
  have unsettled : w.mPromise = [] := by decide
  have timeout : w.mAttemptTimeout ≠ 0 := by decide
  exact ⟨reachable, inProgress, unsettled, timeout,
    attempt_timeout_armed w reachable inProgress unsettled timeout⟩

/-- In every reachable world a finished controller has settled its output promise, and over
every run without `reset()` it stays finished, keeps its output promise as it is, calls `mFunc`
no more and has no timer live. -/
theorem stays_finished_until_reset {α : Type} (w : World α) (reachable : Reachable w)
    (finished : w.mState = .kStateFinished) (events : List (Event α))
    (noReset : ∀ event ∈ events, event ≠ .reset) :
    w.mPromise ≠ [] ∧ (w.run events).mState = .kStateFinished ∧
      (w.run events).mPromise = w.mPromise ∧
      (w.run events).attempts.length = w.attempts.length ∧ (w.run events).timers = [] := by
  have settled := reachable.generations.finished_settled finished
  obtain ⟨state, promise, length⟩ := reachable.timersOk.finished_run settled finished noReset
  exact ⟨settled, state, promise, length,
    ((reachable.run events).timersOk.idle_quiet (.inr state)).2⟩

/-- A first attempt that succeeds, then a second `start()`, a `restart()`, an `abort()` and a
late failure: nothing moves. -/
theorem finished_after_success :
    let w : World Nat := (retry 0 0 60000 1000 : World Nat).run [.settle 0 (.resolved 7) 0]
    let events : List (Event Nat) :=
      [.start 0, .restart 0, .abort [] 0, .settle 0 (.rejected timeoutError) 0]
    Reachable w ∧ w.mState = .kStateFinished ∧ (∀ event ∈ events, event ≠ .reset) ∧
      w.mPromise ≠ [] ∧ (w.run events).mState = .kStateFinished ∧
      (w.run events).mPromise = w.mPromise ∧
      (w.run events).attempts.length = w.attempts.length ∧ (w.run events).timers = [] := by
  intro w events
  have reachable : Reachable w := (Reachable.retry 0 0 60000 1000).run _
  have finished : w.mState = .kStateFinished := by decide
  have noReset : ∀ event ∈ events, event ≠ .reset := by simp [events]
  exact ⟨reachable, finished, noReset,
    stays_finished_until_reset w reachable finished events noReset⟩

/-- The success continuation keeps its generation as an `unsigned`, the counter is a `size_t`.
Past `2^32` generations, which a controller with a budget of one attempt reaches by repeated
`start()`, failure and `reset()`, the success of the current call is taken for a stale one: a
controller with no attempt timeout then stays in `kStateInProgress` with its output promise
unsettled through every run without `abort()`. -/
theorem success_lost_past_unsigned_generations :
    ∃ w : World Nat, Reachable w ∧ w.mState = .kStateInProgress ∧ w.mPromise = [] ∧
      w.timers = [] ∧ 4294967296 ≤ w.mCurrentAttemptId ∧
      ∃ (i : Nat) (a : Attempt Nat), w.attempts[i]? = some a ∧ a.result = none ∧
        a.attempt = w.mCurrentAttemptId ∧
        ∀ events : List (Event Nat),
          (∀ event ∈ events, ∀ cancel rand, event ≠ .abort cancel rand) →
          ((w.step (.settle i (.resolved 7) 0)).run events).mState = .kStateInProgress ∧
          ((w.step (.settle i (.resolved 7) 0)).run events).mPromise = [] := by
  obtain ⟨v, reachable, state, generation, unsettled, noTimeout, -, -, quiet, settled⟩ :=
    exists_at_generation 2147483648
  obtain ⟨inProgress, stillUnsettled, noTimers, current, calls⟩ :
      (v.step (.start 0)).mState = .kStateInProgress ∧ (v.step (.start 0)).mPromise = [] ∧
      (v.step (.start 0)).timers = [] ∧
      (v.step (.start 0)).mCurrentAttemptId = v.mCurrentAttemptId + 1 ∧
      (v.step (.start 0)).attempts = v.attempts ++ [⟨1, v.mCurrentAttemptId + 1, none, false⟩] := by
    simp [World.step, World.start, World.startBody, World.nextTry, state, noTimeout, unsettled,
      quiet.2, orUnchanged]
  have found : (v.step (.start 0)).attempts[v.attempts.length]? =
      some ⟨1, v.mCurrentAttemptId + 1, none, false⟩ := by rw [calls]; simp
  refine ⟨_, reachable.step (.start 0), inProgress, stillUnsettled, noTimers, by omega, _, _,
    found, rfl, current.symm, fun events notAbort => ?_⟩
  have ignored : (v.step (.start 0)).step (.settle v.attempts.length (.resolved 7) 0) =
      (v.step (.start 0)).recordResult v.attempts.length ⟨1, v.mCurrentAttemptId + 1, none, false⟩
        (.resolved 7) :=
    settleAttempt_success_past_unsigned found rfl current.symm (by omega) 7 0
  rw [ignored]
  have stuck : ((v.step (.start 0)).recordResult v.attempts.length
      ⟨1, v.mCurrentAttemptId + 1, none, false⟩ (.resolved 7)).Stuck := by
    refine ⟨inProgress, stillUnsettled, noTimers, fun b member => ?_⟩
    simp only [recordResult_attempts, calls, List.set_append_right _ _ (Nat.le_refl _),
      Nat.sub_self, List.set_cons_zero, List.mem_append, List.mem_singleton] at member
    rcases member with old | rfl
    · exact settled b old
    · simp
  exact ⟨(stuck.run notAbort).inProgress, (stuck.run notAbort).unsettled⟩

end MegaChat.Retry
