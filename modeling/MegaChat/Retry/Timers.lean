import MegaChat.Retry.Controller

/-!
# The controller's timers

`TimersOk` is what retryHandler.h asserts about its timers (`assert(mTimer == 0)` in `start`,
`nextTry` and `schedNextRetry`, and `assert(attempt == mCurrentAttemptId)` in the attempt
timeout): at most one timer is live and it is `mTimer`; an attempt timeout is for the current
generation; and no timer is live before `start` or after the controller finished.
Every member function keeps it, from worlds in which it is called, and so it holds of every
reachable world: a timeout never fires for a superseded attempt.
-/

namespace MegaChat.Retry.World

variable {α : Type} (w : World α)

/-- No timer is live and `mTimer` is `0`. -/
def Quiet : Prop := w.mTimer = 0 ∧ w.timers = []

/-- The controller's timers are as its assertions assume. -/
structure TimersOk : Prop where
  quiet_or_armed : w.Quiet ∨ ∃ t, w.timers = [t] ∧ t.handle = w.mTimer ∧ w.mTimer ≠ 0
  timeout_current : ∀ t ∈ w.timers, ∀ attempt,
    t.callback = .attemptTimeout attempt → attempt = w.mCurrentAttemptId
  idle_quiet : w.mState = .kStateNotStarted ∨ w.mState = .kStateFinished → w.Quiet

section Frame

@[simp] theorem cancelTimer_mState : w.cancelTimer.mState = w.mState := by
  unfold cancelTimer; split <;> rfl
@[simp] theorem cancelTimer_mCurrentAttemptId :
    w.cancelTimer.mCurrentAttemptId = w.mCurrentAttemptId := by
  unfold cancelTimer; split <;> rfl
@[simp] theorem cancelTimer_mPromise : w.cancelTimer.mPromise = w.mPromise := by
  unfold cancelTimer; split <;> rfl
@[simp] theorem cancelTimer_done : w.cancelTimer.done = w.done := by
  simp [done]

@[simp] theorem recordResult_mState (index : Nat) (a : Attempt α) (outcome : Outcome α) :
    (w.recordResult index a outcome).mState = w.mState := rfl
@[simp] theorem recordResult_mCurrentAttemptId (index : Nat) (a : Attempt α)
    (outcome : Outcome α) :
    (w.recordResult index a outcome).mCurrentAttemptId = w.mCurrentAttemptId := rfl
@[simp] theorem recordResult_mTimer (index : Nat) (a : Attempt α) (outcome : Outcome α) :
    (w.recordResult index a outcome).mTimer = w.mTimer := rfl
@[simp] theorem recordResult_timers (index : Nat) (a : Attempt α) (outcome : Outcome α) :
    (w.recordResult index a outcome).timers = w.timers := rfl
@[simp] theorem recordResult_mPromise (index : Nat) (a : Attempt α) (outcome : Outcome α) :
    (w.recordResult index a outcome).mPromise = w.mPromise := rfl

@[simp] theorem runContinuation_resolved (a : Attempt α) (rand : Nat) (ret : α) :
    w.runContinuation a rand (.resolved ret) = w.onAttemptSuccess (a.attempt % 4294967296) ret :=
  rfl
@[simp] theorem runContinuation_rejected (a : Attempt α) (rand : Nat) (err : Error) :
    w.runContinuation a rand (.rejected err) = w.onAttemptFailure a.attempt err rand := rfl

@[simp] theorem armTimer_mState (callback : Callback) (delay : Nat) :
    (w.armTimer callback delay).mState = w.mState := rfl
@[simp] theorem armTimer_mCurrentAttemptId (callback : Callback) (delay : Nat) :
    (w.armTimer callback delay).mCurrentAttemptId = w.mCurrentAttemptId := rfl
@[simp] theorem armTimer_timers (callback : Callback) (delay : Nat) :
    (w.armTimer callback delay).timers = w.timers ++ [⟨w.lastHandle + 1, delay, callback⟩] := rfl
@[simp] theorem armTimer_mTimer (callback : Callback) (delay : Nat) :
    (w.armTimer callback delay).mTimer = w.lastHandle + 1 := rfl

end Frame

section Spec

variable (callback : Callback) (delay : Nat)

@[simp] theorem armTimer_mCurrentAttemptNo :
    (w.armTimer callback delay).mCurrentAttemptNo = w.mCurrentAttemptNo := rfl
@[simp] theorem armTimer_mMaxAttemptCount :
    (w.armTimer callback delay).mMaxAttemptCount = w.mMaxAttemptCount := rfl
@[simp] theorem armTimer_mPromise : (w.armTimer callback delay).mPromise = w.mPromise := rfl
@[simp] theorem armTimer_mRestart : (w.armTimer callback delay).mRestart = w.mRestart := rfl
@[simp] theorem armTimer_attempts : (w.armTimer callback delay).attempts = w.attempts := rfl

variable (index : Nat) (a : Attempt α) (outcome : Outcome α)

@[simp] theorem recordResult_attempts :
    (w.recordResult index a outcome).attempts = w.attempts.set index { a with result := outcome } :=
  rfl
@[simp] theorem recordResult_mCurrentAttemptNo :
    (w.recordResult index a outcome).mCurrentAttemptNo = w.mCurrentAttemptNo := rfl
@[simp] theorem recordResult_mMaxAttemptCount :
    (w.recordResult index a outcome).mMaxAttemptCount = w.mMaxAttemptCount := rfl
@[simp] theorem recordResult_mRestart :
    (w.recordResult index a outcome).mRestart = w.mRestart := rfl

@[simp] theorem cancelTimer_attempts : w.cancelTimer.attempts = w.attempts := by
  unfold cancelTimer; split <;> rfl
@[simp] theorem cancelTimer_mCurrentAttemptNo :
    w.cancelTimer.mCurrentAttemptNo = w.mCurrentAttemptNo := by
  unfold cancelTimer; split <;> rfl
@[simp] theorem cancelTimer_mMaxAttemptCount :
    w.cancelTimer.mMaxAttemptCount = w.mMaxAttemptCount := by
  unfold cancelTimer; split <;> rfl
@[simp] theorem cancelTimer_mRestart : w.cancelTimer.mRestart = w.mRestart := by
  unfold cancelTimer; split <;> rfl
@[simp] theorem cancelTimer_lastHandle : w.cancelTimer.lastHandle = w.lastHandle := by
  unfold cancelTimer; split <;> rfl
@[simp] theorem cancelTimer_mInitialWaitTime :
    w.cancelTimer.mInitialWaitTime = w.mInitialWaitTime := by
  unfold cancelTimer; split <;> rfl
@[simp] theorem cancelTimer_mMaxSingleWaitTime :
    w.cancelTimer.mMaxSingleWaitTime = w.mMaxSingleWaitTime := by
  unfold cancelTimer; split <;> rfl
@[simp] theorem cancelTimer_mDelayRandPct : w.cancelTimer.mDelayRandPct = w.mDelayRandPct := by
  unfold cancelTimer; split <;> rfl

@[simp] theorem nextTry_attempts :
    w.nextTry.attempts =
      w.attempts ++ [⟨w.mCurrentAttemptNo, w.mCurrentAttemptId, none, false⟩] := by
  unfold nextTry; split <;> rfl
@[simp] theorem nextTry_mState : w.nextTry.mState = .kStateInProgress := by
  unfold nextTry; split <;> rfl
@[simp] theorem nextTry_mCurrentAttemptNo : w.nextTry.mCurrentAttemptNo = w.mCurrentAttemptNo := by
  unfold nextTry; split <;> rfl
@[simp] theorem nextTry_mMaxAttemptCount : w.nextTry.mMaxAttemptCount = w.mMaxAttemptCount := by
  unfold nextTry; split <;> rfl
@[simp] theorem nextTry_mPromise : w.nextTry.mPromise = w.mPromise := by
  unfold nextTry; split <;> rfl
@[simp] theorem nextTry_mRestart : w.nextTry.mRestart = w.mRestart := by
  unfold nextTry; split <;> rfl

/-- `nextTry` arms at most the timeout of the current generation. -/
theorem nextTry_timers : ∀ t ∈ w.nextTry.timers,
    t ∈ w.timers ∨ t.callback = .attemptTimeout w.mCurrentAttemptId := by
  unfold nextTry
  split
  · simp only [armTimer_timers, List.mem_append, List.mem_singleton]
    rintro t (old | rfl)
    · exact .inl old
    · exact .inr rfl
  · exact fun t old => .inl old

end Spec

theorem Quiet.cancelTimer {w : World α} (quiet : w.Quiet) : w.cancelTimer = w := by
  simp [World.cancelTimer, quiet.1]

theorem Quiet.recordResult {w : World α} (quiet : w.Quiet) (index : Nat) (a : Attempt α)
    (outcome : Outcome α) : (w.recordResult index a outcome).Quiet := quiet

theorem TimersOk.cancelTimer_quiet {w : World α} (ok : w.TimersOk) : w.cancelTimer.Quiet := by
  rcases ok.quiet_or_armed with quiet | ⟨t, live, handle, armed⟩
  · rwa [quiet.cancelTimer]
  · simp [World.cancelTimer, Quiet, armed, live, handle]

/-- A quiet world keeps `TimersOk` whatever its state. -/
theorem Quiet.timersOk {w : World α} (quiet : w.Quiet) : w.TimersOk where
  quiet_or_armed := .inl quiet
  timeout_current := by simp [quiet.2]
  idle_quiet := fun _ => quiet

/-- One live timer, which is `mTimer`, in a running world. -/
theorem timersOk_of_single {w : World α} (t : Timer) (live : w.timers = [t])
    (handle : t.handle = w.mTimer) (armed : w.mTimer ≠ 0)
    (current : ∀ attempt, t.callback = .attemptTimeout attempt → attempt = w.mCurrentAttemptId)
    (running : w.mState = .kStateInProgress ∨ w.mState = .kStateRetryWait) : w.TimersOk where
  quiet_or_armed := .inr ⟨t, live, handle, armed⟩
  timeout_current := by simpa [live] using current
  idle_quiet := by rcases running with running | running <;> simp [running]

theorem Quiet.armTimer_timersOk {w : World α} (quiet : w.Quiet)
    (running : w.mState = .kStateInProgress ∨ w.mState = .kStateRetryWait)
    (callback : Callback) (delay : Nat)
    (current : ∀ attempt, callback = .attemptTimeout attempt → attempt = w.mCurrentAttemptId) :
    (w.armTimer callback delay).TimersOk :=
  timersOk_of_single ⟨w.lastHandle + 1, delay, callback⟩ (by simp [quiet.2]) rfl (by simp)
    current running

theorem Quiet.nextTry_timersOk {w : World α} (quiet : w.Quiet) : w.nextTry.TimersOk := by
  unfold nextTry
  split
  · exact timersOk_of_single ⟨w.lastHandle + 1, w.mAttemptTimeout.toNat,
      .attemptTimeout w.mCurrentAttemptId⟩ (by simp [quiet.2]) rfl (by simp)
      (fun _ same => by cases same; rfl) (.inl rfl)
  · exact Quiet.timersOk ⟨quiet.1, quiet.2⟩

theorem Quiet.startBody_timersOk {w : World α} (quiet : w.Quiet) (delay : BitVec 32) :
    (w.startBody delay).TimersOk := by
  unfold startBody
  split
  · apply Quiet.armTimer_timersOk
    · exact ⟨quiet.1, quiet.2⟩
    · exact .inr rfl
    · intro _ never; cases never
  · exact Quiet.nextTry_timersOk ⟨quiet.1, quiet.2⟩

theorem Quiet.schedNextRetry_timersOk {w : World α} (quiet : w.Quiet) (err : Error)
    (rand : Nat) : (w.schedNextRetry err rand).TimersOk := by
  unfold schedNextRetry
  split
  · apply Quiet.startBody_timersOk
    exact ⟨quiet.1, quiet.2⟩
  · dsimp only
    split
    · exact Quiet.timersOk ⟨quiet.1, quiet.2⟩
    · apply Quiet.armTimer_timersOk
      · exact ⟨quiet.1, quiet.2⟩
      · exact .inr rfl
      · intro _ never; cases never

/-- `TimersOk` reads only the timers, the generation and the state. -/
theorem TimersOk.of_eq {w w' : World α} (ok : w.TimersOk) (timer : w'.mTimer = w.mTimer)
    (timers : w'.timers = w.timers) (id : w'.mCurrentAttemptId = w.mCurrentAttemptId)
    (state : w'.mState = w.mState) : w'.TimersOk where
  quiet_or_armed := by simpa [Quiet, timer, timers] using ok.quiet_or_armed
  timeout_current := by simpa [timers, id] using ok.timeout_current
  idle_quiet := by simpa [Quiet, timer, timers, state] using ok.idle_quiet

theorem TimersOk.onAttemptSuccess {w : World α} (ok : w.TimersOk) (attempt : Nat) (ret : α) :
    (w.onAttemptSuccess attempt ret).TimersOk := by
  unfold World.onAttemptSuccess
  split
  · exact ok
  · exact Quiet.timersOk ⟨ok.cancelTimer_quiet.1, ok.cancelTimer_quiet.2⟩

theorem TimersOk.onAttemptFailure {w : World α} (ok : w.TimersOk) (attempt : Nat) (err : Error)
    (rand : Nat) : (w.onAttemptFailure attempt err rand).TimersOk := by
  unfold World.onAttemptFailure
  split
  · exact ok
  · exact ok.cancelTimer_quiet.schedNextRetry_timersOk err rand

theorem TimersOk.runContinuation {w : World α} (ok : w.TimersOk) (a : Attempt α) (rand : Nat)
    (outcome : Outcome α) : (w.runContinuation a rand outcome).TimersOk := by
  cases outcome with
  | resolved ret => exact ok.onAttemptSuccess _ ret
  | rejected err => exact ok.onAttemptFailure _ err rand

theorem TimersOk.settleAttempt {w : World α} (ok : w.TimersOk) (index : Nat)
    (outcome : Outcome α) (rand : Nat) : (w.settleAttempt index outcome rand).TimersOk := by
  unfold World.settleAttempt
  split
  · split
    · exact (ok.of_eq rfl rfl rfl rfl : (w.recordResult index _ outcome).TimersOk).runContinuation
        _ rand outcome
    · exact ok
  · exact ok

theorem TimersOk.callCancelFunc {w : World α} (ok : w.TimersOk)
    (cancel : List (Nat × Outcome α)) (rand : Nat) : (w.callCancelFunc cancel rand).TimersOk := by
  induction cancel generalizing w with
  | nil => exact ok
  | cons effect rest inductionHypothesis =>
      exact inductionHypothesis (ok.settleAttempt effect.1 effect.2 rand)

section Generation

variable (err : Error) (rand : Nat)

@[simp]
theorem nextTry_mCurrentAttemptId : w.nextTry.mCurrentAttemptId = w.mCurrentAttemptId := by
  unfold nextTry; split <;> rfl

@[simp]
theorem startBody_mCurrentAttemptId (delay : BitVec 32) :
    (w.startBody delay).mCurrentAttemptId = w.mCurrentAttemptId + 1 := by
  unfold startBody; split <;> simp

@[simp]
theorem schedNextRetry_mCurrentAttemptId :
    (w.schedNextRetry err rand).mCurrentAttemptId = w.mCurrentAttemptId + 1 := by
  unfold schedNextRetry
  split
  · simp
  · dsimp only; split <;> simp

@[simp]
theorem onAttemptSuccess_mCurrentAttemptId (attempt : Nat) (ret : α) :
    (w.onAttemptSuccess attempt ret).mCurrentAttemptId = w.mCurrentAttemptId := by
  unfold onAttemptSuccess; split <;> simp

theorem mCurrentAttemptId_le_onAttemptFailure (attempt : Nat) :
    w.mCurrentAttemptId ≤ (w.onAttemptFailure attempt err rand).mCurrentAttemptId := by
  unfold onAttemptFailure; split <;> simp

theorem mCurrentAttemptId_le_runContinuation (a : Attempt α) (outcome : Outcome α) :
    w.mCurrentAttemptId ≤ (w.runContinuation a rand outcome).mCurrentAttemptId := by
  cases outcome with
  | resolved ret => simp
  | rejected err => exact mCurrentAttemptId_le_onAttemptFailure _ err rand _

theorem mCurrentAttemptId_le_settleAttempt (index : Nat) (outcome : Outcome α) :
    w.mCurrentAttemptId ≤ (w.settleAttempt index outcome rand).mCurrentAttemptId := by
  unfold settleAttempt
  split
  · split
    · exact mCurrentAttemptId_le_runContinuation (w.recordResult index _ outcome) rand _ outcome
    · exact Nat.le_refl _
  · exact Nat.le_refl _

theorem mCurrentAttemptId_le_callCancelFunc (cancel : List (Nat × Outcome α)) :
    w.mCurrentAttemptId ≤ (w.callCancelFunc cancel rand).mCurrentAttemptId := by
  induction cancel generalizing w with
  | nil => exact Nat.le_refl _
  | cons effect rest inductionHypothesis =>
      exact Nat.le_trans (mCurrentAttemptId_le_settleAttempt _ rand _ _) (inductionHypothesis _)

end Generation

theorem Quiet.onAttemptSuccess {w : World α} (quiet : w.Quiet) (attempt : Nat) (ret : α) :
    (w.onAttemptSuccess attempt ret).Quiet := by
  unfold World.onAttemptSuccess
  split
  · exact quiet
  · dsimp only; rw [quiet.cancelTimer]; exact quiet

/-- From a quiet world, a continuation leaves the world quiet unless it moved the generation
on. -/
theorem Quiet.runContinuation {w : World α} (quiet : w.Quiet) (a : Attempt α) (rand : Nat)
    (outcome : Outcome α) : (w.runContinuation a rand outcome).Quiet ∨
      w.mCurrentAttemptId < (w.runContinuation a rand outcome).mCurrentAttemptId := by
  cases outcome with
  | resolved ret => exact .inl (quiet.onAttemptSuccess _ ret)
  | rejected err =>
      rw [runContinuation_rejected]
      unfold World.onAttemptFailure
      split
      · exact .inl quiet
      · exact .inr (by simp)

theorem Quiet.settleAttempt {w : World α} (quiet : w.Quiet) (index : Nat) (outcome : Outcome α)
    (rand : Nat) : (w.settleAttempt index outcome rand).Quiet ∨
      w.mCurrentAttemptId < (w.settleAttempt index outcome rand).mCurrentAttemptId := by
  unfold World.settleAttempt
  split
  · split
    · exact (quiet.recordResult index _ outcome).runContinuation _ rand outcome
    · exact .inl quiet
  · exact .inl quiet

/-- What every settlement keeps, unless it moves the generation on, the cancel function keeps,
unless it moves the generation on. -/
theorem callCancelFunc_keeps (P : World α → Prop) (rand : Nat) {cancel : List (Nat × Outcome α)}
    (keeps : ∀ w : World α, P w → ∀ effect ∈ cancel, P (w.settleAttempt effect.1 effect.2 rand) ∨
      w.mCurrentAttemptId < (w.settleAttempt effect.1 effect.2 rand).mCurrentAttemptId)
    {w : World α} (holds : P w) : P (w.callCancelFunc cancel rand) ∨
      w.mCurrentAttemptId < (w.callCancelFunc cancel rand).mCurrentAttemptId := by
  induction cancel generalizing w with
  | nil => exact .inl holds
  | cons effect rest inductionHypothesis =>
      show P ((w.settleAttempt effect.1 effect.2 rand).callCancelFunc rest rand) ∨ _
      have restKeeps := fun v held e member => keeps v held e (List.mem_cons_of_mem effect member)
      rcases keeps w holds effect (List.mem_cons_self _ _) with settled | moved
      · exact (inductionHypothesis restKeeps settled).imp_right
          (Nat.lt_of_le_of_lt (mCurrentAttemptId_le_settleAttempt _ rand _ _))
      · exact .inr (Nat.lt_of_lt_of_le moved (mCurrentAttemptId_le_callCancelFunc _ rand _))

/-- A failure only records itself, or moves the generation on. -/
theorem settleAttempt_failure_cases (w : World α) (index : Nat) (err : Error) (rand : Nat) :
    (∃ attempts, w.settleAttempt index (.rejected err) rand = { w with attempts := attempts }) ∨
      w.mCurrentAttemptId < (w.settleAttempt index (.rejected err) rand).mCurrentAttemptId := by
  unfold settleAttempt
  split
  · split
    · rw [runContinuation_rejected]
      unfold onAttemptFailure
      split
      · exact .inl ⟨_, rfl⟩
      · exact .inr (by simp)
    · exact .inl ⟨w.attempts, rfl⟩
  · exact .inl ⟨w.attempts, rfl⟩

/-- What no attempt record affects, a cancel function that only fails attempts keeps, unless
it moves the generation on. -/
theorem callCancelFunc_failing_keeps (P : World α → Prop)
    (keeps : ∀ (v : World α) attempts, P v → P { v with attempts := attempts })
    {cancel : List (Nat × Outcome α)} (failing : ∀ effect ∈ cancel, ∃ err, effect.2 = .rejected err)
    (rand : Nat) {w : World α} (holds : P w) : P (w.callCancelFunc cancel rand) ∨
      w.mCurrentAttemptId < (w.callCancelFunc cancel rand).mCurrentAttemptId := by
  refine callCancelFunc_keeps P rand (fun v held effect member => ?_) holds
  obtain ⟨err, rejected⟩ := failing effect member
  rw [rejected]
  rcases settleAttempt_failure_cases v effect.1 err rand with ⟨attempts, recorded⟩ | moved
  · exact .inl (recorded ▸ keeps v attempts held)
  · exact .inr moved

theorem Quiet.callCancelFunc {w : World α} (quiet : w.Quiet) (cancel : List (Nat × Outcome α))
    (rand : Nat) : (w.callCancelFunc cancel rand).Quiet ∨
      w.mCurrentAttemptId < (w.callCancelFunc cancel rand).mCurrentAttemptId :=
  callCancelFunc_keeps Quiet rand
    (fun _ quiet effect _ => quiet.settleAttempt effect.1 effect.2 rand) quiet

theorem onAttemptTimeout_timersOk {w : World α} (noTimers : w.timers = [])
    (cancel : List (Nat × Outcome α)) (rand : Nat) : (w.onAttemptTimeout cancel rand).TimersOk := by
  have quiet : Quiet { w with mTimer := 0 } := ⟨rfl, noTimers⟩
  unfold onAttemptTimeout
  dsimp only
  split
  · exact quiet.timersOk.callCancelFunc cancel rand
  · rename_i same
    rcases quiet.callCancelFunc cancel rand with stillQuiet | moved
    · exact stillQuiet.schedNextRetry_timersOk timeoutError rand
    · dsimp only at same moved
      omega

/-- The timer that fires is the only live one. -/
theorem TimersOk.fired {w : World α} (ok : w.TimersOk) {handle : Nat} {t : Timer}
    (found : w.timers.find? (fun t => t.handle == handle) = some t) :
    t ∈ w.timers ∧ w.timers.filter (fun t => t.handle != handle) = [] := by
  have member := List.mem_of_find?_eq_some found
  have hits : t.handle = handle := by simpa using List.find?_some found
  refine ⟨member, ?_⟩
  rcases ok.quiet_or_armed with quiet | ⟨only, live, _, _⟩
  · simp [quiet.2] at member
  · rw [live] at member ⊢
    obtain rfl := List.mem_singleton.mp member
    simp [hits]

theorem TimersOk.fire {w : World α} (ok : w.TimersOk) (handle : Nat)
    (cancel : List (Nat × Outcome α)) (rand : Nat) : (w.fire handle cancel rand).TimersOk := by
  unfold World.fire
  split
  · exact ok
  · rename_i t found
    have emptied := (ok.fired found).2
    dsimp only
    split
    · exact Quiet.nextTry_timersOk ⟨rfl, emptied⟩
    · exact (onAttemptTimeout_timersOk emptied cancel rand).of_eq rfl rfl rfl rfl

theorem TimersOk.abort {w : World α} (ok : w.TimersOk) (cancel : List (Nat × Outcome α))
    (rand : Nat) : (w.abort cancel rand).1.TimersOk := by
  unfold World.abort
  split
  · exact ok
  · dsimp only
    have cancelled := ok.cancelTimer_quiet.timersOk
    split
    · exact (cancelled.callCancelFunc cancel rand).of_eq rfl rfl rfl rfl
    · exact cancelled.of_eq rfl rfl rfl rfl

theorem TimersOk.start {w : World α} (ok : w.TimersOk) (delay : BitVec 32) :
    (w.orUnchanged (w.start delay)).TimersOk := by
  unfold World.start
  split
  · exact ok
  · rename_i notStarted
    exact (ok.idle_quiet (.inl (by simpa using notStarted))).startBody_timersOk delay

theorem TimersOk.restart {w : World α} (ok : w.TimersOk) (delay : BitVec 32) :
    (w.orUnchanged (w.restart delay)).TimersOk := by
  unfold World.restart
  split
  · exact ok
  · split
    · exact ok.of_eq rfl rfl rfl rfl
    · simp only [World.start, ne_eq, not_true_eq_false, if_false, orUnchanged]
      apply Quiet.startBody_timersOk
      exact ⟨ok.cancelTimer_quiet.1, ok.cancelTimer_quiet.2⟩

theorem TimersOk.reset {w : World α} (ok : w.TimersOk) : (w.orUnchanged w.reset).TimersOk := by
  unfold World.reset
  split
  · exact ok
  · split
    · exact ok
    · rename_i finished
      have quiet := ok.idle_quiet (.inr (by simpa using finished))
      exact Quiet.timersOk ⟨quiet.1, quiet.2⟩

theorem TimersOk.step {w : World α} (ok : w.TimersOk) (event : Event α) :
    (w.step event).TimersOk := by
  cases event with
  | start delay => exact ok.start delay
  | restart delay => exact ok.restart delay
  | abort cancel rand => exact ok.abort cancel rand
  | reset => exact ok.reset
  | setWaitRandomnessPct pct => exact ok.of_eq rfl rfl rfl rfl
  | fire handle cancel rand => exact ok.fire handle cancel rand
  | settle index outcome rand => exact ok.settleAttempt index outcome rand

theorem TimersOk.run {w : World α} (ok : w.TimersOk) (events : List (Event α)) :
    (w.run events).TimersOk := by
  induction events generalizing w with
  | nil => exact ok
  | cons event rest inductionHypothesis => exact inductionHypothesis (ok.step event)

theorem init_timersOk (attemptTimeout maxSingleWaitTime : BitVec 32) (maxAttemptCount : Nat)
    (backoffStart : BitVec 16) :
    (init attemptTimeout maxSingleWaitTime maxAttemptCount backoffStart : World α).TimersOk :=
  Quiet.timersOk ⟨rfl, rfl⟩

/-- A promise whose continuation captured another generation than the current one, or that
settles once the output promise is done, changes nothing but its own record. -/
theorem settleAttempt_stale {index : Nat} {a : Attempt α} (found : w.attempts[index]? = some a)
    (outcome : Outcome α) (rand : Nat) (stale : a.captured outcome ≠ w.mCurrentAttemptId ∨ w.done) :
    w.settleAttempt index outcome rand = w ∨
      w.settleAttempt index outcome rand = w.recordResult index a outcome := by
  unfold settleAttempt
  rw [found]
  dsimp only
  split
  · right
    cases outcome with
    | resolved ret => exact if_pos stale
    | rejected err => exact if_pos stale
  · exact .inl rfl

end MegaChat.Retry.World

namespace MegaChat.Retry

open World

theorem Reachable.timersOk {α : Type} {w : World α} (reachable : Reachable w) : w.TimersOk := by
  induction reachable with
  | init => exact init_timersOk _ _ _ _
  | step event _ inductionHypothesis => exact inductionHypothesis.step event

/-- Stale callbacks are ignored and no attempt timeout outlives its generation. Whenever the
promise of an attempt settles and its continuation captured a generation other than
`mCurrentAttemptId`, or the output promise is already settled, the controller's state, attempt
number, generation, timers and output promise stay as they were; and in every reachable world
each live attempt timeout is for the current generation, so `assert(attempt ==
mCurrentAttemptId)` holds whenever one fires. -/
theorem stale_callbacks_ignored {α : Type} :
    (∀ (w : World α) (index : Nat) (a : Attempt α) (outcome : Outcome α) (rand : Nat),
      w.attempts[index]? = some a → (a.captured outcome ≠ w.mCurrentAttemptId ∨ w.done) →
      (w.settleAttempt index outcome rand).mState = w.mState ∧
      (w.settleAttempt index outcome rand).mCurrentAttemptNo = w.mCurrentAttemptNo ∧
      (w.settleAttempt index outcome rand).mCurrentAttemptId = w.mCurrentAttemptId ∧
      (w.settleAttempt index outcome rand).mTimer = w.mTimer ∧
      (w.settleAttempt index outcome rand).timers = w.timers ∧
      (w.settleAttempt index outcome rand).mPromise = w.mPromise) ∧
    (∀ w : World α, Reachable w → ∀ t ∈ w.timers, ∀ attempt,
      t.callback = .attemptTimeout attempt → attempt = w.mCurrentAttemptId) := by
  refine ⟨fun w index a outcome rand found stale => ?_,
    fun w reachable => reachable.timersOk.timeout_current⟩
  rcases settleAttempt_stale w found outcome rand stale with same | same <;>
    rw [same] <;> exact ⟨rfl, rfl, rfl, rfl, rfl, rfl⟩

end MegaChat.Retry
