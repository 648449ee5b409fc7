import MegaChat.Retry.Timers

/-!
# The lifecycle and the output promise

`Lifecycle` is the agreement between the controller's state and its output promise: the
promise is unsettled before the controller finishes and settled exactly once after. Every
continuation checks `mPromise.done()` before it settles the promise or moves the state, so
the agreement holds in every run in which `abort()` is never called and the cancel function,
when the attempt timeout calls it, only fails attempts; and once finished, nothing but
`reset()` calls `mFunc` again or changes the state.

The two exceptions are real: `abort()` rejects the promise and leaves the state running, and
the attempt-timeout lambda, after a cancel function that made the attempt succeed, goes on to
`schedNextRetry` because it checks only the generation.
-/

namespace MegaChat.Retry

variable {α : Type}

/-- The events of a run in which `abort()` is never called and the cancel function only fails
attempts. -/
def Event.Orderly : Event α → Prop
  | .abort _ _ => False
  | .fire _ cancel _ => ∀ effect ∈ cancel, ∃ err, effect.2 = .rejected err
  | _ => True

namespace World

/-- The state and the output promise agree: settled exactly once in `kStateFinished`,
unsettled in every other state. -/
def Lifecycle (w : World α) : Prop :=
  match w.mState with
  | .kStateFinished => w.mPromise.length = 1
  | _ => w.mPromise = []

variable {w : World α}

theorem Lifecycle.of_unsettled (running : w.mState ≠ .kStateFinished) (empty : w.mPromise = []) :
    w.Lifecycle := by
  unfold Lifecycle
  split
  · exact absurd ‹_› running
  · exact empty

theorem Lifecycle.of_finished (finished : w.mState = .kStateFinished)
    (once : w.mPromise.length = 1) : w.Lifecycle := by
  unfold Lifecycle
  rw [finished]
  exact once

theorem Lifecycle.of_eq {w' : World α} (lifecycle : w.Lifecycle) (state : w'.mState = w.mState)
    (promise : w'.mPromise = w.mPromise) : w'.Lifecycle := by
  unfold Lifecycle at lifecycle ⊢
  rw [state, promise]
  exact lifecycle

/-- Outside `kStateFinished` the promise is unsettled. -/
theorem Lifecycle.unsettled (lifecycle : w.Lifecycle) (running : w.mState ≠ .kStateFinished) :
    w.mPromise = [] := by
  unfold Lifecycle at lifecycle
  split at lifecycle
  · exact absurd ‹_› running
  · exact lifecycle

/-- A live timer means the controller runs, so the promise is unsettled. -/
theorem Lifecycle.unsettled_of_live (lifecycle : w.Lifecycle) (ok : w.TimersOk) {t : Timer}
    (live : t ∈ w.timers) : w.mPromise = [] :=
  lifecycle.unsettled fun finished => by simp [(ok.idle_quiet (.inr finished)).2] at live

theorem startBody_running (delay : BitVec 32) : (w.startBody delay).mState ≠ .kStateFinished := by
  unfold startBody
  split
  · simp
  · simp

@[simp] theorem startBody_mPromise (delay : BitVec 32) :
    (w.startBody delay).mPromise = w.mPromise := by
  unfold startBody
  split
  · rfl
  · simp

theorem schedNextRetry_lifecycle (empty : w.mPromise = []) (err : Error) (rand : Nat) :
    (w.schedNextRetry err rand).Lifecycle := by
  unfold schedNextRetry
  split
  · exact .of_unsettled (startBody_running _) (by simpa using empty)
  · dsimp only
    split
    · exact .of_finished rfl (by simp [empty])
    · exact .of_unsettled (by simp) (by simpa using empty)

theorem Lifecycle.onAttemptSuccess (lifecycle : w.Lifecycle) (attempt : Nat) (ret : α) :
    (w.onAttemptSuccess attempt ret).Lifecycle := by
  unfold World.onAttemptSuccess
  split
  · exact lifecycle
  · rename_i fresh
    have empty : w.mPromise = [] := by simpa [done] using (not_or.mp fresh).2
    exact .of_finished rfl (by simp [empty])

theorem Lifecycle.onAttemptFailure (lifecycle : w.Lifecycle) (attempt : Nat) (err : Error)
    (rand : Nat) : (w.onAttemptFailure attempt err rand).Lifecycle := by
  unfold World.onAttemptFailure
  split
  · exact lifecycle
  · rename_i fresh
    exact schedNextRetry_lifecycle (by simpa [done] using (not_or.mp fresh).2) err rand

theorem Lifecycle.settleAttempt (lifecycle : w.Lifecycle) (index : Nat) (outcome : Outcome α)
    (rand : Nat) : (w.settleAttempt index outcome rand).Lifecycle := by
  unfold World.settleAttempt
  split
  · split
    · rename_i a _ _
      have recorded : (w.recordResult index a outcome).Lifecycle := lifecycle.of_eq rfl rfl
      cases outcome with
      | resolved ret => exact recorded.onAttemptSuccess _ ret
      | rejected err => exact recorded.onAttemptFailure _ err rand
    · exact lifecycle
  · exact lifecycle

theorem Lifecycle.callCancelFunc (lifecycle : w.Lifecycle) (cancel : List (Nat × Outcome α))
    (rand : Nat) : (w.callCancelFunc cancel rand).Lifecycle := by
  induction cancel generalizing w with
  | nil => exact lifecycle
  | cons effect rest inductionHypothesis =>
      exact inductionHypothesis (lifecycle.settleAttempt effect.1 effect.2 rand)

/-- A cancel function that only fails attempts leaves an unsettled promise unsettled, unless
it moves the generation on. -/
theorem callCancelFunc_unsettled (empty : w.mPromise = []) {cancel : List (Nat × Outcome α)}
    (failing : ∀ effect ∈ cancel, ∃ err, effect.2 = .rejected err) (rand : Nat) :
    (w.callCancelFunc cancel rand).mPromise = [] ∨
      w.mCurrentAttemptId < (w.callCancelFunc cancel rand).mCurrentAttemptId :=
  callCancelFunc_failing_keeps (fun v => v.mPromise = []) (fun _ _ held => held) failing rand empty

theorem Lifecycle.fire (lifecycle : w.Lifecycle) (ok : w.TimersOk) (handle : Nat)
    {cancel : List (Nat × Outcome α)} (failing : ∀ effect ∈ cancel, ∃ err, effect.2 = .rejected err)
    (rand : Nat) : (w.fire handle cancel rand).Lifecycle := by
  unfold World.fire
  split
  · exact lifecycle
  · rename_i t found
    have empty := lifecycle.unsettled_of_live ok (ok.fired found).1
    dsimp only
    split
    · exact .of_unsettled (by simp [onRetryTimer]) (by simpa [onRetryTimer] using empty)
    · unfold onAttemptTimeout markTimedOut
      dsimp only
      let cleared : World α :=
        { w with timers := w.timers.filter (fun t => t.handle != handle), mTimer := 0 }
      have cancelled := (lifecycle.of_eq rfl rfl : cleared.Lifecycle).callCancelFunc cancel rand
      split
      · exact cancelled.of_eq rfl rfl
      · rename_i same
        rcases callCancelFunc_unsettled (show cleared.mPromise = [] from empty) failing
          rand with stillEmpty | moved
        · exact (schedNextRetry_lifecycle stillEmpty timeoutError rand).of_eq rfl rfl
        · exact absurd (by simpa using same) (Nat.ne_of_lt moved)

theorem Lifecycle.start (lifecycle : w.Lifecycle) (delay : BitVec 32) :
    (w.orUnchanged (w.start delay)).Lifecycle := by
  unfold World.start
  split
  · exact lifecycle
  · rename_i notStarted
    simp only [ne_eq, not_not] at notStarted
    show (w.startBody delay).Lifecycle
    exact .of_unsettled (startBody_running delay)
      (by simpa using lifecycle.unsettled (by simp [notStarted]))

theorem Lifecycle.restart (lifecycle : w.Lifecycle) (delay : BitVec 32) :
    (w.orUnchanged (w.restart delay)).Lifecycle := by
  unfold World.restart
  split
  · exact lifecycle
  · rename_i running
    split
    · exact lifecycle.of_eq rfl rfl
    · simp only [World.start, ne_eq, not_true_eq_false, if_false, orUnchanged]
      exact .of_unsettled (startBody_running delay) (by simpa using lifecycle.unsettled running)

theorem Lifecycle.reset (lifecycle : w.Lifecycle) : (w.orUnchanged w.reset).Lifecycle := by
  unfold World.reset
  split
  · exact lifecycle
  · split
    · exact lifecycle
    · exact .of_unsettled (by simp [orUnchanged]) rfl

theorem Lifecycle.step (lifecycle : w.Lifecycle) (ok : w.TimersOk) (event : Event α)
    (orderly : event.Orderly) : (w.step event).Lifecycle := by
  cases event with
  | start delay => exact lifecycle.start delay
  | restart delay => exact lifecycle.restart delay
  | abort => exact orderly.elim
  | reset => exact lifecycle.reset
  | setWaitRandomnessPct pct => exact lifecycle.of_eq rfl rfl
  | fire handle cancel rand => exact lifecycle.fire ok handle orderly rand
  | settle index outcome rand => exact lifecycle.settleAttempt index outcome rand

theorem Lifecycle.run (lifecycle : w.Lifecycle) (ok : w.TimersOk) {events : List (Event α)}
    (orderly : ∀ event ∈ events, event.Orderly) : (w.run events).Lifecycle := by
  induction events generalizing w with
  | nil => exact lifecycle
  | cons event rest inductionHypothesis =>
      exact inductionHypothesis (lifecycle.step ok event (orderly event (List.mem_cons_self _ _)))
        (ok.step event) fun other member => orderly other (List.mem_cons_of_mem _ member)

/-- Once finished with the output promise settled, every event but `reset()` leaves the state
and the output promise as they are and calls `mFunc` no more: the continuations see the
promise done, and no timer is live. -/
theorem TimersOk.finished_step (ok : w.TimersOk) (settled : w.mPromise ≠ [])
    (finished : w.mState = .kStateFinished) (event : Event α) (notReset : event ≠ .reset) :
    (w.step event).mState = .kStateFinished ∧ (w.step event).mPromise = w.mPromise ∧
      (w.step event).attempts.length = w.attempts.length := by
  have same : ∀ {v : World α}, v = w → v.mState = .kStateFinished ∧ v.mPromise = w.mPromise ∧
      v.attempts.length = w.attempts.length := by
    rintro _ rfl
    exact ⟨finished, rfl, rfl⟩
  cases event with
  | start delay =>
      exact same (show w.step (.start delay) = w by
        simp [World.step, World.start, finished, orUnchanged])
  | restart delay =>
      exact same (show w.step (.restart delay) = w by
        simp [World.step, World.restart, finished, orUnchanged])
  | abort cancel rand =>
      exact same (show w.step (.abort cancel rand) = w by
        simp [World.step, World.abort, finished, State.code, kStateBitRunning,
          show (3 : Nat) &&& 4 = 0 by decide])
  | reset => exact absurd rfl notReset
  | setWaitRandomnessPct pct => exact ⟨finished, rfl, rfl⟩
  | fire handle cancel rand =>
      exact same (show w.step (.fire handle cancel rand) = w by
        simp [World.step, World.fire, (ok.idle_quiet (.inr finished)).2])
  | settle index outcome rand =>
      simp only [World.step]
      unfold World.settleAttempt
      split
      · split
        · cases outcome <;>
            simp [World.onAttemptSuccess, World.onAttemptFailure, recordResult, World.done, settled,
              finished]
        · exact ⟨finished, rfl, rfl⟩
      · exact ⟨finished, rfl, rfl⟩

/-- In a finished world that keeps the agreement, every event but `reset()` leaves the state
and the output promise as they are and calls `mFunc` no more. -/
theorem Lifecycle.finished_until_reset (lifecycle : w.Lifecycle) (ok : w.TimersOk)
    (finished : w.mState = .kStateFinished) (event : Event α) (notReset : event ≠ .reset) :
    (w.step event).mState = .kStateFinished ∧ (w.step event).mPromise = w.mPromise ∧
      (w.step event).attempts.length = w.attempts.length := by
  have settled : w.mPromise ≠ [] := by
    unfold Lifecycle at lifecycle
    rw [finished] at lifecycle
    simp [← List.length_pos, lifecycle]
  exact ok.finished_step settled finished event notReset

end World

open World

/-- In every run of a freshly constructed controller in which `abort()` is never called and
the cancel function only fails attempts, the state and the output promise agree: unsettled
in `kStateNotStarted`, `kStateInProgress` and `kStateRetryWait`, settled exactly once in
`kStateFinished`; and once finished, every event but `reset()` leaves the state and the
promise alone and calls `mFunc` no more. -/
theorem orderly_runs_keep_lifecycle {α : Type} (attemptTimeout maxSingleWaitTime : BitVec 32)
    (maxAttemptCount : Nat) (backoffStart : BitVec 16) (events : List (Event α))
    (orderly : ∀ event ∈ events, event.Orderly) :
    let w : World α :=
      (World.init attemptTimeout maxSingleWaitTime maxAttemptCount backoffStart).run events
    w.Lifecycle ∧ (w.mState = .kStateFinished → ∀ event : Event α, event ≠ .reset →
      (w.step event).mState = .kStateFinished ∧ (w.step event).mPromise = w.mPromise ∧
        (w.step event).attempts.length = w.attempts.length) := by
  intro w
  have ok : w.TimersOk := (init_timersOk _ _ _ _).run events
  have lifecycle : w.Lifecycle :=
    (Lifecycle.of_unsettled (by simp [World.init]) rfl).run (init_timersOk _ _ _ _) orderly
  exact ⟨lifecycle, lifecycle.finished_until_reset ok⟩

/-- A failed first attempt and its retry keep the agreement. -/
theorem lifecycle_after_retry :
    (∀ event ∈ ([.start 0, .settle 0 (.rejected timeoutError) 0, .fire 1 [] 0] :
      List (Event Nat)), event.Orderly) ∧
    let w : World Nat := (World.init 0 60000 0 1000).run
      [.start 0, .settle 0 (.rejected timeoutError) 0, .fire 1 [] 0]
    w.Lifecycle ∧ (w.mState = .kStateFinished → ∀ event : Event Nat, event ≠ .reset →
      (w.step event).mState = .kStateFinished ∧ (w.step event).mPromise = w.mPromise ∧
        (w.step event).attempts.length = w.attempts.length) := by
  have orderly : ∀ event ∈ ([.start 0, .settle 0 (.rejected timeoutError) 0, .fire 1 [] 0] :
      List (Event Nat)), event.Orderly := by simp [Event.Orderly]
  exact ⟨orderly, orderly_runs_keep_lifecycle 0 60000 0 1000 _ orderly⟩

/-- `abort()` settles the output promise and leaves the controller running. Aborting an
attempt in progress rejects the promise but keeps `kStateInProgress`, so a second `abort()`
settles the promise again. And the attempt timeout, after a cancel function that made the
attempt succeed, schedules a retry: the controller waits with a resolved promise, and the
retry calls `mFunc` again. -/
theorem settled_while_running :
    let aborted : World Nat := (World.init 0 60000 0 1000 : World Nat).run [.start 0, .abort [] 0]
    let rescued : World Nat := (World.init 100 60000 0 1000 : World Nat).run
      [.start 0, .fire 1 [(0, .resolved 7)] 0]
    aborted.mState = .kStateInProgress ∧ aborted.mPromise = [.rejected abortedError] ∧
      (aborted.step (.abort [] 0)).mPromise = [.rejected abortedError, .rejected abortedError] ∧
    rescued.mState = .kStateRetryWait ∧ rescued.mPromise = [.resolved 7] ∧
      rescued.attempts.length = 1 ∧ (rescued.step (.fire 2 [] 0)).attempts.length = 2 := by
  decide

end MegaChat.Retry
