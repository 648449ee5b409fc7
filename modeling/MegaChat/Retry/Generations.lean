import Mathlib.Data.List.Nodup
import MegaChat.Retry.Timers

/-!
# Generations, and a controller that never stalls

Every call of `mFunc` is tagged with `mCurrentAttemptId`, the generation its continuations
compare against to tell a current attempt from a stale one. That test is only sound if no two
calls share a generation. `start()` and `schedNextRetry()` move the generation on before the
next call, and the retry timer that leads to `nextTry()` is only live while the controller
waits, when no call has the current generation yet. So in every reachable world the
generations of the calls strictly increase and none is past `mCurrentAttemptId`: at most one
call, the latest, belongs to the current generation.

The same invariant says how the timers follow the state: a retry timer is live only in
`kStateRetryWait`, an attempt timeout only in `kStateInProgress`, and a waiting controller
whose output promise is still unsettled always has its retry timer live, so it never stalls;
a finished controller has settled its output promise. A call still pending with the current
generation belongs to the attempt in progress, so outside `kStateInProgress` every settlement
is stale and only records its result. `TimersOk` rides along: the step lemmas need to know
that the timer that fires, or that `cancelTimer()` cancels, is the only one.
-/

namespace MegaChat.Retry.World

variable {α : Type} (w : World α)

/-- The generations of the calls of `mFunc` so far, in order. -/
def generations : List Nat := w.attempts.map (·.attempt)

/-- How the generation counter, the calls of `mFunc`, the timers and the state fit together. -/
structure Generations : Prop where
  /-- Each call of `mFunc` has a later generation than every call before it. -/
  increasing : w.generations.Pairwise (· < ·)
  /-- No call has a generation past `mCurrentAttemptId`. -/
  bounded : ∀ g ∈ w.generations, g ≤ w.mCurrentAttemptId
  /-- While the controller waits to retry, no call has the current generation yet. -/
  waiting_unused : w.mState = .kStateRetryWait → ∀ g ∈ w.generations, g < w.mCurrentAttemptId
  /-- A retry timer is live only while the controller waits. -/
  retry_waiting : ∀ t ∈ w.timers, t.callback = .retry → w.mState = .kStateRetryWait
  /-- An attempt timeout is live only while an attempt is in progress. -/
  timeout_progress : ∀ t ∈ w.timers, ∀ attempt, t.callback = .attemptTimeout attempt →
    w.mState = .kStateInProgress
  /-- A waiting controller whose output promise is unsettled has its retry timer live. -/
  waiting_armed : w.mState = .kStateRetryWait → w.mPromise = [] →
    ∃ t ∈ w.timers, t.callback = .retry
  /-- A finished controller has settled its output promise. -/
  finished_settled : w.mState = .kStateFinished → w.mPromise ≠ []
  /-- A call still pending with the current generation belongs to the attempt in progress. -/
  pending_in_progress : ∀ a ∈ w.attempts, a.result = none → a.attempt = w.mCurrentAttemptId →
    w.mState = .kStateInProgress

section Records

variable {w}

/-- Replacing an element by one read at the same place changes nothing. -/
theorem set_of_getElem? {β : Type} {l : List β} {index : Nat} {x : β} (found : l[index]? = some x) :
    l.set index x = l := by
  apply List.ext_getElem?
  intro j
  rw [List.getElem?_set]
  split
  · rename_i here
    subst here
    rw [found, if_pos (List.getElem?_eq_some_iff.mp found).1]
  · rfl

@[simp]
theorem generations_recordResult {index : Nat} {a : Attempt α}
    (found : w.attempts[index]? = some a) (outcome : Outcome α) :
    (w.recordResult index a outcome).generations = w.generations := by
  have read : w.generations[index]? = some a.attempt := by simp [generations, found]
  simp only [generations, recordResult, List.map_set]
  exact set_of_getElem? read

@[simp]
theorem generations_markTimedOut (attempt : Nat) :
    (w.markTimedOut attempt).generations = w.generations := by
  simp only [generations, markTimedOut, List.map_map]
  congr 1
  funext a
  simp only [Function.comp]
  split <;> rfl

@[simp]
theorem generations_nextTry : w.nextTry.generations = w.generations ++ [w.mCurrentAttemptId] := by
  simp [generations]

@[simp]
theorem generations_cancelTimer : w.cancelTimer.generations = w.generations := by
  simp [generations]

end Records

section Entry

variable {w}

/-- A world with no live timer, outside `kStateRetryWait` or with its output promise settled
there, keeps the invariant as long as its calls are ordered. -/
theorem Generations.of_quiet (increasing : w.generations.Pairwise (· < ·))
    (bounded : ∀ g ∈ w.generations, g ≤ w.mCurrentAttemptId) (noTimers : w.timers = [])
    (waiting : w.mState = .kStateRetryWait →
      (∀ g ∈ w.generations, g < w.mCurrentAttemptId) ∧ w.mPromise ≠ [])
    (finished : w.mState = .kStateFinished → w.mPromise ≠ [])
    (pending : ∀ a ∈ w.attempts, a.result = none → a.attempt = w.mCurrentAttemptId →
      w.mState = .kStateInProgress) : w.Generations where
  increasing := increasing
  bounded := bounded
  waiting_unused := fun state => (waiting state).1
  retry_waiting := by simp [noTimers]
  timeout_progress := by simp [noTimers]
  waiting_armed := fun state unsettled => absurd unsettled (waiting state).2
  finished_settled := finished
  pending_in_progress := pending

/-- A world with no live timer while an attempt is in progress keeps the invariant as long as
its calls are ordered. -/
theorem Generations.of_inProgress (increasing : w.generations.Pairwise (· < ·))
    (bounded : ∀ g ∈ w.generations, g ≤ w.mCurrentAttemptId) (noTimers : w.timers = [])
    (running : w.mState = .kStateInProgress) : w.Generations :=
  Generations.of_quiet increasing bounded noTimers (by simp [running]) (by simp [running])
    fun _ _ _ _ => running

/-- `Generations` reads the calls, the counter, the state, the timers and the output
promise. -/
theorem Generations.of_eq {w' : World α} (gen : w.Generations)
    (attempts : w'.attempts = w.attempts)
    (id : w'.mCurrentAttemptId = w.mCurrentAttemptId) (state : w'.mState = w.mState)
    (timers : w'.timers = w.timers) (promise : w'.mPromise = w.mPromise) : w'.Generations where
  increasing := by rw [generations, attempts]; exact gen.increasing
  bounded := by rw [generations, attempts, id]; exact gen.bounded
  waiting_unused := by rw [generations, attempts, id, state]; exact gen.waiting_unused
  retry_waiting := by rw [timers, state]; exact gen.retry_waiting
  timeout_progress := by rw [timers, state]; exact gen.timeout_progress
  waiting_armed := by rw [timers, state, promise]; exact gen.waiting_armed
  finished_settled := by rw [state, promise]; exact gen.finished_settled
  pending_in_progress := by rw [attempts, id, state]; exact gen.pending_in_progress

/-- Recording a result leaves a call pending only if it was. -/
theorem Generations.recordResult (gen : w.Generations) {index : Nat} {a : Attempt α}
    (found : w.attempts[index]? = some a) (outcome : Outcome α) :
    (w.recordResult index a outcome).Generations where
  increasing := by rw [generations_recordResult found]; exact gen.increasing
  bounded := by rw [generations_recordResult found]; exact gen.bounded
  waiting_unused := by rw [generations_recordResult found]; exact gen.waiting_unused
  retry_waiting := gen.retry_waiting
  timeout_progress := gen.timeout_progress
  waiting_armed := gen.waiting_armed
  finished_settled := gen.finished_settled
  pending_in_progress := fun b member pending => by
    rcases List.mem_or_eq_of_mem_set member with old | rfl
    · exact gen.pending_in_progress b old pending
    · cases pending

/-- Marking a call timed out leaves its generation and its result alone. -/
theorem Generations.markTimedOut (gen : w.Generations) (attempt : Nat) :
    (w.markTimedOut attempt).Generations where
  increasing := by rw [generations_markTimedOut]; exact gen.increasing
  bounded := by rw [generations_markTimedOut]; exact gen.bounded
  waiting_unused := by rw [generations_markTimedOut]; exact gen.waiting_unused
  retry_waiting := gen.retry_waiting
  timeout_progress := gen.timeout_progress
  waiting_armed := gen.waiting_armed
  finished_settled := gen.finished_settled
  pending_in_progress := fun b member => by
    obtain ⟨a, old, rfl⟩ := List.mem_map.mp member
    split <;> exact gen.pending_in_progress a old

/-- No two calls share a generation. -/
theorem Generations.eq_of_attempt_eq (gen : w.Generations) {a b : Attempt α}
    (first : a ∈ w.attempts) (second : b ∈ w.attempts) (same : a.attempt = b.attempt) : a = b :=
  List.inj_on_of_nodup_map gen.increasing.nodup first second same

/-- A call with the current generation is the latest one: a later call would have a greater
generation. -/
theorem Generations.latest (gen : w.Generations) {i : Nat} {a : Attempt α}
    (found : w.attempts[i]? = some a) (current : a.attempt = w.mCurrentAttemptId) :
    i + 1 = w.attempts.length := by
  obtain ⟨inRange, rfl⟩ := List.getElem?_eq_some_iff.mp found
  by_contra notLast
  have next : i + 1 < w.attempts.length := by omega
  have ordered := List.pairwise_iff_getElem.mp gen.increasing i (i + 1)
    (by simpa [generations] using inRange) (by simpa [generations] using next) (Nat.lt_succ_self i)
  have bounded := gen.bounded _ (List.mem_map_of_mem (·.attempt) (List.getElem_mem next))
  simp only [generations, List.getElem_map] at ordered
  omega

/-- A continuation captures the current generation only if its call has it: the `unsigned` copy
the success continuation keeps is at most the call's generation, itself at most the current
one. -/
theorem Generations.captured_current (gen : w.Generations) {a : Attempt α} (member : a ∈ w.attempts)
    (outcome : Outcome α) (current : a.captured outcome = w.mCurrentAttemptId) :
    a.attempt = w.mCurrentAttemptId := by
  have bounded := gen.bounded _ (List.mem_map_of_mem (·.attempt) member)
  cases outcome with
  | resolved ret =>
      have current : a.attempt % 4294967296 = w.mCurrentAttemptId := current
      have := Nat.mod_le a.attempt 4294967296
      omega
  | rejected err => exact current

/-- Settling the output promise keeps the invariant. -/
theorem Generations.settle (gen : w.Generations) (outcome : Outcome α) :
    Generations { w with mPromise := w.mPromise ++ [outcome] } where
  increasing := gen.increasing
  bounded := gen.bounded
  waiting_unused := gen.waiting_unused
  retry_waiting := gen.retry_waiting
  timeout_progress := gen.timeout_progress
  waiting_armed := fun _ settled => absurd settled (by simp)
  finished_settled := fun _ => by simp
  pending_in_progress := gen.pending_in_progress

/-- `nextTry()` from a quiet world in which no call has the current generation yet. -/
theorem Generations.nextTry (w : World α) (increasing : w.generations.Pairwise (· < ·))
    (unused : ∀ g ∈ w.generations, g < w.mCurrentAttemptId) (quiet : w.Quiet) :
    w.nextTry.Generations where
  increasing := by
    rw [generations_nextTry, List.pairwise_append]
    exact ⟨increasing, List.pairwise_singleton _ _,
      fun g member _ last => (List.mem_singleton.mp last) ▸ unused g member⟩
  bounded := by
    simp only [generations_nextTry, nextTry_mCurrentAttemptId, List.mem_append,
      List.mem_singleton]
    rintro g (old | rfl)
    · exact Nat.le_of_lt (unused g old)
    · exact Nat.le_refl _
  waiting_unused := by simp
  retry_waiting := fun t live retry => by
    rcases w.nextTry_timers t live with old | timeout
    · simp [quiet.2] at old
    · rw [retry] at timeout; cases timeout
  timeout_progress := fun _ _ _ _ => nextTry_mState w
  waiting_armed := by simp
  finished_settled := by simp
  pending_in_progress := fun _ _ _ _ => nextTry_mState w

/-- Arming the retry timer from a quiet world in which no call has the current generation. -/
theorem Generations.waitRetry (w : World α) (increasing : w.generations.Pairwise (· < ·))
    (unused : ∀ g ∈ w.generations, g < w.mCurrentAttemptId) (quiet : w.Quiet) (delay : Nat) :
    (({ w with mState := .kStateRetryWait } : World α).armTimer .retry delay).Generations where
  increasing := increasing
  bounded := fun g member => Nat.le_of_lt (unused g member)
  waiting_unused := fun _ => unused
  retry_waiting := fun _ _ _ => rfl
  timeout_progress := by simp [quiet.2]
  waiting_armed := fun _ _ => ⟨⟨w.lastHandle + 1, delay, .retry⟩, by simp, rfl⟩
  finished_settled := by simp
  pending_in_progress := fun a member _ current =>
    absurd current (Nat.ne_of_lt (unused _ (List.mem_map_of_mem _ member)))

theorem Generations.startBody (w : World α) (increasing : w.generations.Pairwise (· < ·))
    (bounded : ∀ g ∈ w.generations, g ≤ w.mCurrentAttemptId) (quiet : w.Quiet)
    (delay : BitVec 32) : (w.startBody delay).Generations := by
  have unused : ∀ g ∈ w.generations, g < w.mCurrentAttemptId + 1 :=
    fun g member => Nat.lt_succ_of_le (bounded g member)
  unfold World.startBody
  split
  · exact Generations.waitRetry
      { w with mCurrentAttemptId := w.mCurrentAttemptId + 1, mCurrentAttemptNo := 1 }
      increasing unused quiet delay.toNat
  · exact Generations.nextTry
      { w with mCurrentAttemptId := w.mCurrentAttemptId + 1, mCurrentAttemptNo := 1 }
      increasing unused quiet

theorem Generations.schedNextRetry (w : World α) (increasing : w.generations.Pairwise (· < ·))
    (bounded : ∀ g ∈ w.generations, g ≤ w.mCurrentAttemptId) (quiet : w.Quiet) (err : Error)
    (rand : Nat) : (w.schedNextRetry err rand).Generations := by
  have unused : ∀ g ∈ w.generations, g < w.mCurrentAttemptId + 1 :=
    fun g member => Nat.lt_succ_of_le (bounded g member)
  unfold World.schedNextRetry
  split
  · exact Generations.startBody { w with mRestart := 0, mState := .kStateNotStarted }
      increasing bounded quiet w.mRestart
  · dsimp only
    split
    · exact Generations.of_quiet increasing (fun g member => Nat.le_of_lt (unused g member))
        quiet.2 (by simp) (fun _ => by simp) fun a member _ current =>
          absurd current (Nat.ne_of_lt (unused _ (List.mem_map_of_mem _ member)))
    · exact Generations.waitRetry
        { w with mCurrentAttemptId := w.mCurrentAttemptId + 1,
                 mCurrentAttemptNo := w.mCurrentAttemptNo + 1 } increasing unused quiet _

end Entry

section Step

variable {w}

/-- The success continuation, once the call that succeeded is no longer pending. -/
theorem Generations.onAttemptSuccess (gen : w.Generations) (ok : w.TimersOk) (attempt : Nat)
    (ret : α) (settled : attempt = w.mCurrentAttemptId →
      ∀ b ∈ w.attempts, b.result = none → b.attempt ≠ w.mCurrentAttemptId) :
    (w.onAttemptSuccess attempt ret).Generations := by
  unfold World.onAttemptSuccess
  split
  · exact gen
  · rename_i accepted
    have current : attempt = w.mCurrentAttemptId := by simpa using (not_or.mp accepted).1
    exact Generations.of_quiet (by simpa using gen.increasing) (by simpa using gen.bounded)
      ok.cancelTimer_quiet.2 (by simp) (fun _ => by simp) fun b member pending same =>
        absurd (by simpa using same) (settled current b (by simpa using member) pending)

theorem Generations.onAttemptFailure (gen : w.Generations) (ok : w.TimersOk) (attempt : Nat)
    (err : Error) (rand : Nat) : (w.onAttemptFailure attempt err rand).Generations := by
  unfold World.onAttemptFailure
  split
  · exact gen
  · exact Generations.schedNextRetry _ (by simpa using gen.increasing)
      (by simpa using gen.bounded) ok.cancelTimer_quiet err rand

theorem Generations.settleAttempt (gen : w.Generations) (ok : w.TimersOk) (index : Nat)
    (outcome : Outcome α) (rand : Nat) : (w.settleAttempt index outcome rand).Generations := by
  unfold World.settleAttempt
  split
  · rename_i a found
    split
    · have recorded := gen.recordResult found outcome
      have recordedOk : (w.recordResult index a outcome).TimersOk := ok.of_eq rfl rfl rfl rfl
      cases outcome with
      | resolved ret =>
          refine recorded.onAttemptSuccess recordedOk _ ret fun current b member pending same => ?_
          have own := gen.captured_current (List.mem_iff_getElem?.mpr ⟨index, found⟩) _ current
          have recordedMember : { a with result := some (.resolved ret) } ∈
              (w.recordResult index a (.resolved ret)).attempts :=
            List.mem_set _ _ (List.getElem?_eq_some_iff.mp found).1 _
          have := recorded.eq_of_attempt_eq member recordedMember (by simpa [own] using same)
          rw [this] at pending
          cases pending
      | rejected err => exact recorded.onAttemptFailure recordedOk _ err rand
    · exact gen
  · exact gen

theorem Generations.callCancelFunc (gen : w.Generations) (ok : w.TimersOk)
    (cancel : List (Nat × Outcome α)) (rand : Nat) :
    (w.callCancelFunc cancel rand).Generations := by
  induction cancel generalizing w with
  | nil => exact gen
  | cons effect rest inductionHypothesis =>
      exact inductionHypothesis (gen.settleAttempt ok effect.1 effect.2 rand)
        (ok.settleAttempt effect.1 effect.2 rand)

/-- The attempt-timeout lambda, run once its timer is off the list, in `kStateInProgress`. -/
theorem Generations.onAttemptTimeout (gen : w.Generations) (noTimers : w.timers = [])
    (inProgress : w.mState = .kStateInProgress) (cancel : List (Nat × Outcome α)) (rand : Nat) :
    (w.onAttemptTimeout cancel rand).Generations := by
  have quiet : Quiet { w with mTimer := 0 } := ⟨rfl, noTimers⟩
  have cleared : Generations { w with mTimer := 0 } :=
    Generations.of_inProgress gen.increasing gen.bounded noTimers inProgress
  have cancelled := cleared.callCancelFunc quiet.timersOk cancel rand
  unfold World.onAttemptTimeout
  dsimp only
  split
  · exact cancelled
  · rename_i same
    rcases quiet.callCancelFunc cancel rand with stillQuiet | moved
    · exact Generations.schedNextRetry _ cancelled.increasing cancelled.bounded stillQuiet
        timeoutError rand
    · dsimp only at same moved
      omega

theorem Generations.fire (gen : w.Generations) (ok : w.TimersOk) (handle : Nat)
    (cancel : List (Nat × Outcome α)) (rand : Nat) : (w.fire handle cancel rand).Generations := by
  unfold World.fire
  split
  · exact gen
  · rename_i t found
    obtain ⟨member, emptied⟩ := ok.fired found
    dsimp only
    split
    · rename_i retry
      have cleared : Generations ({ w with timers := [], mTimer := 0 } : World α).nextTry :=
        Generations.nextTry _ gen.increasing
          (gen.waiting_unused (gen.retry_waiting t member retry)) ⟨rfl, rfl⟩
      simpa [onRetryTimer, emptied] using cleared
    · rename_i attempt timeout
      have running := gen.timeout_progress t member attempt timeout
      have filtered : Generations { w with timers := w.timers.filter (fun t => t.handle != handle) } :=
        Generations.of_inProgress gen.increasing gen.bounded emptied running
      exact (filtered.onAttemptTimeout emptied running cancel rand).markTimedOut attempt

theorem Generations.abort (gen : w.Generations) (ok : w.TimersOk)
    (cancel : List (Nat × Outcome α)) (rand : Nat) : (w.abort cancel rand).1.Generations := by
  unfold World.abort
  split
  · exact gen
  · dsimp only
    have quiet := ok.cancelTimer_quiet
    split
    · rename_i inProgress
      rw [cancelTimer_mState] at inProgress
      have cancelled : w.cancelTimer.Generations :=
        Generations.of_inProgress (by simpa using gen.increasing) (by simpa using gen.bounded)
          quiet.2 ((w.cancelTimer_mState).trans inProgress)
      exact (cancelled.callCancelFunc quiet.timersOk cancel rand).settle _
    · exact Generations.of_quiet (by simpa using gen.increasing) (by simpa using gen.bounded)
        quiet.2 (fun waiting => ⟨by simpa using gen.waiting_unused (by simpa using waiting),
          by simp⟩) (fun _ => by simp) fun a member pending current => by
            simpa using gen.pending_in_progress a (by simpa using member) pending
              (by simpa using current)

theorem Generations.start (gen : w.Generations) (ok : w.TimersOk) (delay : BitVec 32) :
    (w.orUnchanged (w.start delay)).Generations := by
  unfold World.start
  split
  · exact gen
  · rename_i notStarted
    exact Generations.startBody _ gen.increasing gen.bounded
      (ok.idle_quiet (.inl (by simpa using notStarted))) delay

theorem Generations.restart (gen : w.Generations) (ok : w.TimersOk) (delay : BitVec 32) :
    (w.orUnchanged (w.restart delay)).Generations := by
  unfold World.restart
  split
  · exact gen
  · split
    · exact gen.of_eq rfl rfl rfl rfl rfl
    · simp only [World.start, ne_eq, not_true_eq_false, if_false, orUnchanged]
      exact Generations.startBody { w.cancelTimer with mState := .kStateNotStarted }
        (by simpa using gen.increasing) (by simpa using gen.bounded)
        ⟨ok.cancelTimer_quiet.1, ok.cancelTimer_quiet.2⟩ delay

theorem Generations.reset (gen : w.Generations) (ok : w.TimersOk) :
    (w.orUnchanged w.reset).Generations := by
  unfold World.reset
  split
  · exact gen
  · split
    · exact gen
    · rename_i finished
      have finished : w.mState = .kStateFinished := by simpa using finished
      exact Generations.of_quiet gen.increasing gen.bounded (ok.idle_quiet (.inr finished)).2
        (fun idle => nomatch idle) (fun idle => nomatch idle) fun a member pending current =>
          absurd (gen.pending_in_progress a member pending current) (by rw [finished]; decide)

theorem Generations.step (gen : w.Generations) (ok : w.TimersOk) (event : Event α) :
    (w.step event).Generations := by
  cases event with
  | start delay => exact gen.start ok delay
  | restart delay => exact gen.restart ok delay
  | abort cancel rand => exact gen.abort ok cancel rand
  | reset => exact gen.reset ok
  | setWaitRandomnessPct pct => exact gen.of_eq rfl rfl rfl rfl rfl
  | fire handle cancel rand => exact gen.fire ok handle cancel rand
  | settle index outcome rand => exact gen.settleAttempt ok index outcome rand

theorem init_generations (attemptTimeout maxSingleWaitTime : BitVec 32) (maxAttemptCount : Nat)
    (backoffStart : BitVec 16) :
    (init attemptTimeout maxSingleWaitTime maxAttemptCount backoffStart : World α).Generations :=
  Generations.of_quiet (by simp [generations, init]) (by simp [generations, init]) rfl
    (by simp [init]) (by simp [init]) (by simp [init])

/-- Outside `kStateInProgress` no pending call has the current generation, so every
settlement is stale: it records its result, if it has none yet, and does nothing else. -/
theorem Generations.settleAttempt_idle (gen : w.Generations)
    (idle : w.mState ≠ .kStateInProgress) (index : Nat) (outcome : Outcome α) (rand : Nat) :
    w.settleAttempt index outcome rand = w ∨ ∃ a, w.attempts[index]? = some a ∧
      w.settleAttempt index outcome rand = w.recordResult index a outcome := by
  cases found : w.attempts[index]? with
  | none => exact .inl (by simp [World.settleAttempt, found])
  | some a =>
      by_cases pending : a.result = none
      · have member : a ∈ w.attempts := List.mem_iff_getElem?.mpr ⟨index, found⟩
        have stale : a.captured outcome ≠ w.mCurrentAttemptId ∨ w.done := .inl fun current =>
          idle (gen.pending_in_progress a member pending (gen.captured_current member _ current))
        exact (settleAttempt_stale w found outcome rand stale).imp_right fun recorded =>
          ⟨a, rfl, recorded⟩
      · exact .inl (by simp [World.settleAttempt, found, Option.isNone_iff_eq_none, pending])

/-- Outside `kStateInProgress` the cancel function leaves the state as it is. -/
theorem Generations.callCancelFunc_idle (gen : w.Generations) (ok : w.TimersOk)
    (idle : w.mState ≠ .kStateInProgress) (cancel : List (Nat × Outcome α)) (rand : Nat) :
    (w.callCancelFunc cancel rand).mState = w.mState := by
  induction cancel generalizing w with
  | nil => rfl
  | cons effect rest inductionHypothesis =>
      have same : (w.settleAttempt effect.1 effect.2 rand).mState = w.mState := by
        rcases gen.settleAttempt_idle idle effect.1 effect.2 rand with same | ⟨a, _, recorded⟩
        · rw [same]
        · rw [recorded]; rfl
      exact (inductionHypothesis (gen.settleAttempt ok effect.1 effect.2 rand)
        (ok.settleAttempt effect.1 effect.2 rand) (same ▸ idle)).trans same

end Step

end MegaChat.Retry.World

namespace MegaChat.Retry

open World

theorem Reachable.generations {α : Type} {w : World α} (reachable : Reachable w) :
    w.Generations := by
  induction reachable with
  | init => exact init_generations _ _ _ _
  | step event previous inductionHypothesis =>
      exact inductionHypothesis.step previous.timersOk event

theorem Reachable.createRetryController {α : Type} (attemptTimeout : BitVec 32) (maxRetries : Nat)
    (maxSingleWaitTime : BitVec 64) (backoffStart : BitVec 16) :
    Reachable (createRetryController attemptTimeout maxRetries maxSingleWaitTime backoffStart :
      World α) :=
  .init _ _ _ _

theorem Reachable.retry {α : Type} (attemptTimeout : BitVec 32) (maxRetries : Nat)
    (maxSingleWaitTime : BitVec 64) (backoffStart : BitVec 16) :
    Reachable (retry attemptTimeout maxRetries maxSingleWaitTime backoffStart : World α) :=
  (Reachable.createRetryController _ _ _ _).step _

theorem Reachable.run {α : Type} {w : World α} (reachable : Reachable w) (events : List (Event α)) :
    Reachable (w.run events) := by
  induction events generalizing w with
  | nil => exact reachable
  | cons event rest inductionHypothesis => exact inductionHypothesis (reachable.step event)

/-- In every reachable world the calls of `mFunc` have strictly increasing generations, none
past `mCurrentAttemptId`. A call with the current generation is the latest one, there is none
while the controller waits to retry, and it is pending only while its attempt is in progress:
the generation test of the continuations tells the latest call from all the others. -/
theorem current_generation_is_latest {α : Type} (w : World α) (reachable : Reachable w) :
    w.generations.Pairwise (· < ·) ∧ (∀ g ∈ w.generations, g ≤ w.mCurrentAttemptId) ∧
    ∀ (i : Nat) (a : Attempt α), w.attempts[i]? = some a → a.attempt = w.mCurrentAttemptId →
      i + 1 = w.attempts.length ∧ w.mState ≠ .kStateRetryWait ∧
      (a.result = none → w.mState = .kStateInProgress) := by
  have gen := reachable.generations
  refine ⟨gen.increasing, gen.bounded, fun i a found current => ?_⟩
  have member : a ∈ w.attempts := List.mem_iff_getElem?.mpr ⟨i, found⟩
  exact ⟨gen.latest found current, fun waiting => absurd current
      (Nat.ne_of_lt (gen.waiting_unused waiting _ (List.mem_map_of_mem _ member))),
    fun pending => gen.pending_in_progress a member pending current⟩

/-- A failed first attempt and the retry it schedules: two calls, the second the current one. -/
theorem current_generation_after_retry :
    let w : World Nat := (retry 0 0 60000 1000 : World Nat).run
      [.settle 0 (.rejected timeoutError) 0, .fire 1 [] 0]
    Reachable w ∧ w.generations.Pairwise (· < ·) ∧
      (∀ g ∈ w.generations, g ≤ w.mCurrentAttemptId) ∧
      ∀ (i : Nat) (a : Attempt Nat), w.attempts[i]? = some a → a.attempt = w.mCurrentAttemptId →
        i + 1 = w.attempts.length ∧ w.mState ≠ .kStateRetryWait ∧
        (a.result = none → w.mState = .kStateInProgress) := by
  intro w
  have reachable : Reachable w := (Reachable.retry 0 0 60000 1000).run _
  exact ⟨reachable, current_generation_is_latest w reachable⟩

/-- In every reachable world at most one timer is live, the one `mTimer` names; a retry timer
only while the controller waits, an attempt timeout only while an attempt is in progress, and
none before `start()` or once finished. -/
theorem timers_follow_state {α : Type} (w : World α) (reachable : Reachable w) :
    (w.timers = [] ∨ ∃ t, w.timers = [t] ∧ t.handle = w.mTimer) ∧
    (∀ t ∈ w.timers, t.callback = .retry → w.mState = .kStateRetryWait) ∧
    (∀ t ∈ w.timers, ∀ attempt, t.callback = .attemptTimeout attempt →
      w.mState = .kStateInProgress) ∧
    (w.mState = .kStateNotStarted ∨ w.mState = .kStateFinished → w.timers = []) := by
  have ok := reachable.timersOk
  have gen := reachable.generations
  refine ⟨?_, gen.retry_waiting, gen.timeout_progress, fun idle => (ok.idle_quiet idle).2⟩
  rcases ok.quiet_or_armed with quiet | ⟨t, only, handle, _⟩
  · exact .inl quiet.2
  · exact .inr ⟨t, only, handle⟩

/-- The same run, waiting for its retry. -/
theorem timers_while_waiting :
    let w : World Nat := (retry 0 0 60000 1000 : World Nat).run
      [.settle 0 (.rejected timeoutError) 0]
    Reachable w ∧ (w.timers = [] ∨ ∃ t, w.timers = [t] ∧ t.handle = w.mTimer) ∧
      (∀ t ∈ w.timers, t.callback = .retry → w.mState = .kStateRetryWait) ∧
      (∀ t ∈ w.timers, ∀ attempt, t.callback = .attemptTimeout attempt →
        w.mState = .kStateInProgress) ∧
      (w.mState = .kStateNotStarted ∨ w.mState = .kStateFinished → w.timers = []) := by
  intro w
  have reachable : Reachable w := (Reachable.retry 0 0 60000 1000).run _
  exact ⟨reachable, timers_follow_state w reachable⟩

/-- In every reachable world outside `kStateInProgress`, however a call of `mFunc` settles,
its continuation does nothing: the settlement records its result, if it had none, and leaves
the rest of the controller as it is. -/
theorem settlements_ignored_outside_progress {α : Type} (w : World α) (reachable : Reachable w)
    (idle : w.mState ≠ .kStateInProgress) (index : Nat) (outcome : Outcome α) (rand : Nat) :
    w.step (.settle index outcome rand) = w ∨ ∃ a, w.attempts[index]? = some a ∧
      w.step (.settle index outcome rand) = w.recordResult index a outcome :=
  reachable.generations.settleAttempt_idle idle index outcome rand

/-- While the retry is pending, a late success of the failed first call is ignored. -/
theorem late_success_while_waiting :
    let w : World Nat := (retry 0 0 60000 1000 : World Nat).run
      [.settle 0 (.rejected timeoutError) 0]
    Reachable w ∧ w.mState ≠ .kStateInProgress ∧
      (w.step (.settle 0 (.resolved 7) 0) = w ∨ ∃ a, w.attempts[0]? = some a ∧
        w.step (.settle 0 (.resolved 7) 0) = w.recordResult 0 a (.resolved 7)) := by
  intro w
  have reachable : Reachable w := (Reachable.retry 0 0 60000 1000).run _
  have idle : w.mState ≠ .kStateInProgress := by decide
  exact ⟨reachable, idle, settlements_ignored_outside_progress w reachable idle 0 (.resolved 7) 0⟩

end MegaChat.Retry
