import MegaChat.Retry.Timers

/-!
# The attempt budget

A run in which every attempt fails or times out and `restart()`, `abort()` and `reset()` are
never called: the cancel function, too, can only fail attempts, and the only success that may
arrive is a late one, for an attempt whose timeout has already fired. In every such run `mFunc`
is called with `1, 2, ..., k` in order, never beyond `mMaxAttemptCount`, and the output promise
is rejected once, exactly when attempt `mMaxAttemptCount` has ended, with the error that ended
it. `reset()` is excluded for a reason: it sets `mCurrentAttemptNo` back to `0` while the
attempts already made stay made, so the next `start()` calls `mFunc(1)` again
(`reset_calls_first_attempt_again`).

`Budget` is the invariant. The attempt records are numbered in call order; those numbered
below `mCurrentAttemptNo` have ended and belong to past generations, and one numbered
`mCurrentAttemptNo` is the attempt in progress; the state says what the output promise and
the live timer are. `Waiting` is a world about to call `nextTry`, and `Ending` one inside a
continuation that has ended the attempt in progress, about to call `schedNextRetry`.
-/

namespace MegaChat.Retry

variable {α : Type}

/-- The error that ended an attempt: its timeout, when that fired with the promise still
pending after the cancel function ran, and otherwise its promise's failure. -/
def Attempt.endError (a : Attempt α) : Option Error :=
  if a.timedOut then some timeoutError
  else match a.result with
    | some (.rejected err) => some err
    | _ => none

/-- An attempt that has ended while its promise is still pending ended by its timeout. -/
theorem Attempt.timedOut_of_endError {a : Attempt α} (ended : a.endError.isSome)
    (pending : a.result = none) : a.timedOut = true := by
  unfold Attempt.endError at ended
  revert ended
  cases a.timedOut <;> simp [pending]

/-- The events of a run in which every attempt fails or times out, and `restart()`, `abort()`
and `reset()` are never called. -/
def Event.Failing : Event α → Prop
  | .start _ => True
  | .setWaitRandomnessPct _ => True
  | .fire _ cancel _ => ∀ effect ∈ cancel, ∃ err, effect.2 = .rejected err
  | .settle _ outcome _ => ∃ err, outcome = .rejected err
  | _ => False

/-- A success for an attempt of `w` whose timeout has already fired: the controller has moved
on, and the success only reaches the attempt's record. -/
def Event.LateSuccess (w : World α) : Event α → Prop
  | .settle index (.resolved _) _ => ∃ a, w.attempts[index]? = some a ∧ a.timedOut = true
  | _ => False

/-- The runs from `w` the budget is about: each event fails attempts, or is a late success in
the world it reaches. -/
def World.FailingRun : World α → List (Event α) → Prop
  | _, [] => True
  | w, event :: events => (event.Failing ∨ event.LateSuccess w) ∧ (w.step event).FailingRun events

namespace World

variable (w : World α)

/-- What each state says about the attempt count, the output promise and the live timer. -/
def Phase : Prop :=
  match w.mState with
  | .kStateNotStarted => w.attempts = [] ∧ w.mPromise = []
  | .kStateRetryWait =>
      w.mCurrentAttemptNo = w.attempts.length + 1 ∧
      (w.mMaxAttemptCount = 0 ∨ w.attempts.length < w.mMaxAttemptCount) ∧
      w.mPromise = [] ∧ ∀ t ∈ w.timers, t.callback = .retry
  | .kStateInProgress =>
      w.mCurrentAttemptNo = w.attempts.length ∧ 0 < w.attempts.length ∧ w.mPromise = [] ∧
      ∀ t ∈ w.timers, t.callback = .attemptTimeout w.mCurrentAttemptId
  | .kStateFinished =>
      w.mCurrentAttemptNo = w.attempts.length + 1 ∧ w.attempts.length = w.mMaxAttemptCount ∧
      0 < w.mMaxAttemptCount ∧ ∃ err, w.mPromise = [.rejected err] ∧
        ∀ a ∈ w.attempts, a.attemptNo = w.mMaxAttemptCount → a.endError = some err

/-- The invariant of a run in which every attempt fails or times out. -/
structure Budget : Prop where
  /-- No restart is pending. -/
  noRestart : w.mRestart = 0
  /-- `mFunc` was called with `1, 2, ..., n`. -/
  numbered : w.attempts.map (·.attemptNo) = List.range' 1 w.attempts.length
  /-- Never beyond the budget. -/
  within : w.mMaxAttemptCount = 0 ∨ w.attempts.length ≤ w.mMaxAttemptCount
  /-- Earlier attempts have ended and are stale. -/
  past : ∀ a ∈ w.attempts, a.attemptNo < w.mCurrentAttemptNo →
    a.attempt < w.mCurrentAttemptId ∧ a.endError.isSome
  /-- The attempt numbered `mCurrentAttemptNo`, if any, is pending and current. -/
  current : ∀ a ∈ w.attempts, w.mCurrentAttemptNo ≤ a.attemptNo →
    a.attempt = w.mCurrentAttemptId ∧ a.result = none ∧ a.timedOut = false
  phase : w.Phase

/-- A world about to call `nextTry` for the attempt after the last. -/
structure Waiting : Prop where
  noRestart : w.mRestart = 0
  numbered : w.attempts.map (·.attemptNo) = List.range' 1 w.attempts.length
  room : w.mMaxAttemptCount = 0 ∨ w.attempts.length < w.mMaxAttemptCount
  past : ∀ a ∈ w.attempts, a.attempt < w.mCurrentAttemptId ∧ a.endError.isSome
  next : w.mCurrentAttemptNo = w.attempts.length + 1
  quiet : w.Quiet
  promise : w.mPromise = []

/-- A world inside a continuation that ended the attempt in progress with `err`, about to
call `schedNextRetry(err)`. -/
structure Ending (err : Error) : Prop where
  noRestart : w.mRestart = 0
  numbered : w.attempts.map (·.attemptNo) = List.range' 1 w.attempts.length
  within : w.mMaxAttemptCount = 0 ∨ w.attempts.length ≤ w.mMaxAttemptCount
  past : ∀ a ∈ w.attempts, a.attemptNo < w.mCurrentAttemptNo →
    a.attempt < w.mCurrentAttemptId ∧ a.endError.isSome
  ended : ∀ a ∈ w.attempts, w.mCurrentAttemptNo ≤ a.attemptNo →
    a.attempt ≤ w.mCurrentAttemptId ∧ a.endError = some err
  count : w.mCurrentAttemptNo = w.attempts.length
  started : 0 < w.attempts.length
  quiet : w.Quiet
  promise : w.mPromise = []

section Configuration

/-! Nothing writes `mMaxAttemptCount` after the constructor. -/

variable (err : Error) (rand : Nat) (delay : BitVec 32) (cancel : List (Nat × Outcome α))
@[simp] theorem startBody_mMaxAttemptCount :
    (w.startBody delay).mMaxAttemptCount = w.mMaxAttemptCount := by
  unfold startBody; split <;> simp
@[simp] theorem schedNextRetry_mMaxAttemptCount :
    (w.schedNextRetry err rand).mMaxAttemptCount = w.mMaxAttemptCount := by
  unfold schedNextRetry; split <;> simp; split <;> simp
@[simp] theorem onAttemptSuccess_mMaxAttemptCount (attempt : Nat) (ret : α) :
    (w.onAttemptSuccess attempt ret).mMaxAttemptCount = w.mMaxAttemptCount := by
  unfold onAttemptSuccess; split <;> simp
@[simp] theorem onAttemptFailure_mMaxAttemptCount (attempt : Nat) :
    (w.onAttemptFailure attempt err rand).mMaxAttemptCount = w.mMaxAttemptCount := by
  unfold onAttemptFailure; split <;> simp
@[simp] theorem settleAttempt_mMaxAttemptCount (index : Nat) (outcome : Outcome α) :
    (w.settleAttempt index outcome rand).mMaxAttemptCount = w.mMaxAttemptCount := by
  unfold settleAttempt; split
  · split
    · cases outcome <;> simp
    · rfl
  · rfl
@[simp] theorem callCancelFunc_mMaxAttemptCount :
    (w.callCancelFunc cancel rand).mMaxAttemptCount = w.mMaxAttemptCount := by
  induction cancel generalizing w with
  | nil => rfl
  | cons effect rest inductionHypothesis =>
      exact (inductionHypothesis _).trans (settleAttempt_mMaxAttemptCount _ rand _ _)
@[simp] theorem start_mMaxAttemptCount :
    (w.orUnchanged (w.start delay)).mMaxAttemptCount = w.mMaxAttemptCount := by
  unfold World.start; split <;> simp [orUnchanged]
@[simp] theorem restart_mMaxAttemptCount :
    (w.orUnchanged (w.restart delay)).mMaxAttemptCount = w.mMaxAttemptCount := by
  unfold World.restart; split
  · rfl
  · split
    · rfl
    · simp [World.start, orUnchanged]
@[simp] theorem abort_mMaxAttemptCount :
    (w.abort cancel rand).1.mMaxAttemptCount = w.mMaxAttemptCount := by
  unfold World.abort; split
  · rfl
  · dsimp only; split <;> simp
@[simp] theorem reset_mMaxAttemptCount :
    (w.orUnchanged w.reset).mMaxAttemptCount = w.mMaxAttemptCount := by
  unfold World.reset; split
  · rfl
  · split <;> rfl
@[simp] theorem fire_mMaxAttemptCount (handle : Nat) :
    (w.fire handle cancel rand).mMaxAttemptCount = w.mMaxAttemptCount := by
  unfold World.fire; split
  · rfl
  · dsimp only; split
    · simp [onRetryTimer]
    · simp only [onAttemptTimeout, markTimedOut]; split <;> simp
theorem step_mMaxAttemptCount (event : Event α) :
    (w.step event).mMaxAttemptCount = w.mMaxAttemptCount := by
  cases event <;> simp [step, setWaitRandomnessPct]
theorem run_mMaxAttemptCount (events : List (Event α)) :
    (w.run events).mMaxAttemptCount = w.mMaxAttemptCount := by
  induction events generalizing w with
  | nil => rfl
  | cons event rest inductionHypothesis =>
      exact (inductionHypothesis _).trans (step_mMaxAttemptCount w event)
end Configuration

variable {w}

theorem attemptNo_mem_range
    (numbered : w.attempts.map (·.attemptNo) = List.range' 1 w.attempts.length)
    {a : Attempt α} (member : a ∈ w.attempts) :
    1 ≤ a.attemptNo ∧ a.attemptNo ≤ w.attempts.length := by
  have listed : a.attemptNo ∈ List.range' 1 w.attempts.length :=
    numbered ▸ List.mem_map_of_mem (·.attemptNo) member
  rw [List.mem_range'_1] at listed
  omega

/-- The attempt at position `j` is the `j + 1`-th call. -/
theorem attemptNo_getElem {attempts : List (Attempt α)}
    (numbered : attempts.map (·.attemptNo) = List.range' 1 attempts.length) {j : Nat}
    (inRange : j < attempts.length) : attempts[j].attemptNo = j + 1 := by
  have := congrArg (·[j]?) numbered
  simp only [List.getElem?_map, List.getElem?_eq_getElem inRange, List.getElem?_range' 1 1 inRange,
    Option.map_some', Option.some.injEq] at this
  omega

/-- Replacing the record found at `index`, every other record keeps its own, different,
number. -/
theorem mem_set_numbered {attempts : List (Attempt α)}
    (numbered : attempts.map (·.attemptNo) = List.range' 1 attempts.length) {index : Nat}
    {a x : Attempt α} (found : attempts[index]? = some a) (a' : Attempt α)
    (member : x ∈ attempts.set index a') : x = a' ∨ x ∈ attempts ∧ x.attemptNo ≠ a.attemptNo := by
  obtain ⟨j, inRange, rfl⟩ := List.getElem_of_mem member
  rw [List.length_set] at inRange
  obtain ⟨indexInRange, rfl⟩ := List.getElem?_eq_some_iff.mp found
  rw [List.getElem_set]
  split
  · exact .inl rfl
  · rename_i other
    refine .inr ⟨List.getElem_mem _, ?_⟩
    rw [attemptNo_getElem numbered, attemptNo_getElem numbered]
    omega

/-- Renumbering nothing: a record replaced by one with the same number. -/
theorem numbered_set {attempts : List (Attempt α)}
    (numbered : attempts.map (·.attemptNo) = List.range' 1 attempts.length) {index : Nat}
    {a : Attempt α} (found : attempts[index]? = some a) {a' : Attempt α}
    (same : a'.attemptNo = a.attemptNo) :
    (attempts.set index a').map (·.attemptNo) = List.range' 1 (attempts.set index a').length := by
  rw [List.map_set, numbered, List.length_set, same]
  apply List.ext_getElem?
  intro j
  rw [List.getElem?_set]
  split
  · rename_i here
    subst here
    have := congrArg (·[index]?) numbered
    simp only [List.getElem?_map, found, Option.map_some'] at this
    split
    · exact this
    · rename_i outside
      simp only [List.length_range'] at outside
      exact absurd (List.getElem?_eq_some_iff.mp found).1 outside
  · rfl

theorem Waiting.nextTry (waiting : w.Waiting) : w.nextTry.Budget where
  noRestart := by simpa using waiting.noRestart
  numbered := by simp [waiting.numbered, waiting.next, List.range'_concat, Nat.add_comm 1]
  within := by have := waiting.room; simp only [nextTry_attempts, List.length_append]; simp; omega
  past := by
    simp only [nextTry_attempts, nextTry_mCurrentAttemptNo, nextTry_mCurrentAttemptId,
      List.mem_append, List.mem_singleton]
    rintro a (old | rfl) below
    · exact waiting.past a old
    · exact absurd below (Nat.lt_irrefl _)
  current := by
    simp only [nextTry_attempts, nextTry_mCurrentAttemptNo, nextTry_mCurrentAttemptId,
      List.mem_append, List.mem_singleton]
    rintro a (old | rfl) atLeast
    · have := attemptNo_mem_range waiting.numbered old
      have := waiting.next
      omega
    · exact ⟨rfl, rfl, rfl⟩
  phase := by
    unfold Phase
    rw [nextTry_mState]
    refine ⟨by simp [waiting.next], by simp, by simp [waiting.promise], fun t live => ?_⟩
    rcases nextTry_timers w t live with old | armed
    · simp [waiting.quiet.2] at old
    · simpa using armed

section Ending

variable {err : Error} (ending : w.Ending err)
include ending

/-- Once the generation and the attempt number move on, every attempt is past. -/
theorem Ending.past_next : ∀ a ∈ w.attempts, a.attemptNo < w.mCurrentAttemptNo + 1 →
    a.attempt < w.mCurrentAttemptId + 1 ∧ a.endError.isSome := by
  intro a member below
  by_cases earlier : a.attemptNo < w.mCurrentAttemptNo
  · have := ending.past a member earlier
    exact ⟨by omega, this.2⟩
  · have := ending.ended a member (by omega)
    exact ⟨by omega, by simp [this.2]⟩

theorem Ending.none_next : ∀ a ∈ w.attempts, ¬ w.mCurrentAttemptNo + 1 ≤ a.attemptNo := by
  intro a member
  have := attemptNo_mem_range ending.numbered member
  have := ending.count
  omega

theorem Ending.schedNextRetry (rand : Nat) : (w.schedNextRetry err rand).Budget := by
  have count := ending.count
  unfold World.schedNextRetry
  rw [if_neg (by simp [ending.noRestart])]
  dsimp only
  split
  · rename_i givingUp
    have last : w.attempts.length = w.mMaxAttemptCount := by
      rcases ending.within with none | within <;> omega
    refine ⟨ending.noRestart, ending.numbered, ending.within, ending.past_next,
      fun a member atLeast => absurd atLeast (ending.none_next a member), ?_⟩
    refine ⟨by simp [count], last, Nat.pos_of_ne_zero givingUp.1, err, by simp [ending.promise], ?_⟩
    intro a member numbered
    exact (ending.ended a member (by dsimp only at numbered; omega)).2
  · rename_i room
    refine ⟨ending.noRestart, ending.numbered, ending.within, ending.past_next,
      fun a member atLeast => absurd atLeast (ending.none_next a member), ?_⟩
    refine ⟨by simp [count], by simp only [armTimer_mMaxAttemptCount, armTimer_attempts]; omega,
      ending.promise, ?_⟩
    simp [ending.quiet.2]

end Ending

/-- `Phase` reads the state, the counters, the output promise, the timers and, of the attempt
records, how many there are and the errors that ended them. -/
theorem Phase.of_eq {w w' : World α} (phase : w.Phase) (state : w'.mState = w.mState)
    (no : w'.mCurrentAttemptNo = w.mCurrentAttemptNo)
    (id : w'.mCurrentAttemptId = w.mCurrentAttemptId)
    (max : w'.mMaxAttemptCount = w.mMaxAttemptCount) (promise : w'.mPromise = w.mPromise)
    (timers : ∀ t ∈ w'.timers, t ∈ w.timers) (length : w'.attempts.length = w.attempts.length)
    (ended : ∀ a ∈ w'.attempts,
      ∃ b ∈ w.attempts, b.attemptNo = a.attemptNo ∧ b.endError = a.endError) :
    w'.Phase := by
  unfold Phase at phase ⊢
  rw [state]
  generalize w.mState = s at phase ⊢
  cases s with
  | kStateNotStarted =>
      obtain ⟨none, empty⟩ := phase
      exact ⟨List.eq_nil_of_length_eq_zero (by simp [length, none]), promise.trans empty⟩
  | kStateRetryWait =>
      obtain ⟨next, room, empty, retry⟩ := phase
      exact ⟨by rw [no, length, next], by rwa [max, length], promise.trans empty,
        fun t live => retry t (timers t live)⟩
  | kStateInProgress =>
      obtain ⟨count, started, empty, timeout⟩ := phase
      exact ⟨by rw [no, length, count], by rwa [length], promise.trans empty,
        fun t live => by rw [id]; exact timeout t (timers t live)⟩
  | kStateFinished =>
      obtain ⟨next, last, positive, err, rejected, endedWith⟩ := phase
      refine ⟨by rw [no, length, next], by rw [length, max, last], by rwa [max], err,
        promise.trans rejected, fun a member numbered => ?_⟩
      obtain ⟨b, old, sameNo, sameError⟩ := ended a member
      rw [← sameError]
      exact endedWith b old (by rw [sameNo, numbered, max])

/-- `Budget` reads the timers only through `Phase`. -/
theorem Budget.of_eq {w w' : World α} (budget : w.Budget) (state : w'.mState = w.mState)
    (no : w'.mCurrentAttemptNo = w.mCurrentAttemptNo)
    (id : w'.mCurrentAttemptId = w.mCurrentAttemptId)
    (max : w'.mMaxAttemptCount = w.mMaxAttemptCount) (promise : w'.mPromise = w.mPromise)
    (restart : w'.mRestart = w.mRestart) (attempts : w'.attempts = w.attempts)
    (timers : ∀ t ∈ w'.timers, t ∈ w.timers) : w'.Budget where
  noRestart := restart.trans budget.noRestart
  numbered := attempts ▸ budget.numbered
  within := by rw [attempts, max]; exact budget.within
  past := by rw [attempts, no, id]; exact budget.past
  current := by rw [attempts, no, id]; exact budget.current
  phase := budget.phase.of_eq state no id max promise timers (by rw [attempts])
    fun a member => ⟨a, attempts ▸ member, rfl, rfl⟩

/-- An attempt numbered `mCurrentAttemptNo` or later exists only in `kStateInProgress`. -/
theorem Budget.inProgress (budget : w.Budget) {a : Attempt α} (member : a ∈ w.attempts)
    (atLeast : w.mCurrentAttemptNo ≤ a.attemptNo) :
    w.mState = .kStateInProgress ∧ w.mCurrentAttemptNo = w.attempts.length ∧
      0 < w.attempts.length ∧ w.mPromise = [] ∧
      ∀ t ∈ w.timers, t.callback = .attemptTimeout w.mCurrentAttemptId := by
  have range := attemptNo_mem_range budget.numbered member
  have phase := budget.phase
  unfold Phase at phase
  split at phase
  · simp [phase.1] at member
  · omega
  · exact ⟨‹_›, phase⟩
  · omega

/-- A stale attempt's promise settling is recorded and changes nothing else: the attempt had
ended by its timeout, which stays the error that ended it. -/
theorem Budget.recordResult_past (budget : w.Budget) {index : Nat} {a : Attempt α}
    (found : w.attempts[index]? = some a) (pending : a.result = none)
    (earlier : a.attemptNo < w.mCurrentAttemptNo) (outcome : Outcome α) :
    (w.recordResult index a outcome).Budget := by
  have member := List.getElem?_mem found
  have ended := budget.past a member earlier
  have timedOut := Attempt.timedOut_of_endError ended.2 pending
  have sameError : ({ a with result := some outcome } : Attempt α).endError = a.endError := by
    simp [Attempt.endError, timedOut]
  refine ⟨budget.noRestart, numbered_set budget.numbered found rfl,
    by simpa using budget.within, ?past, ?current, ?phase⟩
  case past =>
    intro x recorded below
    rcases mem_set_numbered budget.numbered found _ recorded with rfl | ⟨old, _⟩
    · exact ⟨ended.1, sameError ▸ ended.2⟩
    · exact budget.past x old below
  case current =>
    intro x recorded atLeast
    rcases mem_set_numbered budget.numbered found _ recorded with rfl | ⟨old, _⟩
    · exact absurd atLeast (Nat.not_le.mpr earlier)
    · exact budget.current x old atLeast
  case phase =>
    refine budget.phase.of_eq rfl rfl rfl rfl rfl (fun _ live => live) (List.length_set ..) ?_
    intro x recorded
    rcases mem_set_numbered budget.numbered found _ recorded with rfl | ⟨old, _⟩
    · exact ⟨a, member, rfl, sameError.symm⟩
    · exact ⟨x, old, rfl, rfl⟩

/-- An attempt of the current generation is numbered `mCurrentAttemptNo` or later. -/
theorem Budget.atLeast_of_current (budget : w.Budget) {a : Attempt α} (member : a ∈ w.attempts)
    (current : a.attempt = w.mCurrentAttemptId) : w.mCurrentAttemptNo ≤ a.attemptNo :=
  Nat.not_lt.mp fun earlier => by
    have := (budget.past a member earlier).1
    omega

/-- The failure of the attempt in progress ends it, and the continuation is then about to
call `schedNextRetry(err)`. -/
theorem Budget.ending (budget : w.Budget) (ok : w.TimersOk) {index : Nat} {a : Attempt α}
    (found : w.attempts[index]? = some a) (current : a.attempt = w.mCurrentAttemptId)
    (err : Error) : (w.recordResult index a (.rejected err)).cancelTimer.Ending err := by
  have member := List.getElem?_mem found
  have atLeast := budget.atLeast_of_current member current
  obtain ⟨_, count, started, empty, _⟩ := budget.inProgress member atLeast
  obtain ⟨_, _, notTimedOut⟩ := budget.current a member atLeast
  have range := attemptNo_mem_range budget.numbered member
  have quiet := (ok.of_eq rfl rfl rfl rfl :
    (w.recordResult index a (.rejected err)).TimersOk).cancelTimer_quiet
  refine ⟨by simpa using budget.noRestart, ?numbered, by simpa using budget.within, ?past, ?ended,
    by simpa using count, by simpa using started, quiet, by simpa using empty⟩
  case numbered =>
    simpa using numbered_set budget.numbered found rfl
  case past =>
    simp only [cancelTimer_attempts, recordResult_attempts, cancelTimer_mCurrentAttemptNo,
      recordResult_mCurrentAttemptNo, cancelTimer_mCurrentAttemptId, recordResult_mCurrentAttemptId]
    intro x recorded below
    rcases mem_set_numbered budget.numbered found _ recorded with rfl | ⟨old, _⟩
    · exact absurd below (Nat.not_lt.mpr atLeast)
    · exact budget.past x old below
  case ended =>
    simp only [cancelTimer_attempts, recordResult_attempts, cancelTimer_mCurrentAttemptNo,
      recordResult_mCurrentAttemptNo, cancelTimer_mCurrentAttemptId, recordResult_mCurrentAttemptId]
    intro x recorded atLeast'
    rcases mem_set_numbered budget.numbered found _ recorded with rfl | ⟨old, other⟩
    · exact ⟨Nat.le_of_eq current, by simp [Attempt.endError, notTimedOut]⟩
    · have := attemptNo_mem_range budget.numbered old
      omega

/-- A failure keeps the invariant: the attempt in progress ends, a stale one is recorded. -/
theorem Budget.settleAttempt_failure (budget : w.Budget) (ok : w.TimersOk) (index : Nat)
    (err : Error) (rand : Nat) : (w.settleAttempt index (.rejected err) rand).Budget := by
  unfold settleAttempt
  split
  · rename_i a found
    split
    · rename_i pending
      rw [runContinuation_rejected]
      unfold onAttemptFailure
      split
      · rename_i stale
        simp only [recordResult_mCurrentAttemptId, done, recordResult_mPromise] at stale
        have member := List.getElem?_mem found
        refine budget.recordResult_past found (by simpa using pending) ?_ _
        refine Nat.not_le.mp fun atLeast => ?_
        obtain ⟨_, _, _, empty, _⟩ := budget.inProgress member atLeast
        rcases stale with other | done
        · exact other (budget.current a member atLeast).1
        · simp [empty] at done
      · rename_i fresh
        simp only [recordResult_mCurrentAttemptId, done, recordResult_mPromise, not_or,
          not_not] at fresh
        exact (budget.ending ok found fresh.1 err).schedNextRetry rand
    · exact budget
  · exact budget

/-- A success for an attempt that has timed out is stale: that attempt belongs to a past
generation, which its captured `unsigned` cannot reach by wrapping, since it only gets
smaller. -/
theorem Budget.settleAttempt_late (budget : w.Budget) {index : Nat} {a : Attempt α}
    (found : w.attempts[index]? = some a) (timedOut : a.timedOut = true) (ret : α) (rand : Nat) :
    (w.settleAttempt index (.resolved ret) rand).Budget := by
  have member := List.getElem?_mem found
  have earlier : a.attemptNo < w.mCurrentAttemptNo := Nat.not_le.mp fun atLeast =>
    Bool.false_ne_true ((budget.current a member atLeast).2.2.symm.trans timedOut)
  have stale : a.captured (.resolved ret) ≠ w.mCurrentAttemptId ∨ w.done :=
    .inl (Nat.ne_of_lt (Nat.lt_of_le_of_lt (Nat.mod_le _ _) (budget.past a member earlier).1))
  unfold settleAttempt
  rw [found]
  dsimp only
  split
  · rename_i pending
    have ignored : (w.recordResult index a (.resolved ret)).runContinuation a rand (.resolved ret) =
        w.recordResult index a (.resolved ret) := if_pos stale
    rw [ignored]
    exact budget.recordResult_past found (by simpa using pending) earlier _
  · exact budget

theorem Budget.callCancelFunc (budget : w.Budget) (ok : w.TimersOk)
    {cancel : List (Nat × Outcome α)} (failing : ∀ effect ∈ cancel, ∃ err, effect.2 = .rejected err)
    (rand : Nat) : (w.callCancelFunc cancel rand).Budget := by
  induction cancel generalizing w with
  | nil => exact budget
  | cons effect rest inductionHypothesis =>
      obtain ⟨err, rejected⟩ := failing effect (List.mem_cons_self _ _)
      have settled := budget.settleAttempt_failure ok effect.1 err rand
      rw [← rejected] at settled
      exact inductionHypothesis settled (ok.settleAttempt _ _ rand)
        fun other member => failing other (List.mem_cons_of_mem _ member)

/-- A cancel function that only fails attempts, called in `kStateInProgress` with no timer
live, leaves the state and the timers alone unless it moves the generation on. -/
theorem Quiet.callCancelFunc_failing (quiet : w.Quiet) (inProgress : w.mState = .kStateInProgress)
    {cancel : List (Nat × Outcome α)} (failing : ∀ effect ∈ cancel, ∃ err, effect.2 = .rejected err)
    (rand : Nat) :
    ((w.callCancelFunc cancel rand).mState = .kStateInProgress ∧
      (w.callCancelFunc cancel rand).Quiet) ∨
    w.mCurrentAttemptId < (w.callCancelFunc cancel rand).mCurrentAttemptId :=
  callCancelFunc_failing_keeps (fun v => v.mState = .kStateInProgress ∧ v.Quiet)
    (fun _ _ held => held) failing rand ⟨inProgress, quiet⟩

section MarkTimedOut

variable (attempt : Nat)

@[simp] theorem markTimedOut_attempts : (w.markTimedOut attempt).attempts = w.attempts.map
    fun a => if a.attempt = attempt ∧ a.result.isNone then { a with timedOut := true } else a := rfl

theorem schedNextRetry_markTimedOut (noRestart : w.mRestart = 0) (err : Error) (rand : Nat) :
    (w.schedNextRetry err rand).markTimedOut attempt =
      (w.markTimedOut attempt).schedNextRetry err rand := by
  simp only [schedNextRetry, markTimedOut, noRestart, ne_eq, not_true_eq_false, if_false]
  split <;> rfl

/-- Marking a past generation changes nothing: its attempts ended, and those still pending
were already marked. -/
theorem Budget.markTimedOut_past (budget : w.Budget) (stale : attempt < w.mCurrentAttemptId) :
    w.markTimedOut attempt = w := by
  suffices unchanged : w.attempts.map (fun a => if a.attempt = attempt ∧ a.result.isNone then
      { a with timedOut := true } else a) = w.attempts by
    unfold markTimedOut
    rw [unchanged]
  refine (List.map_congr_left fun a member => ?_).trans (List.map_id _)
  split
  · rename_i marked
    have earlier : a.attemptNo < w.mCurrentAttemptNo :=
      Nat.not_le.mp fun atLeast => by
        have := (budget.current a member atLeast).1
        omega
    have := Attempt.timedOut_of_endError (budget.past a member earlier).2
      (by simpa using marked.2)
    cases a
    simp_all
  · rfl

/-- The attempt timeout of the attempt in progress, which the cancel function left pending,
ends it. -/
theorem Budget.timedOut (budget : w.Budget) (inProgress : w.mState = .kStateInProgress)
    (quiet : w.Quiet) : (w.markTimedOut w.mCurrentAttemptId).Ending timeoutError := by
  have phase := budget.phase
  unfold Phase at phase
  rw [inProgress] at phase
  obtain ⟨count, started, empty, _⟩ := phase
  have sameNo : ∀ a : Attempt α,
      (if a.attempt = w.mCurrentAttemptId ∧ a.result.isNone then { a with timedOut := true }
        else a).attemptNo = a.attemptNo := fun a => by split <;> rfl
  refine ⟨budget.noRestart, ?numbered, by simpa using budget.within, ?past, ?ended,
    by simpa using count, by simpa using started, quiet, empty⟩
  case numbered =>
    simp only [markTimedOut_attempts, List.map_map, List.length_map]
    exact (List.map_congr_left fun a _ => sameNo a).trans budget.numbered
  case past =>
    simp only [markTimedOut_attempts, List.mem_map]
    rintro _ ⟨a, member, rfl⟩ below
    rw [sameNo] at below
    have := budget.past a member below
    rw [if_neg fun marked => by omega]
    exact this
  case ended =>
    simp only [markTimedOut_attempts, List.mem_map]
    rintro _ ⟨a, member, rfl⟩ atLeast
    rw [sameNo] at atLeast
    obtain ⟨current, pending, _⟩ := budget.current a member atLeast
    rw [if_pos ⟨current, by simp [pending]⟩]
    exact ⟨Nat.le_of_eq current, by simp [Attempt.endError]⟩

end MarkTimedOut

/-- The live timer is the retry timer in `kStateRetryWait` and the attempt timeout in
`kStateInProgress`. -/
theorem Budget.live (budget : w.Budget) (ok : w.TimersOk) {t : Timer} (live : t ∈ w.timers) :
    (w.mState = .kStateRetryWait ∧ t.callback = .retry) ∨
      (w.mState = .kStateInProgress ∧ t.callback = .attemptTimeout w.mCurrentAttemptId) := by
  have phase := budget.phase
  unfold Phase at phase
  split at phase
  · simp [(ok.idle_quiet (.inl ‹_›)).2] at live
  · exact .inl ⟨‹_›, phase.2.2.2 t live⟩
  · exact .inr ⟨‹_›, phase.2.2.2 t live⟩
  · simp [(ok.idle_quiet (.inr ‹_›)).2] at live

/-- The timeout of the attempt in progress keeps the invariant: the cancel function may fail
that attempt, and otherwise the timeout ends it. -/
theorem Budget.onAttemptTimeout (budget : w.Budget) (noTimers : w.timers = [])
    (inProgress : w.mState = .kStateInProgress) {cancel : List (Nat × Outcome α)}
    (failing : ∀ effect ∈ cancel, ∃ err, effect.2 = .rejected err) (rand : Nat) :
    ((w.onAttemptTimeout cancel rand).markTimedOut w.mCurrentAttemptId).Budget := by
  have cleared : Budget { w with mTimer := 0 } :=
    budget.of_eq rfl rfl rfl rfl rfl rfl rfl fun _ live => live
  have quiet : Quiet { w with mTimer := 0 } := ⟨rfl, noTimers⟩
  have settled := cleared.callCancelFunc quiet.timersOk failing rand
  unfold World.onAttemptTimeout
  dsimp only
  split
  · rename_i moved
    have := mCurrentAttemptId_le_callCancelFunc { w with mTimer := 0 } rand cancel
    rw [settled.markTimedOut_past _ (by dsimp only at moved this ⊢; omega)]
    exact settled
  · rename_i same
    simp only [ne_eq, not_not] at same
    rcases quiet.callCancelFunc_failing inProgress failing rand with ⟨stillInProgress, stillQuiet⟩
      | moved
    · rw [schedNextRetry_markTimedOut _ settled.noRestart]
      have := (settled.timedOut stillInProgress stillQuiet).schedNextRetry rand
      rwa [← same] at this
    · dsimp only at same moved
      omega

theorem Budget.fire (budget : w.Budget) (ok : w.TimersOk) (handle : Nat)
    {cancel : List (Nat × Outcome α)} (failing : ∀ effect ∈ cancel, ∃ err, effect.2 = .rejected err)
    (rand : Nat) : (w.fire handle cancel rand).Budget := by
  unfold World.fire
  split
  · exact budget
  · rename_i t found
    obtain ⟨live, emptied⟩ := ok.fired found
    have phase := budget.phase
    unfold Phase at phase
    dsimp only
    rw [emptied]
    rcases budget.live ok live with ⟨state, retry⟩ | ⟨state, timeout⟩
    · rw [state] at phase
      obtain ⟨next, room, empty, _⟩ := phase
      rw [retry]
      refine Waiting.nextTry ⟨budget.noRestart, budget.numbered, room, fun a member => ?_, next,
        ⟨rfl, rfl⟩, empty⟩
      have := attemptNo_mem_range budget.numbered member
      exact budget.past a member (by omega)
    · rw [timeout]
      have cleared : Budget { w with timers := [] } :=
        budget.of_eq rfl rfl rfl rfl rfl rfl rfl fun _ never => by simp at never
      exact cleared.onAttemptTimeout rfl state failing rand

theorem Budget.start (budget : w.Budget) (ok : w.TimersOk) (delay : BitVec 32) :
    (w.orUnchanged (w.start delay)).Budget := by
  unfold World.start
  split
  · exact budget
  · rename_i notStarted
    simp only [ne_eq, not_not] at notStarted
    have phase := budget.phase
    unfold Phase at phase
    rw [notStarted] at phase
    obtain ⟨none, empty⟩ := phase
    have quiet := ok.idle_quiet (.inl notStarted)
    show (w.startBody delay).Budget
    unfold startBody
    split
    · refine ⟨budget.noRestart, by simp [none], by simp [none], by simp [none], by simp [none], ?_⟩
      exact ⟨by simp [none], by simp [none]; omega, empty, by simp [quiet.2]⟩
    · exact Waiting.nextTry ⟨budget.noRestart, by simp [none], by simp [none]; omega,
        by simp [none], by simp [none], quiet, empty⟩

theorem Budget.step (budget : w.Budget) (ok : w.TimersOk) (event : Event α)
    (failing : event.Failing ∨ event.LateSuccess w) : (w.step event).Budget := by
  cases event with
  | start delay => exact budget.start ok delay
  | setWaitRandomnessPct pct => exact budget.of_eq rfl rfl rfl rfl rfl rfl rfl fun _ live => live
  | fire handle cancel rand => exact budget.fire ok handle (failing.resolve_right id) rand
  | settle index outcome rand =>
      rcases failing with ⟨err, rfl⟩ | late
      · exact budget.settleAttempt_failure ok index err rand
      · cases outcome with
        | resolved ret =>
            obtain ⟨a, found, timedOut⟩ := late
            exact budget.settleAttempt_late found timedOut ret rand
        | rejected err => exact late.elim
  | restart | abort | reset => exact (failing.elim id id).elim

theorem Budget.run (budget : w.Budget) (ok : w.TimersOk) {events : List (Event α)}
    (failing : w.FailingRun events) : (w.run events).Budget := by
  induction events generalizing w with
  | nil => exact budget
  | cons event rest inductionHypothesis =>
      obtain ⟨now, later⟩ := failing
      exact inductionHypothesis (budget.step ok event now) (ok.step event) later

theorem init_budget (attemptTimeout maxSingleWaitTime : BitVec 32) (maxAttemptCount : Nat)
    (backoffStart : BitVec 16) :
    (init attemptTimeout maxSingleWaitTime maxAttemptCount backoffStart : World α).Budget :=
  ⟨rfl, rfl, by simp [init], by simp [init], by simp [init], ⟨rfl, rfl⟩⟩

/-- What `Budget` says of the output promise: it is settled at most once, by a rejection, and
it is rejected with `err` exactly when the attempt numbered `mMaxAttemptCount` has ended with
`err`. -/
theorem Budget.rejected_iff (budget : w.Budget) :
    (w.mPromise = [] ∨ ∃ err, w.mPromise = [.rejected err]) ∧
    ∀ err, w.mPromise = [.rejected err] ↔
      ∃ a ∈ w.attempts, a.attemptNo = w.mMaxAttemptCount ∧ a.endError = some err := by
  have phase := budget.phase
  unfold Phase at phase
  split at phase
  · obtain ⟨none, empty⟩ := phase
    simp [none, empty]
  · obtain ⟨_, room, empty, _⟩ := phase
    refine ⟨.inl empty, fun err => ⟨fun rejected => by simp [empty] at rejected, ?_⟩⟩
    rintro ⟨a, member, numbered, _⟩
    have := attemptNo_mem_range budget.numbered member
    omega
  · obtain ⟨count, _, empty, _⟩ := phase
    refine ⟨.inl empty, fun err => ⟨fun rejected => by simp [empty] at rejected, ?_⟩⟩
    rintro ⟨a, member, numbered, ended⟩
    have := attemptNo_mem_range budget.numbered member
    have atLeast : w.mCurrentAttemptNo ≤ a.attemptNo := by
      rcases budget.within with none | within <;> omega
    obtain ⟨_, pending, notTimedOut⟩ := budget.current a member atLeast
    simp [Attempt.endError, pending, notTimedOut] at ended
  · obtain ⟨_, last, positive, finalError, rejected, endedWith⟩ := phase
    refine ⟨.inr ⟨finalError, rejected⟩, fun err => ⟨fun rejectedWith => ?_, ?_⟩⟩
    · rw [rejected, List.cons.injEq, Outcome.rejected.injEq] at rejectedWith
      have inRange : w.mMaxAttemptCount - 1 < w.attempts.length := by omega
      have numbered := attemptNo_getElem budget.numbered inRange
      refine ⟨w.attempts[w.mMaxAttemptCount - 1], List.getElem_mem _, by omega, ?_⟩
      rw [← rejectedWith.1]
      exact endedWith _ (List.getElem_mem _) (by omega)
    · rintro ⟨a, member, numbered, ended⟩
      rw [endedWith a member numbered, Option.some.injEq] at ended
      rw [rejected, ended]

end World

open World

/-- Attempts within the budget. In every run of a freshly constructed controller in which
every attempt fails or times out, with late successes of timed-out attempts allowed, and
`restart()`, `abort()` and `reset()` are never called, `mFunc` has been called with
`1, 2, ..., k`, in that order and each once, with `k` at most `maxAttemptCount` unless that is
`0`; the output promise is settled at most once, and only by a rejection; it is rejected with
`err` exactly when attempt `maxAttemptCount` has ended with `err`, its own failure or the
timeout error; and with `maxAttemptCount = 0` it is never rejected. -/
theorem attempts_within_budget {α : Type} (attemptTimeout maxSingleWaitTime : BitVec 32)
    (maxAttemptCount : Nat) (backoffStart : BitVec 16) (events : List (Event α))
    (failing : (World.init attemptTimeout maxSingleWaitTime maxAttemptCount backoffStart :
      World α).FailingRun events) :
    let w : World α :=
      (World.init attemptTimeout maxSingleWaitTime maxAttemptCount backoffStart).run events
    (maxAttemptCount = 0 ∨ w.attempts.length ≤ maxAttemptCount) ∧
    w.attempts.map (·.attemptNo) = List.range' 1 w.attempts.length ∧
    (w.mPromise = [] ∨ ∃ err, w.mPromise = [.rejected err]) ∧
    (∀ err, w.mPromise = [.rejected err] ↔
      ∃ a ∈ w.attempts, a.attemptNo = maxAttemptCount ∧ a.endError = some err) ∧
    (maxAttemptCount = 0 → w.mPromise = []) := by
  intro w
  have budget : w.Budget := (init_budget _ _ _ _).run (init_timersOk _ _ _ _) failing
  have max : w.mMaxAttemptCount = maxAttemptCount := run_mMaxAttemptCount _ events
  obtain ⟨settledOnce, rejectedIff⟩ := budget.rejected_iff
  rw [max] at rejectedIff
  refine ⟨max ▸ budget.within, budget.numbered, settledOnce, rejectedIff, fun unlimited => ?_⟩
  rcases settledOnce with empty | ⟨err, rejected⟩
  · exact empty
  · obtain ⟨a, member, numbered, _⟩ := (rejectedIff err).mp rejected
    have := attemptNo_mem_range budget.numbered member
    omega

/-- A budget of two attempts: the first times out, its success arrives late and is ignored, and
the failure of the second rejects the output promise. -/
theorem late_success_then_failure_use_budget :
    (World.init 100 60000 2 1000 : World Nat).FailingRun [.start 0, .fire 1 [] 0,
      .settle 0 (.resolved 7) 0, .fire 2 [] 0, .settle 1 (.rejected ⟨"second", 1, 1⟩) 0] ∧
    let w : World Nat := (World.init 100 60000 2 1000).run [.start 0, .fire 1 [] 0,
      .settle 0 (.resolved 7) 0, .fire 2 [] 0, .settle 1 (.rejected ⟨"second", 1, 1⟩) 0]
    (2 = 0 ∨ w.attempts.length ≤ 2) ∧
    w.attempts.map (·.attemptNo) = List.range' 1 w.attempts.length ∧
    (w.mPromise = [] ∨ ∃ err, w.mPromise = [.rejected err]) ∧
    (∀ err, w.mPromise = [.rejected err] ↔
      ∃ a ∈ w.attempts, a.attemptNo = 2 ∧ a.endError = some err) ∧
    (2 = 0 → w.mPromise = []) :=
  have failing : (World.init 100 60000 2 1000 : World Nat).FailingRun [.start 0, .fire 1 [] 0,
      .settle 0 (.resolved 7) 0, .fire 2 [] 0, .settle 1 (.rejected ⟨"second", 1, 1⟩) 0] :=
    ⟨.inl trivial, .inl nofun, .inr ⟨⟨1, 1, none, true⟩, by decide, rfl⟩, .inl nofun,
      .inl ⟨_, rfl⟩, trivial⟩
  ⟨failing, attempts_within_budget 100 60000 2 1000 _ failing⟩

/-- With `reset()` between two failing runs, a budget of one attempt calls `mFunc(1)` twice,
and the output promise is pending although attempt `1` has failed. -/
theorem reset_calls_first_attempt_again :
    let w : World Nat := (World.init 0 60000 1 1000).run
      [.start 0, .settle 0 (.rejected timeoutError) 0, .reset, .start 0]
    w.attempts.map (·.attemptNo) = [1, 1] ∧ 1 < w.attempts.length ∧
      (∃ a ∈ w.attempts, a.attemptNo = 1 ∧ a.endError = some timeoutError) ∧ w.mPromise = [] := by
  decide

end MegaChat.Retry
