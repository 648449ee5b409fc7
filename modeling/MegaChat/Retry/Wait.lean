import Mathlib.Algebra.Group.Nat.Basic
import MegaChat.Retry.Controller

/-!
# The wait between attempts

`calcWaitTimeNoRandomness()` doubles `mInitialWaitTime` once per attempt and caps the result at
`mMaxSingleWaitTime`. The product `(1 << (mCurrentAttemptNo-1)) * mInitialWaitTime` is exact
while it fits, which `kBitness` is meant to ensure: it takes the initial wait to have at most 10
bits, and then the product stays below `2^31`. `mInitialWaitTime` is an `unsigned short`, so a
`backoffStart` of 1024 or more lets the product wrap before it is capped; past `kBitness` the
cap is returned whatever the product.

`calcWaitTime()` moves the unjittered wait `t` by up to `randRange = t * mDelayRandPct / 100`
either way. Its 32-bit arithmetic wraps in `t * mDelayRandPct` and in the random product, but
each wrap only narrows the jitter: for a percentage of at most 100, `t - randRange` and the
final sum never wrap, and the wait stays within `t ± ⌊t * mDelayRandPct / 100⌋`.
-/

namespace MegaChat.Retry.World

variable {α : Type} (w : World α)

section NoRandomness

/-- Up to `kBitness` the unjittered wait is the product, reduced to 32 bits, then capped. -/
theorem calcWaitTimeNoRandomness_toNat_of_le (within : w.mCurrentAttemptNo ≤ kBitness) :
    w.calcWaitTimeNoRandomness.toNat =
      min (2 ^ (w.mCurrentAttemptNo - 1) * w.mInitialWaitTime.toNat % 2 ^ 32)
        w.mMaxSingleWaitTime.toNat := by
  unfold calcWaitTimeNoRandomness
  rw [if_neg (Nat.not_lt.mpr within), Nat.one_shiftLeft, Nat.min_def]
  dsimp only
  rw [BitVec.toNat_ofNat]
  split <;> rfl

/-- Past `kBitness` the unjittered wait is the cap, or `0` for a zero initial wait. -/
theorem calcWaitTimeNoRandomness_of_lt (beyond : kBitness < w.mCurrentAttemptNo) :
    w.calcWaitTimeNoRandomness = if w.mInitialWaitTime = 0 then 0 else w.mMaxSingleWaitTime :=
  if_pos beyond

/-- The assumption behind `kBitness`: an initial wait of at most 10 bits, doubled at most
`kBitness - 1` times, stays below `2^31`, so even the `int` product is exact. -/
theorem product_lt_of_ten_bits {n initial : Nat} (within : n ≤ kBitness)
    (small : initial < 2 ^ 10) : 2 ^ (n - 1) * initial < 2 ^ 31 :=
  calc 2 ^ (n - 1) * initial < 2 ^ 21 * 2 ^ 10 :=
        Nat.mul_lt_mul_of_le_of_lt
          (Nat.pow_le_pow_right Nat.zero_lt_two (by unfold kBitness at within; omega))
          small (Nat.two_pow_pos 21)
    _ = 2 ^ 31 := (Nat.pow_add 2 21 10).symm

/-- With an initial wait of at most 10 bits the unjittered wait is the capped doubling
`min(mMaxSingleWaitTime, mInitialWaitTime * 2^(n-1))` up to `kBitness`. -/
theorem calcWaitTimeNoRandomness_toNat_of_ten_bits (small : w.mInitialWaitTime.toNat < 2 ^ 10)
    (within : w.mCurrentAttemptNo ≤ kBitness) :
    w.calcWaitTimeNoRandomness.toNat =
      min w.mMaxSingleWaitTime.toNat
        (w.mInitialWaitTime.toNat * 2 ^ (w.mCurrentAttemptNo - 1)) := by
  have fits := product_lt_of_ten_bits within small
  rw [calcWaitTimeNoRandomness_toNat_of_le w within, Nat.mod_eq_of_lt (by omega), Nat.min_comm,
    Nat.mul_comm]

/-- With an initial wait of at most 10 bits the unjittered wait never decreases from one
attempt number to a later one: the capped doubling up to `kBitness`, the cap after it. -/
theorem calcWaitTimeNoRandomness_mono (small : w.mInitialWaitTime.toNat < 2 ^ 10) {n n' : Nat}
    (le : n ≤ n') :
    ({ w with mCurrentAttemptNo := n }).calcWaitTimeNoRandomness.toNat ≤
      ({ w with mCurrentAttemptNo := n' }).calcWaitTimeNoRandomness.toNat := by
  rcases Nat.lt_or_ge kBitness n' with beyond' | within'
  · rw [calcWaitTimeNoRandomness_of_lt { w with mCurrentAttemptNo := n' } beyond']
    rcases Nat.lt_or_ge kBitness n with beyond | within
    · rw [calcWaitTimeNoRandomness_of_lt { w with mCurrentAttemptNo := n } beyond]
    · rw [calcWaitTimeNoRandomness_toNat_of_ten_bits { w with mCurrentAttemptNo := n } small
        within]
      split
      · rename_i zero
        simp [show w.mInitialWaitTime = 0 from zero]
      · exact Nat.min_le_left _ _
  · rw [calcWaitTimeNoRandomness_toNat_of_ten_bits { w with mCurrentAttemptNo := n } small
      (le.trans within'),
      calcWaitTimeNoRandomness_toNat_of_ten_bits { w with mCurrentAttemptNo := n' } small within']
    have doubled := Nat.mul_le_mul_left w.mInitialWaitTime.toNat
      (Nat.pow_le_pow_right Nat.zero_lt_two (Nat.sub_le_sub_right le 1))
    dsimp only
    omega

/-- With the default `backoffStart`, the wait before the third attempt is at most the wait
past `kBitness`, the cap. -/
theorem default_wait_grows :
    let w : World Nat := World.init 0 60000 0 1000
    w.mInitialWaitTime.toNat < 2 ^ 10 ∧ 3 ≤ 25 ∧
      ({ w with mCurrentAttemptNo := 3 }).calcWaitTimeNoRandomness.toNat ≤
        ({ w with mCurrentAttemptNo := 25 }).calcWaitTimeNoRandomness.toNat := by
  intro w
  have small : w.mInitialWaitTime.toNat < 2 ^ 10 := by decide
  exact ⟨small, by decide, calcWaitTimeNoRandomness_mono w small (by decide)⟩

set_option maxRecDepth 10000 in
/-- A `backoffStart` of 2048 ms, within `unsigned short`, wraps the product at attempt number
22: `(1 << 21) * 2048` is `2^32`, which is `0` in 32 bits, so the wait falls from the cap to
`0`, and a controller whose attempts keep failing retries at once after the 21st failure. Past
`kBitness` the cap comes too early: with the default `backoffStart` and a cap of `2^32 - 1`,
attempt 23 waits the cap and not `1000 * 2^22`. -/
theorem backoff_product_wraps :
    let capped : World Nat := { World.init 0 60000 0 2048 with mCurrentAttemptNo := 21 }
    let wrapped : World Nat := { capped with mCurrentAttemptNo := 22 }
    let early : World Nat := { World.init 0 4294967295 0 1000 with mCurrentAttemptNo := 23 }
    let failedTwenty : World Nat := (World.init 0 60000 0 2048).run
      ([.setWaitRandomnessPct 0, .start 0] ++ ((List.range 19).flatMap fun k =>
        [.settle k (.rejected timeoutError) 0, .fire (k + 1) [] 0]) ++
        [.settle 19 (.rejected timeoutError) 0])
    capped.calcWaitTimeNoRandomness = 60000 ∧ wrapped.calcWaitTimeNoRandomness = 0 ∧
      min 60000 (2048 * 2 ^ (22 - 1)) = 60000 ∧
      early.calcWaitTimeNoRandomness = 4294967295 ∧
      min 4294967295 (1000 * 2 ^ (23 - 1)) = 4194304000 ∧
      failedTwenty.timers = [⟨20, 60000, .retry⟩] ∧
      (failedTwenty.run [.fire 20 [] 0, .settle 20 (.rejected timeoutError) 0]).timers =
        [⟨21, 0, .retry⟩] := by
  decide

end NoRandomness

section Jitter

/-- The arithmetic of the jitter, for a wait `t < 2^32`, a percentage of at most 100 and a draw
`k < 1000`: `randRange`, computed from the wrapped product `t * pct`, is at most
`⌊t * pct / 100⌋ ≤ t`; the random offset is at most `2 * randRange`; and their sum with
`t - randRange` stays below `2^32`. Only a wait within `2^32 / 1000` of `2^32` could make it
wrap, and there the wrapped product leaves `randRange` near `2^32 / 100`. -/
theorem jitter_arith {t pct k randRange : Nat} (bounded : t < 2 ^ 32) (percentage : pct ≤ 100)
    (draw : k < 1000) (range : randRange = t * pct % 2 ^ 32 / 100) :
    randRange ≤ t * pct / 100 ∧ t * pct / 100 ≤ t ∧
      k * (randRange * 2) % 2 ^ 32 / 1000 ≤ randRange * 2 ∧
      t - randRange + k * (randRange * 2) % 2 ^ 32 / 1000 < 2 ^ 32 := by
  have scaled : t * pct ≤ t * 100 := Nat.mul_le_mul_left t percentage
  have drawn : k * (randRange * 2) ≤ 999 * (randRange * 2) := Nat.mul_le_mul_right _ (by omega)
  refine ⟨by omega, by omega, by omega, ?_⟩
  rcases Nat.eq_zero_or_pos pct with none | some
  · subst none
    simp only [Nat.mul_zero, Nat.zero_mod, Nat.zero_div] at range
    omega
  by_cases far : t + 4294967 < 2 ^ 32
  · omega
  have short : 0 < (2 ^ 32 - t) * pct := Nat.mul_pos (by omega) some
  have shortLe : (2 ^ 32 - t) * pct ≤ (2 ^ 32 - t) * 100 := Nat.mul_le_mul_left _ percentage
  have rest : t * pct + (2 ^ 32 - t) * pct = 2 ^ 32 * pct := by
    rw [← Nat.add_mul, Nat.add_sub_cancel' bounded.le]
  have wrapped : t * pct % 2 ^ 32 = 2 ^ 32 - (2 ^ 32 - t) * pct := by
    rw [show t * pct = 2 ^ 32 - (2 ^ 32 - t) * pct + 2 ^ 32 * (pct - 1) by omega,
      Nat.add_mul_mod_self_left, Nat.mod_eq_of_lt (by omega)]
  omega

/-- `calcWaitTime()` in `Nat`: for a percentage of at most 100 only the two products wrap. -/
theorem calcWaitTime_toNat (pct : w.mDelayRandPct.toNat ≤ 100) (rand : Nat) :
    (w.calcWaitTime rand).toNat =
      let t := w.calcWaitTimeNoRandomness.toNat
      let randRange := t * w.mDelayRandPct.toNat % 2 ^ 32 / 100
      t - randRange + rand % 1000 * (randRange * 2) % 2 ^ 32 / 1000 := by
  have bounded := w.calcWaitTimeNoRandomness.isLt
  have draw : rand % 1000 < 1000 := Nat.mod_lt rand (by decide)
  obtain ⟨narrower, belowT, _, noWrap⟩ := jitter_arith bounded pct draw rfl
  simp only [calcWaitTime, BitVec.toNat_add, BitVec.toNat_sub, BitVec.toNat_mul,
    BitVec.toNat_udiv, BitVec.toNat_ofNat, BitVec.toNat_setWidth, BitVec.reduceToNat]
  rw [Nat.mod_eq_of_lt (by omega : w.mDelayRandPct.toNat < 2 ^ 32),
    Nat.mod_eq_of_lt (by omega : rand % 1000 < 2 ^ 32),
    Nat.mod_eq_of_lt (by omega : w.calcWaitTimeNoRandomness.toNat * w.mDelayRandPct.toNat %
      2 ^ 32 / 100 * 2 < 2 ^ 32)]
  omega

/-- For every unjittered wait, every percentage of at most 100 and every value of `rand()`,
the jittered wait is within `⌊t * mDelayRandPct / 100⌋` of the unjittered `t`. -/
theorem calcWaitTime_within_jitter (w : World α) (pct : w.mDelayRandPct.toNat ≤ 100)
    (rand : Nat) :
    let t : Nat := w.calcWaitTimeNoRandomness.toNat
    let jitter : Nat := t * w.mDelayRandPct.toNat / 100
    (t : Int) - jitter ≤ (w.calcWaitTime rand).toNat ∧
      ((w.calcWaitTime rand).toNat : Int) ≤ t + jitter := by
  have draw : rand % 1000 < 1000 := Nat.mod_lt rand (by decide)
  obtain ⟨narrower, belowT, offset, _⟩ :=
    jitter_arith w.calcWaitTimeNoRandomness.isLt pct draw rfl
  rw [calcWaitTime_toNat w pct rand]
  dsimp only
  omega

/-- The default jitter of 20 % on the first retry of a default controller, with the largest
draw. -/
theorem default_wait_within_jitter :
    let w : World Nat := { World.init 0 60000 5 1000 with mCurrentAttemptNo := 2 }
    w.mDelayRandPct.toNat ≤ 100 ∧
      let t : Nat := w.calcWaitTimeNoRandomness.toNat
      let jitter : Nat := t * w.mDelayRandPct.toNat / 100
      (t : Int) - jitter ≤ (w.calcWaitTime 999).toNat ∧
        ((w.calcWaitTime 999).toNat : Int) ≤ t + jitter :=
  ⟨by decide, calcWaitTime_within_jitter _ (by decide) 999⟩

end Jitter

end MegaChat.Retry.World
