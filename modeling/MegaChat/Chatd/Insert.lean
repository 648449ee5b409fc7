import MegaChat.Chatd.Lookup

/-!
# Insertion at either end

`push_forward` appends to the chronological sequence and `push_back` prepends to it; neither
moves a message to another number. On a `Valid` buffer this is what `lownum()`, `highnum()`
and `findOrNull` report as well, and the insertion keeps `Valid` while the new number and the
new size fit in `Idx`.
-/

namespace MegaChat.Messages

open Idx

variable {Message : Type} (b : Messages Message) (msg : Message)

@[simp]
theorem toList_pushForward : (b.pushForward msg).toList = b.toList ++ [msg] := by
  simp [toList]

@[simp]
theorem low_pushForward : (b.pushForward msg).low = b.low := rfl

@[simp]
theorem high_pushForward : (b.pushForward msg).high = b.high + 1 := by
  simp only [high, pushForward_mForwardStart, pushForward_mForwardList, List.length_append,
    List.length_singleton]
  omega

@[simp]
theorem toList_pushBack : (b.pushBack msg).toList = msg :: b.toList := by
  simp [toList]

@[simp]
theorem low_pushBack : (b.pushBack msg).low = b.low - 1 := by
  simp only [low, pushBack_mForwardStart, pushBack_mBackwardList, List.length_append,
    List.length_singleton]
  omega

@[simp]
theorem high_pushBack : (b.pushBack msg).high = b.high := rfl

/-- `push_forward` numbers the new message `high + 1` and keeps every other number's. -/
theorem get?_pushForward (n : Int) :
    (b.pushForward msg).get? n = if n = b.high + 1 then some msg else b.get? n := by
  have length := b.length_toList
  simp only [get?, low_pushForward, toList_pushForward]
  split
  · rename_i inRange
    rw [List.getElem?_append]
    split
    · rename_i inside
      rw [if_neg (by simp only [high, low] at *; omega)]
    · rename_i outside
      have offset : (n - b.low).toNat - b.toList.length = 0 ↔ n = b.high + 1 := by
        simp only [high, low] at *; omega
      by_cases last : n = b.high + 1
      · rw [offset.mpr last, if_pos last]; rfl
      · rw [if_neg last, List.getElem?_eq_none (by simp only [List.length_singleton]; omega),
          List.getElem?_eq_none (by omega)]
  · rename_i outOfRange
    rw [if_neg (by simp only [high, low] at *; omega)]

/-- `push_back` numbers the new message `low - 1` and keeps every other number's. -/
theorem get?_pushBack (n : Int) :
    (b.pushBack msg).get? n = if n = b.low - 1 then some msg else b.get? n := by
  simp only [get?, low_pushBack, toList_pushBack]
  by_cases first : n = b.low - 1
  · simp [first]
  · rw [if_neg first]
    by_cases inRange : b.low ≤ n
    · rw [if_pos (by omega), if_pos inRange,
        show (n - (b.low - 1)).toNat = (n - b.low).toNat + 1 by omega, List.getElem?_cons_succ]
    · rw [if_neg (by omega), if_neg inRange]

/-- Insertion at either end of a valid buffer never leaves a gap and never renumbers a message:
`push_forward` below `INT32_MAX` keeps `lownum()`, raises `highnum()` by one, puts the message
there and keeps every other number's message; `push_back` above `INT32_MIN` likewise. -/
theorem push_keeps_numbers (valid : b.Valid) :
    (b.highnum.val < Idx.max.val →
      (b.pushForward msg).lownum = b.lownum ∧
      (b.pushForward msg).highnum.val = b.highnum.val + 1 ∧
      (b.pushForward msg).findOrNull (b.pushForward msg).highnum = some msg ∧
      ∀ i : Idx, i ≠ (b.pushForward msg).highnum →
        (b.pushForward msg).findOrNull i = b.findOrNull i) ∧
    (Idx.min.val < b.lownum.val →
      (b.pushBack msg).highnum = b.highnum ∧
      (b.pushBack msg).lownum.val = b.lownum.val - 1 ∧
      (b.pushBack msg).findOrNull (b.pushBack msg).lownum = some msg ∧
      ∀ i : Idx, i ≠ (b.pushBack msg).lownum →
        (b.pushBack msg).findOrNull i = b.findOrNull i) := by
  have size := valid.size_lt
  have forwardShort : (b.pushForward msg).mForwardList.length ≤ 2147483648 := by simp; omega
  have backShort : (b.pushBack msg).mBackwardList.length ≤ 2147483648 := by simp; omega
  refine ⟨fun room => ?_, fun room => ?_⟩
  · rw [b.highnum_val valid, max_val] at room
    have high' : (b.pushForward msg).highnum.val = b.high + 1 := by
      have := valid.high_ge
      rw [highnum_eq_wrap, high_pushForward, wrap_val_of_mem (by omega) (by omega)]
    have find := findOrNull_eq_get? (b.pushForward msg) (by simp; omega) forwardShort
    refine ⟨rfl, by rw [high', b.highnum_val valid], ?_, fun i other => ?_⟩
    · rw [find, high', get?_pushForward, if_pos rfl]
    · have other' : i.val ≠ b.high + 1 := fun same => other (ext (by rw [high', same]))
      rw [find, get?_pushForward, if_neg other', b.findOrNull_eq_get?_of_valid valid]
  · rw [b.lownum_val valid, min_val] at room
    have low' : (b.pushBack msg).lownum.val = b.low - 1 := by
      have := b.low_le_max
      rw [lownum_eq_wrap, low_pushBack, wrap_val_of_mem (by omega) (by omega)]
    have find := findOrNull_eq_get? (b.pushBack msg) backShort (by simp; omega)
    refine ⟨rfl, by rw [low', b.lownum_val valid], ?_, fun i other => ?_⟩
    · rw [find, low', get?_pushBack, if_pos rfl]
    · have other' : i.val ≠ b.low - 1 := fun same => other (ext (by rw [low', same]))
      rw [find, get?_pushBack, if_neg other', b.findOrNull_eq_get?_of_valid valid]

/-- Three messages around the pivot `5`, and a fourth pushed at either end. -/
theorem push_keeps_numbers_of_three :
    let b : Messages Nat := ⟨wrap 5, [10, 11], [9]⟩
    b.Valid ∧
    (b.highnum.val < Idx.max.val →
      (b.pushForward 12).lownum = b.lownum ∧
      (b.pushForward 12).highnum.val = b.highnum.val + 1 ∧
      (b.pushForward 12).findOrNull (b.pushForward 12).highnum = some 12 ∧
      ∀ i : Idx, i ≠ (b.pushForward 12).highnum →
        (b.pushForward 12).findOrNull i = b.findOrNull i) ∧
    (Idx.min.val < b.lownum.val →
      (b.pushBack 12).highnum = b.highnum ∧
      (b.pushBack 12).lownum.val = b.lownum.val - 1 ∧
      (b.pushBack 12).findOrNull (b.pushBack 12).lownum = some 12 ∧
      ∀ i : Idx, i ≠ (b.pushBack 12).lownum →
        (b.pushBack 12).findOrNull i = b.findOrNull i) := by
  intro b
  have valid : b.Valid := ⟨by decide, by decide, by decide, by decide⟩
  exact ⟨valid, push_keeps_numbers b 12 valid⟩

/-- Without `Valid` pushing loses a message twice: with the pivot at `INT32_MAX` and two forward
messages, `highnum()` has already wrapped to `INT32_MIN`, and after `push_forward` the message
is not found there; with `2^31` forward messages from `INT32_MIN`, `highnum()` is the exact
`-1`, yet after `push_forward` the new message at `0` is not found. -/
theorem push_loses_message :
    (⟨Idx.max, [1, 2], []⟩ : Messages Nat).highnum.val < Idx.max.val ∧
      ((⟨Idx.max, [1, 2], []⟩ : Messages Nat).pushForward 3).findOrNull
        ((⟨Idx.max, [1, 2], []⟩ : Messages Nat).pushForward 3).highnum = none ∧
    (⟨Idx.min, List.replicate 2147483648 1, []⟩ : Messages Nat).highnum = wrap (-1) ∧
      ((⟨Idx.min, List.replicate 2147483648 1, []⟩ : Messages Nat).pushForward 3).highnum =
        wrap 0 ∧
      ((⟨Idx.min, List.replicate 2147483648 1, []⟩ : Messages Nat).pushForward 3).findOrNull
        (wrap 0) = none := by
  refine ⟨by decide, by decide, ?_, ?_, ?_⟩
  · simp only [highnum, List.length_replicate]; decide
  · rw [highnum_eq_wrap, high_pushForward]
    simp only [high, List.length_replicate]
    decide
  · show (⟨Idx.min, List.replicate 2147483648 1 ++ [3], []⟩ : Messages Nat).findOrNull (wrap 0)
      = none
    unfold findOrNull
    rw [if_neg (by decide)]
    exact List.getElem?_eq_none (by rw [List.length_append, List.length_replicate]; decide)

end MegaChat.Messages
