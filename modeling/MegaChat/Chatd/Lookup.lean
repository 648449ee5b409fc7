import MegaChat.Chatd.Messages

/-!
# What the buffer stores, and how `findOrNull` reads it

The buffer's purpose is one chronological sequence, `toList`: the backward vector reversed,
then the forward one, its first message numbered `low` and its last `high`. `get?` reads that
sequence by number. `findOrNull_eq_get?` is the refinement theorem: `findOrNull` is `get?` on
every `Idx` as long as neither vector holds more than `2^31` messages. `Valid` says that the
integer range `[low, high]` lies in `Idx` and that `size()` fits in it; then `lownum()` and
`highnum()` are `low` and `high`, and both insertions keep every other number's message.
-/

namespace MegaChat.Messages

open Idx

variable {Message : Type} (b : Messages Message)

/-- The messages oldest first. -/
def toList : List Message := b.mBackwardList.reverse ++ b.mForwardList

/-- The number of the oldest message, over the integers. -/
def low : Int := b.mForwardStart.val - b.mBackwardList.length

/-- The number of the newest message, over the integers. -/
def high : Int := b.mForwardStart.val + b.mForwardList.length - 1

/-- The message numbered `n` in the chronological sequence. -/
def get? (n : Int) : Option Message :=
  if b.low ≤ n then b.toList[(n - b.low).toNat]? else none

/-- The buffer's representation invariant: `lownum()`, `highnum()` and `size()` are exact. -/
structure Valid : Prop where
  low_ge : -2147483648 ≤ b.low
  high_ge : -2147483648 ≤ b.high
  high_le : b.high ≤ 2147483647
  size_lt : b.mForwardList.length + b.mBackwardList.length < 2147483648

theorem length_toList : b.toList.length = b.mBackwardList.length + b.mForwardList.length := by
  simp [toList]

/-- Below the pivot, `get?` reads the backward vector at distance `mForwardStart - 1 - n`. -/
theorem get?_below {n : Int} (below : n < b.mForwardStart.val) :
    b.get? n = b.mBackwardList[(b.mForwardStart.val - n - 1).toNat]? := by
  unfold get?
  split
  · rename_i inRange
    simp only [low] at inRange ⊢
    have lt : (n - (b.mForwardStart.val - b.mBackwardList.length)).toNat <
        b.mBackwardList.reverse.length := by
      simp only [List.length_reverse]; omega
    rw [toList, List.getElem?_append_left lt, List.getElem?_reverse (by simpa using lt)]
    congr 1
    omega
  · rename_i outOfRange
    exact (List.getElem?_eq_none (by simp only [low] at outOfRange; omega)).symm

/-- From the pivot on, `get?` reads the forward vector at offset `n - mForwardStart`. -/
theorem get?_above {n : Int} (above : b.mForwardStart.val ≤ n) :
    b.get? n = b.mForwardList[(n - b.mForwardStart.val).toNat]? := by
  have inRange : b.low ≤ n := by simp only [low]; omega
  have ge : b.mBackwardList.reverse.length ≤ (n - b.low).toNat := by
    simp only [List.length_reverse, low]; omega
  rw [get?, if_pos inRange, toList, List.getElem?_append_right ge]
  congr 1
  simp only [List.length_reverse, low]; omega

/-- `get?` finds a message exactly on the numbers `low .. high`. -/
theorem get?_isSome_iff (n : Int) : (b.get? n).isSome ↔ b.low ≤ n ∧ n ≤ b.high := by
  unfold get?
  split
  · rw [Option.isSome_iff_ne_none, Ne, List.getElem?_eq_none_iff, length_toList]
    simp only [low, high] at *; omega
  · simp_all

/-- A `size_t` offset computed by `wrap` reads the vector like the exact offset, as long as the
vector holds at most `2^31` messages: a wrapped offset is negative, so beyond every vector. -/
theorem getElem?_toSize_wrap (l : List Message) (short : l.length ≤ 2147483648) {d : Int}
    (nonneg : 0 ≤ d) (lt : d < 4294967296) : l[(wrap d).toSize]? = l[d.toNat]? := by
  rcases toSize_wrap nonneg lt with ⟨exact, -⟩ | ⟨huge, large⟩
  · congr 1; omega
  · rw [List.getElem?_eq_none (by omega), List.getElem?_eq_none (by omega)]

/-- **Refinement.** `findOrNull` reads the chronological sequence, for every `Idx`, whenever
neither vector holds more than `2^31` messages. -/
theorem findOrNull_eq_get? (backShort : b.mBackwardList.length ≤ 2147483648)
    (forwardShort : b.mForwardList.length ≤ 2147483648) (num : Idx) :
    b.findOrNull num = b.get? num.val := by
  have := num.val_bounds
  have := b.mForwardStart.val_bounds
  unfold findOrNull
  split
  · rename_i below
    rw [getElem?_toSize_wrap _ backShort (by omega) (by omega), get?_below b below]
  · rename_i above
    rw [getElem?_toSize_wrap _ forwardShort (by omega) (by omega), get?_above b (by omega)]

theorem lownum_eq_wrap : b.lownum = wrap b.low := rfl

theorem highnum_eq_wrap : b.highnum = wrap b.high := rfl

theorem low_le_max : b.low ≤ 2147483647 := by
  have := b.mForwardStart.val_bounds
  simp only [low]; omega

theorem lownum_val (valid : b.Valid) : b.lownum.val = b.low :=
  wrap_val_of_mem valid.low_ge b.low_le_max

theorem highnum_val (valid : b.Valid) : b.highnum.val = b.high :=
  wrap_val_of_mem valid.high_ge valid.high_le

theorem findOrNull_eq_get?_of_valid (valid : b.Valid) (num : Idx) :
    b.findOrNull num = b.get? num.val :=
  b.findOrNull_eq_get? (by have := valid.size_lt; omega) (by have := valid.size_lt; omega) num

/-- `hasNum` agrees with `get?` below the pivot, and above it while the pivot is not negative:
there `num` and `mForwardStart + size` are the same numbers in `size_t` as in `Idx`. -/
theorem hasNum_eq_isSome_get? (valid : b.Valid) {num : Idx}
    (side : 0 ≤ b.mForwardStart.val ∨ num.val < b.mForwardStart.val) :
    b.hasNum num = (b.get? num.val).isSome := by
  have := num.val_bounds
  have := b.mForwardStart.val_bounds
  have := valid.size_lt
  have inRange := b.get?_isSome_iff num.val
  simp only [low, high] at inRange
  unfold hasNum
  split
  · rename_i below
    rcases toSize_wrap (show 0 ≤ b.mForwardStart.val - num.val by omega) (by omega) with
      ⟨exact, -⟩ | ⟨huge, large⟩
    · rw [Bool.eq_iff_iff, decide_eq_true_iff, inRange]; omega
    · rw [Bool.eq_iff_iff, decide_eq_true_iff, inRange]; omega
  · rename_i above
    have pivot := toSize_of_nonneg (show 0 ≤ b.mForwardStart.val by omega)
    have number := toSize_of_nonneg (show 0 ≤ num.val by omega)
    rw [Bool.eq_iff_iff, decide_eq_true_iff, inRange]; omega

/-- Lookup by number on a valid buffer: `findOrNull` finds a message exactly on
`lownum() .. highnum()`, the one at offset `num - lownum()` of the chronological sequence;
`at` returns it and throws elsewhere; and `hasNum` agrees with `findOrNull` except above a
negative pivot, where it compares `size_t` conversions of negative numbers. -/
theorem lookups_on_valid_buffer (valid : b.Valid) (num : Idx) :
    ((b.findOrNull num).isSome ↔ b.lownum.val ≤ num.val ∧ num.val ≤ b.highnum.val) ∧
    (b.lownum.val ≤ num.val →
      b.findOrNull num = b.toList[(num.val - b.lownum.val).toNat]?) ∧
    (b.«at» num).toOption = b.findOrNull num ∧
    (0 ≤ b.mForwardStart.val ∨ num.val < b.mForwardStart.val →
      b.hasNum num = (b.findOrNull num).isSome) := by
  rw [b.findOrNull_eq_get?_of_valid valid, b.lownum_val valid, b.highnum_val valid]
  refine ⟨b.get?_isSome_iff num.val, fun inRange => by rw [get?, if_pos inRange],
    by rw [at_toOption, b.findOrNull_eq_get?_of_valid valid],
    b.hasNum_eq_isSome_get? valid⟩

/-- Three messages around the pivot `5`, looked up at `highnum() = 6`. -/
theorem lookups_on_three_messages :
    let b : Messages Nat := ⟨wrap 5, [10, 11], [9]⟩
    b.Valid ∧
    ((b.findOrNull (wrap 6)).isSome ↔ b.lownum.val ≤ (wrap 6).val ∧ (wrap 6).val ≤ b.highnum.val) ∧
    (b.lownum.val ≤ (wrap 6).val →
      b.findOrNull (wrap 6) = b.toList[((wrap 6).val - b.lownum.val).toNat]?) ∧
    (b.«at» (wrap 6)).toOption = b.findOrNull (wrap 6) ∧
    (0 ≤ b.mForwardStart.val ∨ (wrap 6).val < b.mForwardStart.val →
      b.hasNum (wrap 6) = (b.findOrNull (wrap 6)).isSome) := by
  intro b
  have valid : b.Valid := ⟨by decide, by decide, by decide, by decide⟩
  exact ⟨valid, lookups_on_valid_buffer b valid (wrap 6)⟩

/-- Without `Valid`, or above a negative pivot, the lookups disagree: above the pivot `-1`,
`hasNum` denies the message `findOrNull` finds at `-1`; and with `2^31 + 1` backward messages
`lownum()` and `highnum()` are exact yet `findOrNull(lownum())` is null. -/
theorem lookups_disagree :
    ((⟨wrap (-1), [7], []⟩ : Messages Nat).lownum = wrap (-1) ∧
      (⟨wrap (-1), [7], []⟩ : Messages Nat).highnum = wrap (-1) ∧
      (⟨wrap (-1), [7], []⟩ : Messages Nat).findOrNull (wrap (-1)) = some 7 ∧
      (⟨wrap (-1), [7], []⟩ : Messages Nat).hasNum (wrap (-1)) = false) ∧
    ((⟨wrap 1, [], List.replicate 2147483649 7⟩ : Messages Nat).lownum = Idx.min ∧
      (⟨wrap 1, [], List.replicate 2147483649 7⟩ : Messages Nat).highnum = wrap 0 ∧
      (⟨wrap 1, [], List.replicate 2147483649 7⟩ : Messages Nat).findOrNull Idx.min = none) := by
  refine ⟨by decide, ?_, ?_, ?_⟩
  · simp only [lownum, List.length_replicate]; decide
  · simp only [highnum, List.length_nil]; decide
  · simp only [findOrNull, List.getElem?_replicate]; decide

/-- What `first()` returns: the backward message next to the pivot, or the newest message. -/
theorem first_eq_get? : b.first =
    if b.mBackwardList.isEmpty then b.get? b.high else b.get? (b.mForwardStart.val - 1) := by
  cases backward : b.mBackwardList with
  | nil =>
      by_cases noForward : b.mForwardList = []
      · simp [first, get?, low, high, toList, backward, noForward]
      · have above : b.mForwardStart.val ≤ b.high := by
          have := List.length_pos.mpr noForward
          simp only [high]; omega
        simp only [first, backward, List.isEmpty_nil, Bool.not_true, Bool.false_eq_true,
          if_true, if_false, get?_above b above, List.getLast?_eq_getElem?]
        congr 1; simp only [high]; omega
  | cons newest older =>
      have below : b.mForwardStart.val - 1 < b.mForwardStart.val := by omega
      have nearest : (b.mForwardStart.val - (b.mForwardStart.val - 1) - 1).toNat = 0 := by omega
      rw [get?_below b below, backward, nearest]
      simp [first, backward]

/-- What `last()` returns: the forward message at the pivot, or the oldest message. -/
theorem last_eq_get? : b.last =
    if b.mForwardList.isEmpty then b.get? b.low else b.get? b.mForwardStart.val := by
  cases forward : b.mForwardList with
  | nil =>
      by_cases noBackward : b.mBackwardList = []
      · simp [last, get?, low, toList, forward, noBackward]
      · have below : b.low < b.mForwardStart.val := by
          have := List.length_pos.mpr noBackward
          simp only [low]; omega
        simp only [last, forward, List.isEmpty_nil, Bool.not_true, Bool.false_eq_true,
          if_true, if_false, get?_below b below, List.getLast?_eq_getElem?]
        congr 1; simp only [low]; omega
  | cons oldest newer =>
      rw [get?_above b (Int.le_refl _), forward, Int.sub_self]
      simp [last, forward]

/-- With the messages `1, 2` forward of the pivot `0`, `first()` is the newest message and
`last()` the oldest, while `lownum()` and `highnum()` number them the other way round. -/
theorem first_last_swapped :
    (⟨wrap 0, [1, 2], []⟩ : Messages Nat).first = some 2 ∧
      (⟨wrap 0, [1, 2], []⟩ : Messages Nat).findOrNull
        (⟨wrap 0, [1, 2], []⟩ : Messages Nat).lownum = some 1 ∧
      (⟨wrap 0, [1, 2], []⟩ : Messages Nat).last = some 1 ∧
      (⟨wrap 0, [1, 2], []⟩ : Messages Nat).findOrNull
        (⟨wrap 0, [1, 2], []⟩ : Messages Nat).highnum = some 2 := by
  decide

end MegaChat.Messages
