import MegaChat.Chatd.Insert

/-!
# Runs of insertions

A chat's buffer only ever grows at its two ends: `push_forward` for each new message and
`push_back` for each history message fetched. Over a whole run of such calls the pivot stays
where it is, the forward vector gains the new messages in order and the backward vector the
history ones, so the chronological sequence becomes the history messages reversed, the old
sequence, then the new messages, its first number lowered by one per history message. This
holds with no condition, since `low` and `high` are integers. What needs one is that `Idx`
can still name every number: `Room` says that the run's new numbers and its final size fit,
and then the buffer stays `Valid` over the whole run, `findOrNull` reads the new sequence,
every message keeps its number, and the `i`-th new message is found at `highnum() + 1 + i`
and the `i`-th history message at `lownum() - 1 - i`.
-/

namespace MegaChat

open Idx

/-- One call that grows a chat's buffer: `push_forward` of a new message or `push_back` of a
history message. -/
inductive Push (Message : Type) where
  | forward (msg : Message)
  | back (msg : Message)
  deriving DecidableEq, Repr

namespace Push

variable {Message : Type}

/-- The new messages of a run, in the order they are pushed. -/
def forwards : List (Push Message) → List Message
  | [] => []
  | .forward msg :: rest => msg :: forwards rest
  | .back _ :: rest => forwards rest

/-- The history messages of a run, in the order they are pushed, newest first. -/
def backs : List (Push Message) → List Message
  | [] => []
  | .forward _ :: rest => backs rest
  | .back msg :: rest => msg :: backs rest

theorem length_forwards_add_backs (ops : List (Push Message)) :
    (forwards ops).length + (backs ops).length = ops.length := by
  induction ops with
  | nil => rfl
  | cons op rest inductionHypothesis =>
      cases op <;> simp only [forwards, backs, List.length_cons] <;> omega

end Push

namespace Messages

variable {Message : Type} (b : Messages Message)

/-- One call of a run. -/
def push : Push Message → Messages Message
  | .forward msg => b.pushForward msg
  | .back msg => b.pushBack msg

/-- A run of calls, in order. -/
def pushAll (ops : List (Push Message)) : Messages Message := ops.foldl push b

@[simp]
theorem pushAll_nil : b.pushAll [] = b := rfl

@[simp]
theorem pushAll_cons (op : Push Message) (ops : List (Push Message)) :
    b.pushAll (op :: ops) = (b.push op).pushAll ops := rfl

/-- A run leaves the pivot alone and appends to each vector the messages pushed there. -/
theorem pushAll_eq (ops : List (Push Message)) :
    b.pushAll ops = ⟨b.mForwardStart, b.mForwardList ++ Push.forwards ops,
      b.mBackwardList ++ Push.backs ops⟩ := by
  induction ops generalizing b with
  | nil => simp [Push.forwards, Push.backs]
  | cons op rest inductionHypothesis =>
      cases op <;>
        simp [inductionHypothesis, push, pushForward, pushBack, Push.forwards, Push.backs]

theorem toList_pushAll (ops : List (Push Message)) :
    (b.pushAll ops).toList = (Push.backs ops).reverse ++ b.toList ++ Push.forwards ops := by
  simp [pushAll_eq, toList]

theorem low_pushAll (ops : List (Push Message)) :
    (b.pushAll ops).low = b.low - (Push.backs ops).length := by
  simp only [pushAll_eq, low, List.length_append]
  omega

theorem high_pushAll (ops : List (Push Message)) :
    (b.pushAll ops).high = b.high + (Push.forwards ops).length := by
  simp only [pushAll_eq, high, List.length_append]
  omega

/-- A run fits in `Idx`: the number of its last new message, that of its last history
message and the final size can all be named. -/
structure Room (ops : List (Push Message)) : Prop where
  high_le : b.high + (Push.forwards ops).length ≤ 2147483647
  low_ge : -2147483648 ≤ b.low - (Push.backs ops).length
  size_lt : b.mForwardList.length + b.mBackwardList.length + ops.length < 2147483648

/-- A run within `Room` keeps the buffer `Valid`. -/
theorem valid_pushAll (valid : b.Valid) {ops : List (Push Message)} (room : b.Room ops) :
    (b.pushAll ops).Valid where
  low_ge := by rw [low_pushAll]; exact room.low_ge
  high_ge := by have := valid.high_ge; rw [high_pushAll]; omega
  high_le := by rw [high_pushAll]; exact room.high_le
  size_lt := by
    have := room.size_lt
    have := Push.length_forwards_add_backs ops
    simp only [pushAll_eq, List.length_append]
    omega

/-- After a run within `Room` from a valid buffer, `findOrNull` reads the new sequence. -/
theorem findOrNull_pushAll_eq (valid : b.Valid) {ops : List (Push Message)} (room : b.Room ops)
    (num : Idx) : (b.pushAll ops).findOrNull num =
      if b.low - (Push.backs ops).length ≤ num.val then
        ((Push.backs ops).reverse ++ b.toList ++ Push.forwards ops)[(num.val -
          (b.low - (Push.backs ops).length)).toNat]?
      else none := by
  rw [findOrNull_eq_get?_of_valid _ (b.valid_pushAll valid room), get?, low_pushAll,
    toList_pushAll]

/-- A run of `push_forward` and `push_back` calls within `Room`, from a valid buffer, keeps it
valid, and the buffer then reads as the new sequence (the history messages reversed, the old
sequence, the new messages): `lownum()` is its first number, `highnum()` its last, and
`findOrNull` reads it from `lownum()` on, for every `Idx`. -/
theorem findOrNull_pushAll (valid : b.Valid) (ops : List (Push Message)) (room : b.Room ops)
    (num : Idx) :
    let sequence := (Push.backs ops).reverse ++ b.toList ++ Push.forwards ops
    let first : Int := b.low - (Push.backs ops).length
    (b.pushAll ops).Valid ∧ (b.pushAll ops).lownum.val = first ∧
      (b.pushAll ops).highnum.val = first + sequence.length - 1 ∧
      (b.pushAll ops).findOrNull num =
        if first ≤ num.val then sequence[(num.val - first).toNat]? else none := by
  have after := b.valid_pushAll valid room
  have length := b.length_toList
  have lowEq : b.low = b.mForwardStart.val - b.mBackwardList.length := rfl
  have highEq : b.high = b.mForwardStart.val + b.mForwardList.length - 1 := rfl
  refine ⟨after, by rw [lownum_val _ after, low_pushAll], ?_,
    b.findOrNull_pushAll_eq valid room num⟩
  rw [highnum_val _ after, high_pushAll]
  simp only [List.length_append, List.length_reverse]
  omega

/-- Two new messages and one history message pushed around three messages. -/
theorem findOrNull_after_three_pushes :
    let b : Messages Nat := ⟨wrap 5, [10, 11], [9]⟩
    let ops : List (Push Nat) := [.forward 12, .back 8, .forward 13]
    b.Valid ∧ b.Room ops ∧
      let sequence := (Push.backs ops).reverse ++ b.toList ++ Push.forwards ops
      let first : Int := b.low - (Push.backs ops).length
      (b.pushAll ops).Valid ∧ (b.pushAll ops).lownum.val = first ∧
        (b.pushAll ops).highnum.val = first + sequence.length - 1 ∧
        (b.pushAll ops).findOrNull (wrap 3) =
          if first ≤ (wrap 3).val then sequence[((wrap 3).val - first).toNat]? else none := by
  intro b ops
  have valid : b.Valid := ⟨by decide, by decide, by decide, by decide⟩
  have room : b.Room ops := ⟨by decide, by decide, by decide⟩
  exact ⟨valid, room, findOrNull_pushAll b valid ops room (wrap 3)⟩

/-- A run within `Room` from a valid buffer moves and loses no message, and finds each pushed
message at the number it was given: the `i`-th new message at `highnum() + 1 + i`, the `i`-th
history message at `lownum() - 1 - i`. -/
theorem pushAll_numbers (valid : b.Valid) (ops : List (Push Message)) (room : b.Room ops) :
    (∀ (num : Idx) (msg : Message), b.findOrNull num = some msg →
      (b.pushAll ops).findOrNull num = some msg) ∧
    (∀ i < (Push.forwards ops).length, (b.pushAll ops).findOrNull (wrap (b.high + 1 + i)) =
      (Push.forwards ops)[i]?) ∧
    (∀ i < (Push.backs ops).length, (b.pushAll ops).findOrNull (wrap (b.low - 1 - i)) =
      (Push.backs ops)[i]?) := by
  have length := b.length_toList
  have lowEq : b.low = b.mForwardStart.val - b.mBackwardList.length := rfl
  have highEq : b.high = b.mForwardStart.val + b.mForwardList.length - 1 := rfl
  have range := room.high_le
  have range' := room.low_ge
  have := valid.high_ge
  have := b.low_le_max
  refine ⟨fun num msg found => ?_, fun i inRange => ?_, fun i inRange => ?_⟩
  · rw [findOrNull_eq_get?_of_valid _ valid] at found
    have inside := (b.get?_isSome_iff num.val).mp (by simp [found])
    rw [b.findOrNull_pushAll_eq valid room num, if_pos (by omega), ← found, get?,
      if_pos inside.1, List.append_assoc, List.getElem?_append_right (by simp; omega),
      List.getElem?_append_left (by simp only [List.length_reverse]; omega)]
    congr 1
    simp only [List.length_reverse]
    omega
  · rw [b.findOrNull_pushAll_eq valid room _, wrap_val_of_mem (by omega) (by omega),
      if_pos (by omega), List.getElem?_append_right (by simp; omega)]
    congr 1
    simp only [List.length_append, List.length_reverse]
    omega
  · rw [b.findOrNull_pushAll_eq valid room _, wrap_val_of_mem (by omega) (by omega),
      if_pos (by omega), List.append_assoc,
      List.getElem?_append_left (by simp only [List.length_reverse]; omega),
      List.getElem?_reverse (by omega)]
    congr 1
    omega

/-- The same run: the three old messages keep their numbers, the new ones follow `highnum()`
and the history message precedes `lownum()`. -/
theorem pushAll_numbers_of_three :
    let b : Messages Nat := ⟨wrap 5, [10, 11], [9]⟩
    let ops : List (Push Nat) := [.forward 12, .back 8, .forward 13]
    b.Valid ∧ b.Room ops ∧
    (∀ (num : Idx) (msg : Nat), b.findOrNull num = some msg →
      (b.pushAll ops).findOrNull num = some msg) ∧
    (∀ i < (Push.forwards ops).length, (b.pushAll ops).findOrNull (wrap (b.high + 1 + i)) =
      (Push.forwards ops)[i]?) ∧
    (∀ i < (Push.backs ops).length, (b.pushAll ops).findOrNull (wrap (b.low - 1 - i)) =
      (Push.backs ops)[i]?) := by
  intro b ops
  have valid : b.Valid := ⟨by decide, by decide, by decide, by decide⟩
  have room : b.Room ops := ⟨by decide, by decide, by decide⟩
  exact ⟨valid, room, pushAll_numbers b valid ops room⟩

end Messages

end MegaChat
