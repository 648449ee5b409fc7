import MegaChat.Chatd.Idx

/-!
# The message buffer of a chat

`chatd::Messages` keeps a chat's history in two vectors around the pivot `mForwardStart`:
`mForwardList[i]` holds the message numbered `mForwardStart + i` and `mBackwardList[i]` the
one numbered `mForwardStart - 1 - i`. New messages are appended to the forward vector, history
to the backward one. A `Message*` of the buffer is modelled by a value of `Message`, and the
`nullptr` that `findOrNull` returns by `none`. The other members of `Messages` (send queue,
id map, history-fetch state) are not read by these functions and are left out.
-/

namespace MegaChat

open Idx

/-- The index-carrying part of `chatd::Messages`. -/
structure Messages (Message : Type) where
  mForwardStart : Idx
  mForwardList : List Message
  mBackwardList : List Message
  deriving DecidableEq

namespace Messages

variable {Message : Type} (b : Messages Message)

/-- `push_forward`: a new message goes to the end of the forward vector. -/
def pushForward (msg : Message) : Messages Message :=
  { b with mForwardList := b.mForwardList ++ [msg] }

/-- `push_back`: a history message goes to the end of the backward vector. -/
def pushBack (msg : Message) : Messages Message :=
  { b with mBackwardList := b.mBackwardList ++ [msg] }

/-- `first()`; the C++ reads `back()` of an empty vector when the buffer is empty. -/
def first : Option Message :=
  if !b.mBackwardList.isEmpty then b.mBackwardList.head? else b.mForwardList.getLast?

/-- `last()`; the C++ reads `back()` of an empty vector when the buffer is empty. -/
def last : Option Message :=
  if !b.mForwardList.isEmpty then b.mForwardList.head? else b.mBackwardList.getLast?

/-- `lownum()`: `mForwardStart - mBackwardList.size()`, computed in `size_t` and stored as an
`Idx`, which is the integer difference wrapped. -/
def lownum : Idx := wrap (b.mForwardStart.val - b.mBackwardList.length)

/-- `highnum()`: `mForwardStart + mForwardList.size() - 1`, likewise. -/
def highnum : Idx := wrap (b.mForwardStart.val + b.mForwardList.length - 1)

/-- `size()`. -/
def size : Idx := wrap (b.mForwardList.length + b.mBackwardList.length)

/-- `empty()`. -/
def empty : Bool := b.mForwardList.isEmpty && b.mBackwardList.isEmpty

/-- `findOrNull(num)`: the offset into the vector on `num`'s side of the pivot is computed as
an `Idx` and compared, as a `size_t`, with that vector's size. -/
def findOrNull (num : Idx) : Option Message :=
  if num.val < b.mForwardStart.val then
    b.mBackwardList[(wrap (b.mForwardStart.val - num.val - 1)).toSize]?
  else
    b.mForwardList[(wrap (num.val - b.mForwardStart.val)).toSize]?

/-- `at(num)`, also `operator[]`: the message, or the `runtime_error` it throws. -/
def «at» (num : Idx) : Except String Message :=
  match b.findOrNull num with
  | some msg => .ok msg
  | none => .error ("Messages::operator[idx]: idx = " ++ toString num.val ++
      " is outside of [lownum:highnum] range")

/-- `hasNum(num)`: below the pivot the `int` difference `mForwardStart - num` is compared with
the backward size; otherwise `num` and `mForwardStart + mForwardList.size()` are compared as
`size_t`. -/
def hasNum (num : Idx) : Bool :=
  if num.val < b.mForwardStart.val then
    decide ((wrap (b.mForwardStart.val - num.val)).toSize ≤ b.mBackwardList.length)
  else
    decide (num.toSize <
      (b.mForwardStart.toSize + b.mForwardList.length) % 18446744073709551616)

@[simp]
theorem pushForward_mForwardStart (msg : Message) :
    (b.pushForward msg).mForwardStart = b.mForwardStart := rfl

@[simp]
theorem pushForward_mForwardList (msg : Message) :
    (b.pushForward msg).mForwardList = b.mForwardList ++ [msg] := rfl

@[simp]
theorem pushForward_mBackwardList (msg : Message) :
    (b.pushForward msg).mBackwardList = b.mBackwardList := rfl

@[simp]
theorem pushBack_mForwardStart (msg : Message) :
    (b.pushBack msg).mForwardStart = b.mForwardStart := rfl

@[simp]
theorem pushBack_mForwardList (msg : Message) :
    (b.pushBack msg).mForwardList = b.mForwardList := rfl

@[simp]
theorem pushBack_mBackwardList (msg : Message) :
    (b.pushBack msg).mBackwardList = b.mBackwardList ++ [msg] := rfl

/-- `at` returns what `findOrNull` finds and throws exactly when it finds nothing. -/
theorem at_toOption (num : Idx) : (b.«at» num).toOption = b.findOrNull num := by
  unfold «at»
  split <;> simp_all [Except.toOption]

end Messages

end MegaChat
