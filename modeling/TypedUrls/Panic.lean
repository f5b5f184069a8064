import TypedUrls.Text.Basic

/-!
# Reads that stop a pass

A few reads of the generator are checked as the standard library checks them, and stop the
whole pass when they fail: reading a sequence at a position past its end (`readAt`), taking a
sequence from a start past its end (`sliceFrom`), and cutting a text at byte offsets where no
character starts (`Text.slice`). A pass runs isolated, so such a failure becomes an error
diagnostic of its family; a `Panic` says which read failed.

Each read has its lemma for the case where it succeeds, so that a proof that it never fails
reads the value and moves on.
-/

namespace TypedUrls

/-- A read that failed, and so stopped its pass. -/
inductive Panic where
  /-- A position past the end of a sequence of `length` elements. -/
  | indexOutOfBounds (index length : Nat)
  /-- A start past the end of a sequence of `length` elements. -/
  | sliceStartOutOfRange (start length : Nat)
  /-- Byte offsets of a text that do not both fall where a character starts, or the end, in
  order. -/
  | notCharBoundary (start stop : Nat)
deriving DecidableEq, Repr

/-- The message a failed read stops with. -/
def Panic.message : Panic → String
  | .indexOutOfBounds index length =>
    "index out of bounds: the len is " ++ toString length ++ " but the index is " ++ toString index
  | .sliceStartOutOfRange start length =>
    "range start index " ++ toString start ++ " out of range for slice of length " ++
      toString length
  | .notCharBoundary start stop =>
    "byte range " ++ toString start ++ ".." ++ toString stop ++ " is not a char boundary"

/-- The element at `position`; a position past the end stops the pass. -/
def readAt {α : Type} (xs : List α) (position : Nat) : Except Panic α :=
  match xs[position]? with
  | some x => .ok x
  | none => .error (.indexOutOfBounds position xs.length)

/-- The elements from `start` on; a start past the end stops the pass. -/
def sliceFrom {α : Type} (xs : List α) (start : Nat) : Except Panic (List α) :=
  if start ≤ xs.length then .ok (xs.drop start) else .error (.sliceStartOutOfRange start xs.length)

/-- The characters of a text between the byte offsets `start` and `stop`; offsets out of order,
past the end or inside a character stop the pass. -/
def Text.slice (cs : List Char) (start stop : Nat) : Except Panic (List Char) :=
  match Text.splitAtByte? cs start with
  | some (_, rest) =>
    if start ≤ stop then
      match Text.splitAtByte? rest (stop - start) with
      | some (middle, _) => .ok middle
      | none => .error (.notCharBoundary start stop)
    else .error (.notCharBoundary start stop)
  | none => .error (.notCharBoundary start stop)

theorem readAt_of_lt {α : Type} {xs : List α} {position : Nat} (h : position < xs.length) :
    readAt xs position = .ok xs[position] := by
  rw [readAt, List.getElem?_eq_getElem h]

theorem sliceFrom_of_le {α : Type} {xs : List α} {start : Nat} (h : start ≤ xs.length) :
    sliceFrom xs start = .ok (xs.drop start) := by
  rw [sliceFrom, if_pos h]

/-- A text cut at the bytes before and after a middle part gives that part. -/
theorem Text.slice_append (a b c : List Char) :
    Text.slice (a ++ b ++ c) (byteLength a) (byteLength a + byteLength b) = .ok b := by
  rw [Text.slice, List.append_assoc, splitAtByte?_append_self]
  dsimp only
  rw [if_pos (Nat.le_add_right _ _), Nat.add_sub_cancel_left, splitAtByte?_append_self]

end TypedUrls
