import TypedText.Character
import TypedText.Text.CodePoints

/-!
# TypedText.Text.Buffer

Copying code points into a buffer of fixed size. The buffer never grows: when the code points
do not fit, those that fit have been written and the copy fails.

A buffer cell may hold any number, since a caller may hand over what it likes; `copy` itself only
writes code points.

* `Text.copy`: what a copy writes, and whether it succeeds.
* `BufferStep.apply`, `BufferStep.applyAll`: the cells after a copy or after they have been cleared, and
  after one step after the other.
-/

namespace TypedText

/-- What a copy leaves behind: how many code points it copied or why it failed, and the buffer. -/
structure BufferCopy where
  outcome : Except TextError Nat
  buffer : List Int

namespace Text

def overwrite : List Int → List Int → List Int
  | n :: numbers, _ :: cells => n :: overwrite numbers cells
  | _, cells => cells

/-- Copies the code points of a range to the start of the buffer, each in lower case if asked. -/
def copy (t : Text) (start stop : Int) (lower : Bool) (buffer : List Int) : BufferCopy :=
  match t.readRange start stop with
  | .error e => ⟨.error e, buffer⟩
  | .ok (cs, fault?) =>
    let numbers := cs.map fun c => if lower then (c.toLower.val : Int) else (c.val : Int)
    let outcome :=
      if buffer.length < cs.length then .error (.bufferTooSmall buffer.length start stop)
      else
        match fault? with
        | some e => .error e
        | none => .ok cs.length
    ⟨outcome, overwrite numbers buffer⟩

end Text

/-- What is done to a buffer: a text is copied into it, or all its cells are set to zero. -/
inductive BufferStep where
  | copy (t : Text) (start stop : Int) (lower : Bool)
  | clear
  deriving DecidableEq, Repr

namespace BufferStep

def apply (cells : List Int) : BufferStep → List Int
  | copy t start stop lower => (t.copy start stop lower cells).buffer
  | clear => cells.map fun _ => 0

def applyAll (cells : List Int) (steps : List BufferStep) : List Int :=
  steps.foldl apply cells

end BufferStep
end TypedText
