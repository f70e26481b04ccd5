import TypedText.Text.Reading

/-!
# TypedText.Text.Position

Positions in a text are indexes of units, from `0` to the length. Moves are counted in code
points, and a move never stops between the halves of a pair that it crossed.

* `codePointAt`, `codePointBefore`: the code point that starts, or ends, at an index.
* `offset`: the index that lies a number of code points further on, or further back.
-/

namespace TypedText
namespace Text

def codePointAt (t : Text) (index : Int) : Except TextError CodePoint :=
  if 0 ≤ index ∧ index < t.length then
    match t.drop index.toNat with
    | [] => .error (.indexOutOfRange index t.length)
    | u :: rest =>
      match split? .forward (u :: rest) with
      | some (c, _) => .ok c
      | none => .error (.unpaired u index.toNat)
  else .error (.indexOutOfRange index t.length)

def codePointBefore (t : Text) (index : Int) : Except TextError CodePoint :=
  if 0 < index ∧ index ≤ t.length then
    match (t.take index.toNat).reverse with
    | [] => .error (.indexOutOfRange index t.length)
    | u :: rest =>
      match split? .backward (u :: rest) with
      | some (c, _) => .ok c
      | none => .error (.unpaired u (index.toNat - 1))
  else .error (.indexOutOfRange index t.length)

/-- The index `count` code points after `index`. -/
def advance (t : Text) (index count : Nat) : Except TextError Nat :=
  match skip .forward count (t.drop index) with
  | (0, rest) => .ok (t.length - rest.length)
  | (_, []) => .error .pastEnd
  | (_, u :: rest) => .error (.unpaired u (t.length - (rest.length + 1)))

/-- The index `count` code points before `index`. -/
def retreat (t : Text) (index count : Nat) : Except TextError Nat :=
  match skip .backward count (t.take index).reverse with
  | (0, rest) => .ok rest.length
  | (_, []) => .error .pastStart
  | (_, u :: rest) => .error (.unpaired u rest.length)

/-- Moves `index` by a number of code points; a negative number moves it back. -/
def offset (t : Text) (index count : Int) : Except TextError Nat :=
  if 0 ≤ index ∧ index ≤ t.length then
    if 0 ≤ count then t.advance index.toNat count.toNat
    else t.retreat index.toNat count.natAbs
  else .error (.indexOutOfRange index t.length)

end Text
end TypedText
