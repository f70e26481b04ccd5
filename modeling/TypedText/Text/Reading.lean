import TypedText.TextError

/-!
# TypedText.Text.Reading

Reading units as code points, one code point at a time, in either direction. Reading backward
is reading the reversed units forward, with the halves of a pair in the other order, so one
definition serves both.

* `split?`: the first code point of a stretch of units, and the units after it.
* `read`: all code points up to the first unit that starts none. What is left unread is empty
  exactly when every surrogate unit of the stretch is half of a pair; otherwise it starts with
  the first unpaired one.
* `skip`: the same walk, when only a number of code points is to be passed.
-/

namespace TypedText

inductive Direction
  | forward
  | backward
  deriving DecidableEq, Repr

namespace Direction

def join? : Direction → CodePoint → CodePoint → Option CodePoint
  | forward, u, v => CodePoint.join? u v
  | backward, u, v => CodePoint.join? v u

end Direction

/-- The code points read from a stretch of units, and the units that were not read. -/
structure Reading where
  codePoints : List CodePoint
  unread : Text
  deriving DecidableEq, Repr

namespace Reading

def cons (c : CodePoint) (r : Reading) : Reading :=
  { r with codePoints := c :: r.codePoints }

end Reading

namespace Text

/-- The first code point met and the units after it; `none` at an unpaired surrogate and at the
end of the units. -/
def split? (d : Direction) : Text → Option (CodePoint × Text)
  | [] => none
  | u :: rest =>
    if u.isSurrogate then
      match rest with
      | [] => none
      | v :: rest => (d.join? u v).map (·, rest)
    else some (u, rest)

/-- Reads until the units end or an unpaired surrogate is met. -/
def read (d : Direction) : Text → Reading
  | [] => ⟨[], []⟩
  | u :: rest =>
    if u.isSurrogate then
      match rest with
      | [] => ⟨[], [u]⟩
      | v :: rest' =>
        match d.join? u v with
        | some c => (read d rest').cons c
        | none => ⟨[], u :: v :: rest'⟩
    else (read d rest).cons u

/-- Passes up to `n` code points: how many of the `n` could not be passed, and the units left. -/
def skip (d : Direction) : Nat → Text → Nat × Text
  | 0, t => (0, t)
  | n + 1, t =>
    match t.split? d with
    | none => (n + 1, t)
    | some (_, rest) => skip d n rest

end Text

namespace Reading

def faultForward? (stop : Nat) (r : Reading) : Option TextError :=
  match r.unread with
  | [] => none
  | u :: rest => some (.unpaired u (stop - (rest.length + 1)))

def faultBackward? (r : Reading) : Option TextError :=
  match r.unread with
  | [] => none
  | u :: rest => some (.unpaired u rest.length)

/-- What a scan answers that has stopped with `early`, or has seen all code points without
stopping and answers `atEnd` if nothing cut the reading short. -/
def verdict {α : Type} (fault? : Option TextError) (early : Option α) (atEnd : α) :
    Except TextError α :=
  match early with
  | some a => .ok a
  | none =>
    match fault? with
    | none => .ok atEnd
    | some e => .error e

end Reading

end TypedText
