import TypedText.Text.Reading

/-!
# TypedText.Text.CodePoints

A text as the list of its code points, and back.

* `readRange`: the code points of a range of units, as far as they can be read.
* `toCodePoints`, `codePointCount`, `joinPairs`: of a range, or of the whole text, when nothing
  in it is unpaired.
* `ofNullTerminated`: the text of the numbers before the first zero.
-/

namespace TypedText

/-- Numbers that are code points, as code points; the first one that is not is reported. -/
def CodePoint.ofInts : List Int → Except TextError (List CodePoint)
  | [] => .ok []
  | n :: rest =>
    match CodePoint.ofInt? n with
    | none => .error (.invalidCodePoint n)
    | some c =>
      match CodePoint.ofInts rest with
      | .error e => .error e
      | .ok cs => .ok (c :: cs)

namespace Text

def validRange (t : Text) (start stop : Int) : Bool :=
  0 ≤ start && start ≤ stop && stop ≤ t.length

/-- The code points of a valid range up to the first unpaired surrogate, and that surrogate if
there is one. A pair cut by an end of the range counts as unpaired. -/
def readRange (t : Text) (start stop : Int) :
    Except TextError (List CodePoint × Option TextError) :=
  if t.validRange start stop then
    let r := read .forward (t.slice start.toNat stop.toNat)
    .ok (r.codePoints, r.faultForward? stop.toNat)
  else .error (.invalidRange start stop t.length)

def reading (t : Text) : List CodePoint × Option TextError :=
  let r := read .forward t
  (r.codePoints, r.faultForward? t.length)

/-- The code points of a range. The range is not looked at when the text is empty, and the units of
a text without surrogates are taken as they are. -/
def toCodePoints (t : Text) (start stop : Int) : Except TextError (List CodePoint) :=
  if t.isEmpty then .ok []
  else if t.hasSurrogate then
    match t.readRange start stop with
    | .error e => .error e
    | .ok (cs, none) => .ok cs
    | .ok (_, some e) => .error e
  else if t.validRange start stop then .ok (t.slice start.toNat stop.toNat)
  else .error (.invalidRange start stop t.length)

def codePoints (t : Text) : Except TextError (List CodePoint) :=
  if t.hasSurrogate then
    match t.reading with
    | (cs, none) => .ok cs
    | (_, some e) => .error e
  else .ok t

def codePointCount (t : Text) : Except TextError Nat :=
  t.codePoints.map List.length

/-- The text with every pair replaced by the one unit it stands for. -/
def joinPairs (t : Text) : Except TextError Text :=
  t.codePoints

def sortedCodePoints (t : Text) : Except TextError (List CodePoint) :=
  t.codePoints.map (·.mergeSort fun c d => c.val ≤ d.val)

/-- The text of the numbers before the first zero, which ends the list early if it is there. -/
def ofNullTerminated (numbers : List Int) : Except TextError Text :=
  CodePoint.ofInts (numbers.takeWhile (· ≠ 0))

end Text
end TypedText
