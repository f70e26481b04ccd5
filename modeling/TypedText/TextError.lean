import TypedText.Text

/-!
# TypedText.TextError

What can be wrong with a text, an index into it, or a number that should be a code point. Each
cause is a constructor with what the message reports; `TextError.message` is the one place that
words it.
-/

namespace TypedText

inductive TextError
  /-- A surrogate unit that is not half of a pair, and its index in the whole text. -/
  | unpaired (unit : CodePoint) (index : Nat)
  | invalidRange (start stop : Int) (length : Nat)
  | indexOutOfRange (index : Int) (length : Nat)
  /-- A walk that needs more code points than follow the index. -/
  | pastEnd
  /-- A walk that needs more code points than precede the index. -/
  | pastStart
  | bufferTooSmall (size : Nat) (start stop : Int)
  | invalidCodePoint (number : Int)
  /-- A number that has no character properties, because it is no code point. -/
  | noSuchCharacter (number : Int)
  deriving DecidableEq, Repr

namespace TextError

def upperHexDigit (n : Nat) : Char :=
  if n < 10 then Char.ofNat (0x30 + n) else Char.ofNat (0x37 + n)

def hex4 (n : Nat) : String :=
  String.ofList [upperHexDigit (n / 0x1000 % 16), upperHexDigit (n / 0x100 % 16),
    upperHexDigit (n / 0x10 % 16), upperHexDigit (n % 16)]

def message : TextError → String
  | unpaired unit index => s!"Unpaired surrogate U+{hex4 unit.val} at index {index}"
  | invalidRange start stop length =>
    s!"Invalid range [{start}, {stop}) for text of length {length}"
  | indexOutOfRange index length => s!"Index {index} out of range for text of length {length}"
  | pastEnd => "Offset runs past the end of the text"
  | pastStart => "Offset runs past the start of the text"
  | bufferTooSmall size start stop =>
    s!"Destination of size {size} is too small for text range [{start}, {stop})"
  | invalidCodePoint number => s!"Invalid code point: {number}"
  | noSuchCharacter _ => "chr() arg not in range(0x110000)"

end TextError

end TypedText
