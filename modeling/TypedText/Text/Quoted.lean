import TypedText.Text
import TypedText.Unicode.Printable

/-!
# TypedText.Text.Quoted

Texts quoted for messages and log lines, so that every unit can be told from what is shown. The
quote is single, unless the text holds single quotes and no double ones. The quote itself and the
backslash are escaped by a backslash; line feed, carriage return and tab by a letter; whatever is
not printable by its number in two, four or eight hexadecimal digits.
-/

namespace TypedText
namespace Text

def isPrintable (c : CodePoint) : Bool :=
  Unicode.Run.mem c.val Unicode.printable

/-- The last `width` hexadecimal digits of a number, in small letters. -/
def hexDigits : Nat → Nat → Text
  | 0, _ => []
  | width + 1, n =>
    hexDigits width (n / 16) ++ [CodePoint.ofChar (Nat.digitChar (n % 16))]

/-- A unit by its number, in as few of two, four and eight digits as hold it. -/
def numericEscape (c : CodePoint) : Text :=
  if c.val ≤ 0xFF then Text.ofString "\\x" ++ hexDigits 2 c.val
  else if c.val ≤ 0xFFFF then Text.ofString "\\u" ++ hexDigits 4 c.val
  else Text.ofString "\\U" ++ hexDigits 8 c.val

def quotedUnit (quote c : CodePoint) : Text :=
  if c = quote ∨ c.val = 0x5C then [0x5C, c]
  else if c.val = 0x0A then Text.ofString "\\n"
  else if c.val = 0x0D then Text.ofString "\\r"
  else if c.val = 0x09 then Text.ofString "\\t"
  else if isPrintable c then [c]
  else numericEscape c

/-- The single quote, unless it would have to be escaped and the double quote would not. -/
def quoteFor (t : Text) : CodePoint :=
  if t.any (·.val = 0x27) && !t.any (·.val = 0x22) then 0x22 else 0x27

def quoted (t : Text) : Text :=
  let quote := t.quoteFor
  quote :: t.flatMap (quotedUnit quote) ++ [quote]

end Text
end TypedText
