import TypedText.TextError
import TypedText.Unicode.Casing
import TypedText.Unicode.Letters
import TypedText.Unicode.Spaces

/-!
# TypedText.Character

What the classifiers ask of a single code point: whether it is a letter, has a case, is a digit
or whitespace, and its lower-case form when it may only be one code point long.

`Character.ofNumber` asks any such question of a number that may turn out to be no code point.
-/

namespace TypedText
namespace CodePoint

def isLetter (c : CodePoint) : Bool :=
  Unicode.Run.mem c.val Unicode.letters

/-- A title-case letter is neither upper nor lower case. -/
def isUpper (c : CodePoint) : Bool :=
  Unicode.isUppercase c

def isLower (c : CodePoint) : Bool :=
  Unicode.isLowercase c

def isDigit (c : CodePoint) : Bool :=
  Unicode.Run.mem c.val Unicode.decimalDigits

/-- Controls that count as whitespace: tab to carriage return, and the four separators. -/
def isWhitespaceControl (c : CodePoint) : Bool :=
  (0x09 ≤ c.val && c.val ≤ 0x0D) || (0x1C ≤ c.val && c.val ≤ 0x1F)

def isNoBreakSpace (c : CodePoint) : Bool :=
  c.val == 0xA0 || c.val == 0x2007 || c.val == 0x202F

/-- Separators that allow a line break, and the whitespace controls. -/
def isWhitespace (c : CodePoint) : Bool :=
  isWhitespaceControl c ||
    (!isNoBreakSpace c && Unicode.Run.mem c.val Unicode.separators)

def toLower (c : CodePoint) : CodePoint :=
  (Unicode.lowerForm c).headD c

end CodePoint

namespace Character

/-- The answer for the code point with this number. -/
def ofNumber {α : Type} (ask : CodePoint → α) (n : Int) : Except TextError α :=
  match CodePoint.ofInt? n with
  | some c => .ok (ask c)
  | none => .error (.noSuchCharacter n)

end Character
end TypedText
