import TypedText.Text

/-!
# TypedText.Ascii

The characters that numbers, options, tags and other formats are written in, whatever language the
text around them is in.
-/

namespace TypedText
namespace Ascii

def isDigit (c : CodePoint) : Bool :=
  0x30 ≤ c.val && c.val ≤ 0x39

def isCapital (c : CodePoint) : Bool :=
  0x41 ≤ c.val && c.val ≤ 0x5A

def isSmall (c : CodePoint) : Bool :=
  0x61 ≤ c.val && c.val ≤ 0x7A

/-- Whether the code point is one of the characters of a string. -/
def isAnyOf (s : String) (c : CodePoint) : Bool :=
  s.toList.any fun d => d.toNat == c.val

/-- The text with small letters for capitals. -/
def lower (t : Text) : Text :=
  t.map fun c => if isCapital c then CodePoint.ofNat (c.val + 0x20) else c

end Ascii
end TypedText
