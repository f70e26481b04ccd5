import TypedText.Text.CodePoints
import TypedText.Unicode.Casing

/-!
# TypedText.CaseMapper

Changing the case of spans of text under a locale. A `CaseMapper` is any pair of functions that do
so; `CaseMapper.unicode` is the one used unless another is given. It joins pairs, applies the rules
of Turkish and Azerbaijani if the locale asks for them, and then the full Unicode mapping.

In the Turkic languages `i` and `I` are not each other's case: the dotted letters `i`, `İ` belong
together, and the dotless ones `ı`, `I`. A decomposed dotted capital is `I` and a combining dot.
-/

namespace TypedText

/-- A locale tag such as `tr_TR` or `tr-TR`, or none. -/
abbrev Locale := Option Text

namespace Locale

/-- The language of a tag, in lower case; empty without a tag. -/
def language : Locale → Text
  | none => []
  | some tag => Text.lowerRoot (tag.takeWhile fun c => c.val ≠ 0x2D && c.val ≠ 0x5F)

def isTurkic (l : Locale) : Bool :=
  l.language == Text.ofString "tr" || l.language == Text.ofString "az"

end Locale

namespace Turkic

def dottedCapital : CodePoint := 0x130

def dotlessSmall : CodePoint := 0x131

def dotCapitals (t : Text) : Text :=
  t.map fun c => if c.val = 0x69 then dottedCapital else c

/-- Every `I` that a combining dot follows is `i`, and the dot goes with it. -/
def composeDots : Text → Text
  | c :: d :: rest =>
    if c.val = 0x49 ∧ d.val = 0x307 then 0x69 :: composeDots rest
    else c :: composeDots (d :: rest)
  | t => t

def lowerCapitals (t : Text) : Text :=
  t.map fun c =>
    if c = dottedCapital then 0x69
    else if c.val = 0x49 then dotlessSmall
    else c

end Turkic

structure CaseMapper where
  uppercase : Locale → Text → Except TextError Text
  lowercase : Locale → Text → Except TextError Text

inductive LetterCase
  | upper
  | lower
  deriving DecidableEq, Repr

namespace CaseMapper

def map (m : CaseMapper) : LetterCase → Locale → Text → Except TextError Text
  | .upper => m.uppercase
  | .lower => m.lowercase

/-- Full Unicode mapping with the Turkic rules. -/
def unicode : CaseMapper where
  uppercase locale t :=
    match t.joinPairs with
    | .error e => .error e
    | .ok t => .ok (if locale.isTurkic then Turkic.dotCapitals t else t).upperRoot
  lowercase locale t :=
    match t.joinPairs with
    | .error e => .error e
    | .ok t =>
      .ok (if locale.isTurkic then Turkic.lowerCapitals (Turkic.composeDots t) else t).lowerRoot

/-- Marks the spans instead of mapping them, so that a result shows what was handed over. -/
def marking : CaseMapper where
  uppercase _ t := .ok (Text.ofString "U(" ++ t ++ Text.ofString ")")
  lowercase _ t := .ok (Text.ofString "L(" ++ t ++ Text.ofString ")")

end CaseMapper
end TypedText
