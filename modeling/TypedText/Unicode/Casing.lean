import TypedText.Text
import TypedText.Unicode.CaseIgnorable
import TypedText.Unicode.CaseMappings
import TypedText.Unicode.CasedLetters

/-!
# TypedText.Unicode.Casing

Full case mapping of texts, as the Unicode standard defines it for no language in particular. Upper
case is taken code point by code point. So is lower case, except for capital sigma, which becomes a
final sigma where a cased letter comes before it and none after it.

Surrogate units have no case and are kept, so a caller that wants pairs mapped joins them first.
-/

namespace TypedText
namespace Unicode

def isUppercase (c : CodePoint) : Bool :=
  Run.mem c.val uppercase

def isLowercase (c : CodePoint) : Bool :=
  Run.mem c.val lowercase

def isCased (c : CodePoint) : Bool :=
  isUppercase c || isLowercase c || Run.mem c.val titlecase

def isCaseIgnorable (c : CodePoint) : Bool :=
  Run.mem c.val caseIgnorable

/-- What a code point is mapped to by shifted runs and by expansions to several code points; one
that no entry names stays as it is. -/
def mapped (shifts : List ShiftRun) (expansions : List (Nat × List Nat)) (c : CodePoint) : Text :=
  match ShiftRun.find? c.val shifts with
  | some n => [.ofNat n]
  | none =>
    match expansions.lookup c.val with
    | some ns => ns.map CodePoint.ofNat
    | none => [c]

def upperForm (c : CodePoint) : Text :=
  mapped upperShifts upperExpansions c

/-- The lower-case form of a code point outside any context. -/
def lowerForm (c : CodePoint) : Text :=
  mapped lowerShifts lowerExpansions c

def capitalSigma : CodePoint := 0x3A3

def smallSigma : CodePoint := 0x3C3

def finalSigma : CodePoint := 0x3C2

def startsCased : Text → Bool
  | [] => false
  | c :: rest => if isCaseIgnorable c then startsCased rest else isCased c

/-- Whether a text ends with a cased code point, not counting case-ignorable ones, when `c` is
added to one of which this is known. -/
def endsCased (before : Bool) (c : CodePoint) : Bool :=
  if isCaseIgnorable c then before else isCased c

/-- The lower-case form of a text that follows one known to end, or not to end, cased. -/
def lowerAfter (before : Bool) : Text → Text
  | [] => []
  | c :: rest =>
    (if c = capitalSigma then [if before && !startsCased rest then finalSigma else smallSigma]
     else lowerForm c) ++ lowerAfter (endsCased before c) rest

end Unicode

namespace Text

def upperRoot (t : Text) : Text :=
  t.flatMap Unicode.upperForm

def lowerRoot (t : Text) : Text :=
  Unicode.lowerAfter false t

end Text
end TypedText
