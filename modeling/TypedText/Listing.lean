import TypedText.Text

/-!
# TypedText.Listing

Lists written out for debugging: the elements between brackets, `null` for one that is missing and
for a list that is missing. How an element is written is a parameter.
-/

namespace TypedText
namespace Listing

inductive Element
  | int (n : Int)
  | bool (b : Bool)
  | text (t : Text)
  deriving DecidableEq, Repr

namespace Element

def plain : Element → Text
  | int n => Text.ofString (toString n)
  | bool true => Text.ofString "True"
  | bool false => Text.ofString "False"
  | text t => t

def hexOfInt (n : Int) : String :=
  (if n < 0 then "-0x" else "0x") ++ String.ofList (Nat.toDigits 16 n.natAbs)

/-- Numbers in hexadecimal; a truth value counts as a number. -/
def hexadecimal : Element → Text
  | int n => Text.ofString (hexOfInt n)
  | bool b => Text.ofString (hexOfInt (if b then 1 else 0))
  | text t => t

end Element

def null : Text :=
  Text.ofString "null"

/-- Without a delimiter, a comma and a space separate the elements. -/
def render (write : Element → Text) (delimiter : Option Text) :
    Option (List (Option Element)) → Text
  | none => null
  | some elements =>
    let separator := delimiter.getD (Text.ofString ", ")
    0x5B :: Text.intercalate separator (elements.map fun e => (e.map write).getD null) ++ [0x5D]

end Listing
end TypedText
