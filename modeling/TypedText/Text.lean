/-!
# TypedText.Text

Texts as an input method stores them: sequences of storage units. A unit is any code point, the
surrogates included, and two adjacent units, a high surrogate and a low one, are a *pair* that
stands for one code point above `0xFFFF`. The same characters can therefore be stored in more
than one way, and all indexes and lengths count units.

* `CodePoint`, `Text`: the two types everything else is about.
* `CodePoint.join?`: the code point a pair stands for.
-/

namespace TypedText

/-- A code point: an integer up to `0x10FFFF`, the surrogates included. -/
@[ext]
structure CodePoint where
  val : Nat
  isLt : val < 0x110000
  deriving DecidableEq, Repr

/-- A text is its storage units, first one first. -/
abbrev Text := List CodePoint

namespace CodePoint

def ofNat (n : Nat) : CodePoint :=
  ⟨n % 0x110000, Nat.mod_lt n (by decide)⟩

instance (n : Nat) : OfNat CodePoint n :=
  ⟨ofNat n⟩

def ofChar (c : Char) : CodePoint :=
  ⟨c.toNat, by
    rcases c.valid with h | h
    · exact Nat.lt_trans h (by decide)
    · exact h.2⟩

def ofInt? (n : Int) : Option CodePoint :=
  if h : 0 ≤ n ∧ n < 0x110000 then some ⟨n.toNat, by omega⟩ else none

def toChar? (c : CodePoint) : Option Char :=
  if h : c.val.isValidChar then some (Char.ofNatAux c.val h) else none

def isHigh (c : CodePoint) : Bool :=
  0xD800 ≤ c.val && c.val ≤ 0xDBFF

def isLow (c : CodePoint) : Bool :=
  0xDC00 ≤ c.val && c.val ≤ 0xDFFF

def isSurrogate (c : CodePoint) : Bool :=
  0xD800 ≤ c.val && c.val ≤ 0xDFFF

/-- The high unit carries the upper ten bits of the distance from `0x10000`, the low one the
lower ten. -/
def join (high low : CodePoint) : CodePoint :=
  ⟨0x10000 + (high.val % 0x400) * 0x400 + low.val % 0x400, by omega⟩

def join? (high low : CodePoint) : Option CodePoint :=
  if high.isHigh && low.isLow then some (join high low) else none

end CodePoint

namespace Text

def ofString (s : String) : Text :=
  s.toList.map CodePoint.ofChar

def toString? (t : Text) : Option String :=
  (List.mapM CodePoint.toChar? t).map String.ofList

def hasSurrogate (t : Text) : Bool :=
  t.any CodePoint.isSurrogate

def slice (t : Text) (start stop : Nat) : Text :=
  (t.drop start).take (stop - start)

/-- The parts joined, with `separator` between neighbours. -/
def intercalate (separator : Text) : List Text → Text
  | [] => []
  | [part] => part
  | part :: parts => part ++ separator ++ intercalate separator parts

/-- Cuts at every occurrence of `separator`: one part more than there are occurrences. -/
def splitOn (separator : CodePoint) : Text → List Text
  | [] => [[]]
  | c :: rest =>
    if c = separator then [] :: splitOn separator rest
    else
      match splitOn separator rest with
      | [] => [[c]]
      | part :: parts => (c :: part) :: parts

/-- The order of the units: at the first difference the smaller one comes first, and a text comes
before those it begins. -/
def le : Text → Text → Bool
  | [], _ => true
  | _ :: _, [] => false
  | c :: s, d :: t => c.val < d.val || (c == d && le s t)

end Text

end TypedText
