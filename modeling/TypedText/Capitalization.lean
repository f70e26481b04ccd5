import TypedText.Character
import TypedText.Separators

/-!
# TypedText.Capitalization

How a typed word is capitalized, and whether a text already looks the way a change of case would
leave it. All of it reads the text once, code point by code point, and stops as soon as the answer
is known; an unpaired surrogate is reported only by a scan that reaches it.

* `Text.capitalization`: no capitals, the first letter only, or all letters.
* `Text.lettersAllUpper`, `Text.lettersAllLower`: no letter has another case.
* `Text.eachWordCapitalized`: words start with an upper-case letter and go on in lower case.
-/

namespace TypedText

inductive Capitalization
  /-- No capitals, or mixed case. -/
  | none
  /-- The first letter only. -/
  | first
  /-- All letters. -/
  | all
  deriving DecidableEq, Repr

namespace Capitalization

def name : Capitalization → String
  | none => "NONE"
  | first => "FIRST"
  | all => "ALL"

/-- The two questions the classification asks of a code point. -/
structure Alphabet where
  isLetter : CodePoint → Bool
  isUpper : CodePoint → Bool

def Alphabet.unicode : Alphabet :=
  ⟨CodePoint.isLetter, CodePoint.isUpper⟩

structure Tally where
  capitals : Nat
  letters : Nat
  deriving DecidableEq, Repr

namespace Tally

def add (a : Alphabet) (n : Tally) (c : CodePoint) : Tally :=
  if a.isUpper c then ⟨n.capitals + 1, n.letters + 1⟩
  else if a.isLetter c then ⟨n.capitals, n.letters + 1⟩
  else n

/-- Neither one capital nor all capitals: no later letter can mend it. -/
def settled (n : Tally) : Bool :=
  n.capitals ≠ 1 && n.letters ≠ n.capitals

def capitalization (n : Tally) : Capitalization :=
  if n.capitals = 1 then .first
  else if n.letters = n.capitals then .all
  else .none

/-- Counts on until the tally is settled and another code point is there, then `none`. -/
def scan (a : Alphabet) : Tally → List CodePoint → Option Tally
  | n, [] => some n
  | n, c :: rest => if n.settled then Option.none else scan a (n.add a c) rest

end Tally

/-- The classification of the code points read, unless what cut the reading short matters. -/
def classify (a : Alphabet) : List CodePoint × Option TextError → Except TextError Capitalization
  | (cs, fault?) =>
    match cs.dropWhile (!a.isLetter ·) with
    | [] => Reading.verdict fault? Option.none .none
    | c :: rest =>
      if a.isUpper c then
        match Tally.scan a ⟨1, 1⟩ rest with
        | Option.none => .ok .none
        | some n => Reading.verdict fault? Option.none n.capitalization
      else .ok .none

def misfit (separators : Separators) : Bool → List CodePoint → Bool
  | _, [] => false
  | wordStart, c :: rest =>
    (c.isLetter && !(if wordStart then c.isUpper else c.isLower)) ||
      misfit separators (separators.contains c.val) rest

/-- False as soon as something misfits, otherwise true if the whole text could be read. -/
def refuse (misfits : Bool) (fault? : Option TextError) : Except TextError Bool :=
  Reading.verdict fault? (if misfits then some false else Option.none) true

end Capitalization

namespace Text

/-- Leading code points that are no letters are skipped, and those after the first letter count for
nothing unless they are upper case. -/
def capitalization (t : Text) : Except TextError Capitalization :=
  Capitalization.classify .unicode t.reading

def lettersAllUpper (t : Text) : Except TextError Bool :=
  Capitalization.refuse (t.reading.1.any fun c => c.isLetter && !c.isUpper) t.reading.2

def lettersAllLower (t : Text) : Except TextError Bool :=
  Capitalization.refuse (t.reading.1.any fun c => c.isLetter && !c.isLower) t.reading.2

/-- A word starts at the start of the text and after every separator. -/
def eachWordCapitalized (t : Text) (separators : Separators) : Except TextError Bool :=
  Capitalization.refuse (Capitalization.misfit separators true t.reading.1) t.reading.2

end Text
end TypedText
