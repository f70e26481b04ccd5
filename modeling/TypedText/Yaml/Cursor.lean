import TypedText.Yaml.Token

/-!
# TypedText.Yaml.Cursor

A place in a YAML document: the characters that follow, and the line and column. Line ends are line
feeds when the document comes here; YAML counts three more characters as line ends.
-/

namespace TypedText
namespace Yaml

open Ascii

def isBreak (c : CodePoint) : Bool :=
  c.val == 0x0A || c.val == 0x85 || c.val == 0x2028 || c.val == 0x2029

def isSpace (c : CodePoint) : Bool :=
  c.val == 0x20

def isBlank (c : CodePoint) : Bool :=
  c.val == 0x20 || c.val == 0x09

def isHexDigit (c : CodePoint) : Bool :=
  isDigit c || (0x41 ≤ c.val && c.val ≤ 0x46) || (0x61 ≤ c.val && c.val ≤ 0x66)

/-- Letters, digits, the hyphen and the underscore of ASCII: what names are made of. -/
def isNameChar (c : CodePoint) : Bool :=
  isDigit c || isCapital c || isSmall c || c.val == 0x2D || c.val == 0x5F

/-- Nothing more on the line. -/
def endsLine (c : Option CodePoint) : Bool :=
  c.all isBreak

def endsWord (c : Option CodePoint) : Bool :=
  c.all fun c => isBreak c || isSpace c

def endsBlank (c : Option CodePoint) : Bool :=
  c.all fun c => isBreak c || isBlank c

/-- The byte order mark, which takes no column. -/
def byteOrderMark : CodePoint := 0xFEFF

structure Cursor where
  rest : Text
  index : Nat
  line : Nat
  column : Nat
  deriving DecidableEq, Repr

namespace Cursor

def start (t : Text) : Cursor :=
  ⟨t, 0, 0, 0⟩

def peek (c : Cursor) : Option CodePoint :=
  c.rest.head?

def peekAt (c : Cursor) (k : Nat) : Option CodePoint :=
  c.rest[k]?

def at? (c : Cursor) (n : Nat) : Bool :=
  c.peek.any (·.val == n)

def advance (c : Cursor) : Cursor :=
  match c.rest with
  | [] => c
  | u :: rest =>
    if isBreak u then ⟨rest, c.index + 1, c.line + 1, 0⟩
    else if u = byteOrderMark then ⟨rest, c.index + 1, c.line, c.column⟩
    else ⟨rest, c.index + 1, c.line, c.column + 1⟩

def advanceBy : Nat → Cursor → Cursor
  | 0, c => c
  | n + 1, c => advanceBy n c.advance

def takeRun (p : CodePoint → Bool) (c : Cursor) : Text × Cursor :=
  let run := c.rest.takeWhile p
  (run, c.advanceBy run.length)

def skipRun (p : CodePoint → Bool) (c : Cursor) : Cursor :=
  (c.takeRun p).2

/-- The line end here, if there is one; the common ones are all read as a line feed. -/
def takeBreak (c : Cursor) : Text × Cursor :=
  match c.peek with
  | none => ([], c)
  | some u =>
    if u.val = 0x0A ∨ u.val = 0x85 then ([0x0A], c.advance)
    else if isBreak u then ([u], c.advance)
    else ([], c)

def skipComment (c : Cursor) : Cursor :=
  if c.at? 0x23 then c.skipRun (!isBreak ·) else c

/-- Spaces, a comment, and the line end that must follow. -/
def restOfLine (c : Cursor) : Except Fault Cursor :=
  let c := (c.skipRun isSpace).skipComment
  if endsLine c.peek then .ok c.takeBreak.2 else .error .malformed

/-- Three hyphens or three periods that stand alone: the mark of a document's start or end. -/
def atDocumentMark (c : Cursor) : Bool :=
  (c.rest.take 3 == [0x2D, 0x2D, 0x2D] || c.rest.take 3 == [0x2E, 0x2E, 0x2E]) &&
    endsBlank (c.peekAt 3)

end Cursor

/-- The number that digits of a base below 17 stand for. -/
def numberOf (base : Nat) (digits : Text) : Nat :=
  digits.foldl (fun n c =>
    base * n +
      (if isDigit c then c.val - 0x30 else if c.val < 0x60 then c.val - 0x37 else c.val - 0x57)) 0

end Yaml
end TypedText
