import TypedText.Text

/-!
# TypedText.CommaList

Lists of texts kept as one text, the values separated by commas. There is no escaping, so a value
cannot contain a comma, and empty values at the end are not there. The empty list is kept as no text
or as an empty one.

* `values`, `contains`: what a kept list holds.
* `join`, `append`, `remove`: the changes, each giving the text that is kept next.
* `Edit.apply`, `Edit.applyAll`: a kept list after a change, and after one change after the other.
-/

namespace TypedText

/-- A comma-separated list as it is kept, or nothing. -/
abbrev CommaList := Option Text

namespace CommaList

def comma : CodePoint := 0x2C

def valuesOf (t : Text) : List Text :=
  ((t.splitOn comma).reverse.dropWhile List.isEmpty).reverse

def values : CommaList → List Text
  | none => []
  | some t => if t.isEmpty then [] else valuesOf t

def contains (l : CommaList) (value : Text) : Bool :=
  l.values.contains value

/-- One list after the other; an empty one adds no comma. -/
def join (head tail : CommaList) : Text :=
  let head := head.getD []
  let tail := tail.getD []
  if head.isEmpty then tail
  else if tail.isEmpty then head
  else head ++ comma :: tail

def append (l : CommaList) (value : Text) : Text :=
  let t := l.getD []
  if t.isEmpty then value
  else if l.contains value then t
  else t ++ comma :: value

/-- Drops every occurrence of a value; a list that does not hold it stays as it is. -/
def remove (l : CommaList) (value : Text) : Text :=
  if l.contains value then Text.intercalate [comma] (l.values.filter (· ≠ value))
  else l.getD []

/-- A change to a list, where `α` is how the lists are given that are joined to it. -/
inductive Edit (α : Type) where
  | append (value : Text)
  | remove (value : Text)
  /-- Another list is added behind this one. -/
  | join (tail : α)
  /-- Another list is added before this one. -/
  | prejoin (head : α)
  deriving DecidableEq, Repr

namespace Edit

def apply (l : CommaList) : Edit CommaList → CommaList
  | append value => some (l.append value)
  | remove value => some (l.remove value)
  | join tail => some (l.join tail)
  | prejoin head => some (head.join l)

def applyAll (l : CommaList) (edits : List (Edit CommaList)) : CommaList :=
  edits.foldl apply l

end Edit
end CommaList
end TypedText
