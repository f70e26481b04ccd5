import TypedText.Text

/-!
# TypedText.Path

Paths as they are given and printed: a root, if any, and the names from there on. Empty names and
the name `.` say nothing and are left out; `..` is kept, since what it means depends on the files.

* `Path.ofText`, `Path.text`: from and to the written form.
* `Path.lexical`: the names left when every `..` takes back the name before it, whatever the files.
-/

namespace TypedText

abbrev Name := Text

structure Path where
  /-- No slash, one, or two: exactly two at the start are a root of their own. -/
  slashes : Nat
  names : List Name
  deriving DecidableEq, Repr

namespace Path

def slash : CodePoint := 0x2F

def parentName : Name := [0x2E, 0x2E]

def ofText (t : Text) : Path where
  slashes :=
    let n := (t.takeWhile (· = slash)).length
    if n ≤ 2 then n else 1
  names := (t.splitOn slash).filter fun name => !name.isEmpty && name ≠ [0x2E]

/-- Without root and names it is the directory itself. -/
def text (p : Path) : Text :=
  if p.slashes = 0 ∧ p.names.isEmpty then [0x2E]
  else List.replicate p.slashes slash ++ Text.intercalate [slash] p.names

def isAbsolute (p : Path) : Bool :=
  p.slashes ≠ 0

def parent (p : Path) : Path :=
  { p with names := p.names.dropLast }

/-- One name further; `..` takes back the name before it, and nothing from the top. -/
def step (names : List Name) (name : Name) : List Name :=
  if name = parentName then names.dropLast else names ++ [name]

/-- The names below a directory given by names, with every `..` carried out on the names. -/
def lexical (start : List Name) (p : Path) : List Name :=
  p.names.foldl step (if p.isAbsolute then [] else start)

def stations (start : List Name) : List Name → List (List Name)
  | [] => []
  | name :: names => step start name :: stations (step start name) names

/-- A null unit ends a path for the file system, so none may be in it. -/
def hasNull (p : Path) : Bool :=
  p.names.any fun name => name.any (·.val = 0)

/-- Surrogates have no form in a file system's names, save those that stand for single bytes. -/
def isEncodable (p : Path) : Bool :=
  p.names.all fun name =>
    name.all fun c => !c.isSurrogate || (0xDC80 ≤ c.val && c.val ≤ 0xDCFF)

end Path
end TypedText
