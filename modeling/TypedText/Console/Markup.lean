import TypedText.Ascii

/-!
# TypedText.Console.Markup

Markup for the console. A tag is a bracket that starts with a small letter, a hash, a slash or an at
sign, and it gives the text after it a style until a closing tag; backslashes before a tag make it
plain text. Styles do not matter here, only what is shown. Which closing tag goes with which opening one
is up to the console, since one style may have several names: it refuses a tag or not by those before it.

* `Markup.pieces`: a text cut into characters and tags, each with the backslashes before it.
* `Markup.escape`: the markup that shows a text as it is.
* `Markup.render`: the text that markup shows, or what is said about a tag that is refused.
* `Markup.byName`: tags matched by their names.
-/

namespace TypedText

inductive MarkupError
  /-- A closing tag that names no open one; the tag as written, and where it stands. -/
  | unmatched (tag : Text) (position : Nat)
  | nothingToClose (position : Nat)
  /-- What else a console may have against a tag. -/
  | refused (reason : Text)
  deriving DecidableEq, Repr

namespace MarkupError

def message : MarkupError → Text
  | unmatched tag position =>
    Text.ofString "closing tag '" ++ tag ++
      Text.ofString s!"' at position {position} doesn't match any open tag"
  | nothingToClose position =>
    Text.ofString s!"closing tag '[/]' at position {position} has nothing to close"
  | refused reason => reason

end MarkupError

namespace Markup

def backslash : CodePoint := 0x5C

def openBracket : CodePoint := 0x5B

def closeBracket : CodePoint := 0x5D

def startsTag (c : CodePoint) : Bool :=
  Ascii.isSmall c || c.val == 0x23 || c.val == 0x2F || c.val == 0x40

def tagBody? : Text → Option (Text × Text)
  | [] => none
  | c :: rest =>
    if startsTag c then
      let inside := rest.takeWhile fun d => d ≠ closeBracket && d ≠ openBracket
      match rest.drop inside.length with
      | d :: after => if d = closeBracket then some (c :: inside, after) else none
      | [] => none
    else none

theorem tagBody?_length {t body after : Text} (h : tagBody? t = some (body, after)) :
    after.length < t.length := by
  unfold tagBody? at h
  split at h
  · cases h
  · rename_i c rest
    split at h
    · simp only at h
      split at h
      · rename_i d after' heq
        split at h
        · cases h
          have hlen := congrArg List.length heq
          rw [List.length_drop, List.length_cons] at hlen
          rw [List.length_cons]
          omega
        · cases h
      · cases h
    · cases h

/-- A piece of markup, with the number of backslashes before it. -/
inductive Piece
  | plain (backslashes : Nat) (c : CodePoint)
  | tag (backslashes : Nat) (body : Text)
  /-- Backslashes at the very end. -/
  | trailing (backslashes : Nat)
  deriving DecidableEq, Repr

def piecesAfter (backslashes : Nat) (t : Text) : List Piece :=
  match t with
  | [] => if backslashes = 0 then [] else [.trailing backslashes]
  | c :: rest =>
    if c = backslash then piecesAfter (backslashes + 1) rest
    else if c = openBracket then
      match h : tagBody? rest with
      | some (body, after) =>
        have : after.length < rest.length := tagBody?_length h
        .tag backslashes body :: piecesAfter 0 after
      | none => .plain backslashes c :: piecesAfter 0 rest
    else .plain backslashes c :: piecesAfter 0 rest
termination_by t.length

def pieces (t : Text) : List Piece :=
  piecesAfter 0 t

def bracketed (body : Text) : Text :=
  openBracket :: body ++ [closeBracket]

/-! ## Escaping -/

/-- Backslashes before a tag are doubled, and one more makes the tag plain. -/
def escapePiece : Piece → Text
  | .plain n c => List.replicate n backslash ++ [c]
  | .tag n body => List.replicate (2 * n + 1) backslash ++ bracketed body
  | .trailing n => List.replicate n backslash

def endsWithOneBackslash (t : Text) : Bool :=
  (t.reverse.takeWhile (· = backslash)).length == 1

/-- One backslash at the end gets company, so that it escapes nothing that may follow. -/
def escape (t : Text) : Text :=
  let escaped := (pieces t).flatMap escapePiece
  if endsWithOneBackslash escaped then escaped ++ [backslash] else escaped

def quote (t : Text) : Text :=
  0x22 :: escape t ++ [0x22]

/-! ## Tags -/

/-- How tags are matched: by what stands in those before it a tag is refused or not, and if so, something is
said about one at a position. -/
abbrev Matching := List Text → Text → Option (Nat → MarkupError)

def slash : CodePoint := 0x2F

def isSpace (c : CodePoint) : Bool :=
  c.val == 0x20 || (0x09 ≤ c.val && c.val ≤ 0x0D)

def trim (t : Text) : Text :=
  ((t.dropWhile isSpace).reverse.dropWhile isSpace).reverse

/-- A tag's name ends where its parameters start. -/
def tagName (body : Text) : Text :=
  body.takeWhile (·.val ≠ 0x3D)

def styleName (t : Text) : Text :=
  Ascii.lower (trim t)

def close? (name : Text) : List Text → Option (List Text)
  | [] => none
  | s :: rest => if s = name then some rest else (close? name rest).map (s :: ·)

/-- The open styles after a tag, innermost first; none if it closes a style that is not open. -/
def stylesAfter? (styles : List Text) (body : Text) : Option (List Text) :=
  match tagName body with
  | [] => some ([] :: styles)
  | c :: name =>
    if c = slash then
      if (trim name).isEmpty then styles.tail? else close? (styleName name) styles
    else some (styleName (c :: name) :: styles)

def openStyles (bodies : List Text) : List Text :=
  bodies.foldl (fun styles body => (stylesAfter? styles body).getD styles) []

def byName : Matching := fun before body =>
  match stylesAfter? (openStyles before) body with
  | some _ => none
  | none => some fun position =>
    if (trim (tagName body).tail).isEmpty then .nothingToClose position
    else .unmatched (bracketed body) position

/-! ## Rendering -/

def showPlain (backslashes : Nat) (c : CodePoint) : Text :=
  List.replicate (if c = openBracket then backslashes - 1 else backslashes) backslash ++ [c]

variable (matching : Matching)

/-- Shows the pieces from a position on, after tags: of the backslashes before a tag half, and the tag
itself where their number is odd. -/
def renderPieces (position : Nat) (before : List Text) : List Piece → Except MarkupError Text
  | [] => .ok []
  | .plain n c :: rest =>
    match renderPieces (position + n + 1) before rest with
    | .error e => .error e
    | .ok t => .ok (showPlain n c ++ t)
  | .trailing n :: rest =>
    match renderPieces (position + n) before rest with
    | .error e => .error e
    | .ok t => .ok (List.replicate n backslash ++ t)
  | .tag n body :: rest =>
    let next := position + n + body.length + 2
    let slashes := List.replicate (n / 2) backslash
    if n % 2 = 1 then
      match renderPieces next before rest with
      | .error e => .error e
      | .ok t => .ok (slashes ++ bracketed body ++ t)
    else
      match matching before body with
      | some e => .error (e (position + n))
      | none =>
        match renderPieces next (before ++ [body]) rest with
        | .error e => .error e
        | .ok t => .ok (slashes ++ t)

/-- A text without an opening bracket is no markup and is shown as it is. -/
def render (t : Text) : Except MarkupError Text :=
  if t.contains openBracket then renderPieces matching 0 [] (pieces t) else .ok t

end Markup
end TypedText
