import TypedText.Character
import TypedText.Text.Reading

/-!
# TypedText.TrailingContext

Guesses about the text before the cursor. Both walk backward from the end, one code point at a
time, and stop as soon as the answer is known, so an unpaired surrogate matters only if the walk
reaches it.

* `Text.looksLikeUrl`: whether the last run of URL-like code points looks like a URL.
* `Text.insideQuoteOrAfterDigit`: whether a double quote typed now would close one.
-/

namespace TypedText
namespace TrailingContext

def inUrlRange (c : CodePoint) : Bool :=
  0x2E ≤ c.val && c.val ≤ 0x7A

/-- What a backward walk knows of the run it has passed: how many times `w` and `/` stand at its
start, and whether it holds a slash and a period. -/
structure UrlRun where
  leadingW : Nat
  leadingSlashes : Nat
  hasSlash : Bool
  hasPeriod : Bool
  deriving DecidableEq, Repr

namespace UrlRun

def empty : UrlRun :=
  ⟨0, 0, false, false⟩

def extend (r : UrlRun) (c : CodePoint) : UrlRun where
  leadingW := if c.val = 0x77 then r.leadingW + 1 else 0
  leadingSlashes := if c.val = 0x2F then r.leadingSlashes + 1 else 0
  hasSlash := r.hasSlash || c.val == 0x2F
  hasPeriod := r.hasPeriod || c.val == 0x2E

/-- The answer for a whole run; `detached` if the text starts with it or whitespace precedes it. -/
def looksLikeUrl (r : UrlRun) (detached : Bool) : Bool :=
  (3 ≤ r.leadingW && r.hasPeriod) || (r.leadingSlashes == 1 && detached) ||
    (r.hasPeriod && r.hasSlash)

end UrlRun

inductive UrlWalk
  /-- Two slashes were met side by side. -/
  | doubleSlash
  /-- A code point outside the range precedes the run. -/
  | precededBy (c : CodePoint) (run : UrlRun)
  /-- Nothing precedes the run. -/
  | atStart (run : UrlRun)
  deriving DecidableEq, Repr

def UrlWalk.ofReversed (run : UrlRun) : List CodePoint → UrlWalk
  | [] => .atStart run
  | c :: rest =>
    if inUrlRange c then
      if (run.extend c).leadingSlashes = 2 then .doubleSlash
      else ofReversed (run.extend c) rest
    else .precededBy c run

def isQuote (c : CodePoint) : Bool :=
  c.val == 0x22

/-- The last quote that touches whitespace decides: one before it closes, one after it opens. Code
points are given last one first, `next` being the one passed before them. -/
def lastQuoteOpens? (next : Option CodePoint) : List CodePoint → Option Bool
  | [] => none
  | c :: rest =>
    if isQuote c && next.any CodePoint.isWhitespace then some false
    else if c.isWhitespace && next.any isQuote then some true
    else lastQuoteOpens? (some c) rest

end TrailingContext

namespace Text

open TrailingContext

/-- A run looks like a URL if it holds `//`, starts with `www` and holds a period, starts with a
slash where nothing or whitespace precedes it, or holds both a period and a slash. -/
def looksLikeUrl (t : Text) : Except TextError Bool :=
  let r := read .backward t.reverse
  match UrlWalk.ofReversed .empty r.codePoints with
  | .doubleSlash => .ok true
  | .precededBy c run => .ok (run.looksLikeUrl c.isWhitespace)
  | .atStart run => Reading.verdict r.faultBackward? none (run.looksLikeUrl true)

/-- After a digit a double quote stands for inches or minutes. If no quote touches whitespace, only
one at the very start of the text is open. -/
def insideQuoteOrAfterDigit (t : Text) : Except TextError Bool :=
  let r := read .backward t.reverse
  match r.codePoints with
  | [] => Reading.verdict r.faultBackward? none false
  | c :: _ =>
    if c.isDigit then .ok true
    else
      Reading.verdict r.faultBackward? (lastQuoteOpens? none r.codePoints)
        (r.codePoints.getLast?.any isQuote)

def trailingSingleQuotes (t : Text) : Nat :=
  (t.reverse.takeWhile (·.val = 0x27)).length

def isBlank (t : Text) : Except TextError Bool :=
  let r := read .forward t
  Reading.verdict (r.faultForward? t.length)
    (if r.codePoints.any (!·.isWhitespace) then some false else none) true

end Text
end TypedText
