import TypedText.Yaml.Scalar

/-!
# TypedText.Yaml.Lexer

From the characters of a document to its tokens. Two things make this more than cutting: block
collections start and end where the indentation changes, and a simple key is recognised only by the
colon after it, so its token, and the start of the mapping it opens, are put in front of tokens that
have been read already.

* `Lexer`: the tokens so far, the indentations of the open block collections, and the places where a
  simple key may have started.
* `Lexer.step`: reads one token, after whatever collections its column ends.
* `Token.ofText`: all tokens of a document.
-/

namespace TypedText
namespace Yaml

open Ascii

/-- A place where a simple key may start: the number of its token, and where it stands. -/
structure KeyCandidate where
  level : Nat
  token : Nat
  /-- Only a key can stand here. -/
  required : Bool
  index : Nat
  line : Nat
  column : Nat
  deriving DecidableEq, Repr

structure Lexer where
  cursor : Cursor
  tokens : Array Token
  /-- How many flow collections are open. -/
  flow : Nat
  /-- The column of the innermost block collection, or -1. -/
  indent : Int
  outerIndents : List Int
  keyAllowed : Bool
  candidates : List KeyCandidate

namespace Lexer

def start (t : Text) : Lexer where
  cursor := .start t
  tokens := #[]
  flow := 0
  indent := -1
  outerIndents := []
  keyAllowed := true
  candidates := []

def inFlow (l : Lexer) : Bool :=
  l.flow ≠ 0

def push (l : Lexer) (t : Token) : Lexer :=
  { l with tokens := l.tokens.push t }

def skip (l : Lexer) (n : Nat) : Lexer :=
  { l with cursor := l.cursor.advanceBy n }

/-! ## Simple keys -/

/-- A key may not go on to another line, and not further than 1024 characters. -/
def isStale (l : Lexer) (k : KeyCandidate) : Bool :=
  k.line ≠ l.cursor.line || 1024 < l.cursor.index - k.index

def dropStale (l : Lexer) : Except Fault Lexer :=
  if l.candidates.any fun k => l.isStale k && k.required then .error .malformed
  else .ok { l with candidates := l.candidates.filter fun k => !l.isStale k }

def dropCandidate (l : Lexer) : Except Fault Lexer :=
  if l.candidates.any fun k => k.level = l.flow && k.required then .error .malformed
  else .ok { l with candidates := l.candidates.filter fun k => k.level ≠ l.flow }

def addCandidate (l : Lexer) : Except Fault Lexer :=
  if l.keyAllowed then
    let required := !l.inFlow && l.indent == (l.cursor.column : Int)
    match l.dropCandidate with
    | .error e => .error e
    | .ok l =>
      .ok { l with candidates :=
        ⟨l.flow, l.tokens.size, required, l.cursor.index, l.cursor.line, l.cursor.column⟩ ::
          l.candidates }
  else .ok l

/-! ## Indentation -/

/-- Ends the block collections that are indented further than `column`. -/
def unwindTo (column : Int) : Nat → Lexer → Lexer
  | 0, l => l
  | fuel + 1, l =>
    if column < l.indent then
      unwindTo column fuel
        { l with
          tokens := l.tokens.push .blockEnd
          indent := l.outerIndents.headD (-1)
          outerIndents := l.outerIndents.tail }
    else l

/-- Indentation means nothing inside a flow collection. -/
def unwind (l : Lexer) (column : Int) : Lexer :=
  if l.inFlow then l else unwindTo column (l.outerIndents.length + 1) l

def openBlock (l : Lexer) (column : Nat) (place : Nat) (t : Token) : Lexer :=
  if l.indent < (column : Int) then
    { l with
      tokens := l.tokens.insertIdxIfInBounds place t
      indent := column
      outerIndents := l.indent :: l.outerIndents }
  else l

/-! ## Between tokens -/

/-- Blank lines, spaces and comments. Outside flow collections a new line may start with a key. -/
def skipToToken : Nat → Lexer → Lexer
  | 0, l => l
  | fuel + 1, l =>
    let c := (l.cursor.skipRun isSpace).skipComment
    if c.peek.any isBreak then
      skipToToken fuel
        { l with cursor := c.takeBreak.2, keyAllowed := l.keyAllowed || !l.inFlow }
    else { l with cursor := c }

/-- A byte order mark counts for nothing at the very start. -/
def skipMark (l : Lexer) : Lexer :=
  if l.cursor.index = 0 ∧ l.cursor.peek = some byteOrderMark then l.skip 1 else l

/-! ## Directives, tags and names -/

def tagHandle (c : Cursor) : Except Fault (Text × Cursor) :=
  if c.at? 0x21 then
    let c' := c.advance
    if c'.peek.any isSpace then .ok ([0x21], c')
    else
      match c'.takeRun isNameChar with
      | (name, c') =>
        if c'.at? 0x21 then .ok (0x21 :: name ++ [0x21], c'.advance) else .error .malformed
  else .error .malformed

def isUriChar (c : CodePoint) : Bool :=
  isNameChar c || isAnyOf ";/?:@&=+$,.!~*'()[]" c

/-- The rest of a tag's name. Characters written by their number are not decoded, since no tag with
such a name is known. -/
def tagSuffix (c : Cursor) : Except Fault (Text × Cursor) :=
  match c.takeRun (fun u => isUriChar u || u.val == 0x25) with
  | (name, c) => if name.isEmpty then .error .malformed else .ok (name, c)

def verbatimTag (c : Cursor) : Except Fault (Token × Cursor) :=
  match tagSuffix c with
  | .error e => .error e
  | .ok (name, c) => if c.at? 0x3E then .ok (.tag none name, c.advance) else .error .malformed

/-- Whether a second exclamation mark follows the first, before the word ends. -/
def hasHandle (c : Cursor) : Bool :=
  ((c.rest.drop 1).takeWhile fun u => !isBreak u && !isSpace u).any (·.val == 0x21)

def takeTag (c : Cursor) : Except Fault (Token × Cursor) :=
  let found : Except Fault (Token × Cursor) :=
    if c.peekAt 1 = some 0x3C then verbatimTag (c.advanceBy 2)
    else if endsBlank (c.peekAt 1) then .ok (.tag none [0x21], c.advance)
    else
      let handle := if hasHandle c then tagHandle c else .ok ([0x21], c.advance)
      match handle with
      | .error e => .error e
      | .ok (handle, c) => (tagSuffix c).map fun (name, c) => (.tag (some handle) name, c)
  match found with
  | .error e => .error e
  | .ok (t, c) => if endsWord c.peek then .ok (t, c) else .error .malformed

def takeName (c : Cursor) : Except Fault (Text × Cursor) :=
  match c.takeRun isNameChar with
  | (name, c) =>
    if !name.isEmpty && (endsBlank c.peek || c.peek.any (isAnyOf "?:,]\x7d%@`")) then .ok (name, c)
    else .error .malformed

def takeNumber (c : Cursor) : Except Fault (Nat × Cursor) :=
  match c.takeRun isDigit with
  | (digits, c) => if digits.isEmpty then .error .malformed else .ok (numberOf 10 digits, c)

def takeVersion (c : Cursor) : Except Fault (Directive × Cursor) :=
  match takeNumber (c.skipRun isSpace) with
  | .error e => .error e
  | .ok (major, c) =>
    if c.at? 0x2E then
      match takeNumber c.advance with
      | .error e => .error e
      | .ok (_, c) => if endsWord c.peek then .ok (.version major, c) else .error .malformed
    else .error .malformed

def takeHandle (c : Cursor) : Except Fault (Directive × Cursor) :=
  match tagHandle (c.skipRun isSpace) with
  | .error e => .error e
  | .ok (handle, c) =>
    if c.peek.any isSpace then
      match tagSuffix (c.skipRun isSpace) with
      | .error e => .error e
      | .ok (name, c) =>
        if endsWord c.peek then .ok (.tagHandle handle name, c) else .error .malformed
    else .error .malformed

def takeDirective (c : Cursor) : Except Fault (Directive × Cursor) :=
  match c.takeRun isNameChar with
  | (name, c) =>
    if !name.isEmpty && endsWord c.peek then
      let found :=
        if name = Text.ofString "YAML" then takeVersion c
        else if name = Text.ofString "TAG" then takeHandle c
        else .ok (.other, c.skipRun (!isBreak ·))
      match found with
      | .error e => .error e
      | .ok (d, c) => c.restOfLine.map fun c => (d, c)
    else .error .malformed

/-! ## Tokens -/

def endBlocks (l : Lexer) : Except Fault Lexer :=
  match (l.unwind (-1)).dropCandidate with
  | .error e => .error e
  | .ok l => .ok { l with keyAllowed := false }

def directive (l : Lexer) : Except Fault Lexer :=
  match l.endBlocks with
  | .error e => .error e
  | .ok l =>
    match takeDirective l.cursor.advance with
    | .error e => .error e
    | .ok (d, c) => .ok { l.push (.directive d) with cursor := c }

def documentMark (l : Lexer) (t : Token) : Except Fault Lexer :=
  l.endBlocks.map fun l => (l.push t).skip 3

def openFlow (l : Lexer) (t : Token) : Except Fault Lexer :=
  l.addCandidate.map fun l => { (l.push t).skip 1 with flow := l.flow + 1, keyAllowed := true }

/-- What is not open cannot be closed. -/
def closeFlow (l : Lexer) (t : Token) : Except Fault Lexer :=
  match l.dropCandidate with
  | .error e => .error e
  | .ok l =>
    if l.inFlow then
      .ok { (l.push t).skip 1 with flow := l.flow - 1, keyAllowed := false }
    else .error .malformed

def flowEntry (l : Lexer) : Except Fault Lexer :=
  l.dropCandidate.map fun l => { (l.push .flowEntry).skip 1 with keyAllowed := true }

/-- Outside flow collections an entry must stand where a key could, and may open a collection. -/
def openAt (l : Lexer) (t : Token) : Except Fault Lexer :=
  if l.inFlow then .ok l
  else if l.keyAllowed then .ok (l.openBlock l.cursor.column l.tokens.size t)
  else .error .malformed

def blockEntry (l : Lexer) : Except Fault Lexer :=
  match l.openAt .blockSequenceStart with
  | .error e => .error e
  | .ok l => l.dropCandidate.map fun l => { (l.push .blockEntry).skip 1 with keyAllowed := true }

def explicitKey (l : Lexer) : Except Fault Lexer :=
  match l.openAt .blockMappingStart with
  | .error e => .error e
  | .ok l => l.dropCandidate.map fun l => { (l.push .key).skip 1 with keyAllowed := !l.inFlow }

/-- A colon: what stood at the candidate of this level was a key, or there is no key. -/
def value (l : Lexer) : Except Fault Lexer :=
  match l.candidates.find? (·.level = l.flow) with
  | some k =>
    let l :=
      { l with
        candidates := l.candidates.filter fun k => k.level ≠ l.flow
        tokens := l.tokens.insertIdxIfInBounds k.token .key
        keyAllowed := false }
    let l := if l.inFlow then l else l.openBlock k.column k.token .blockMappingStart
    .ok ((l.push .value).skip 1)
  | none =>
    match l.openAt .blockMappingStart with
    | .error e => .error e
    | .ok l => l.dropCandidate.map fun l => { (l.push .value).skip 1 with keyAllowed := !l.inFlow }

def node (l : Lexer) (take : Cursor → Except Fault (Token × Cursor)) : Except Fault Lexer :=
  match l.addCandidate with
  | .error e => .error e
  | .ok l =>
    match take l.cursor with
    | .error e => .error e
    | .ok (t, c) => .ok { l.push t with cursor := c, keyAllowed := false }

def quoted (l : Lexer) (double : Bool) : Except Fault Lexer :=
  l.node fun c =>
    (c.advance.quotedScalar double (c.rest.length + 1)).map fun (t, c) => (.scalar t false, c)

def block (l : Lexer) (folded : Bool) : Except Fault Lexer :=
  match l.dropCandidate with
  | .error e => .error e
  | .ok l =>
    match l.cursor.advance.blockScalar folded l.indent with
    | .error e => .error e
    | .ok (t, c) => .ok { l.push (.scalar t false) with cursor := c, keyAllowed := true }

/-- A key may follow a plain scalar that went on to another line and ended there. -/
def plain (l : Lexer) : Except Fault Lexer :=
  match l.addCandidate with
  | .error e => .error e
  | .ok l =>
    match l.cursor.plainScalar l.inFlow (l.indent + 1) (l.cursor.rest.length + 1) [] with
    | (t, brokeLine, c) =>
      .ok { l.push (.scalar t true) with cursor := c, keyAllowed := brokeLine }

def startsPlain (l : Lexer) (u : CodePoint) (following : Option CodePoint) : Bool :=
  !(isBreak u || isBlank u || isAnyOf "-?:,[]\x7b\x7d#&*!|>'\"%@`" u) ||
    (!endsBlank following && (u.val == 0x2D || (!l.inFlow && isAnyOf "?:" u)))

def token (l : Lexer) (u : CodePoint) : Except Fault Lexer :=
  let following := l.cursor.peekAt 1
  let lineStart := l.cursor.column = 0
  let apart := endsBlank following
  match u.val with
  | 0x5B => l.openFlow .flowSequenceStart
  | 0x7B => l.openFlow .flowMappingStart
  | 0x5D => l.closeFlow .flowSequenceEnd
  | 0x7D => l.closeFlow .flowMappingEnd
  | 0x2C => l.flowEntry
  | 0x2A => l.node fun c => (takeName c.advance).map fun (t, c) => (.alias t, c)
  | 0x26 => l.node fun c => (takeName c.advance).map fun (t, c) => (.anchor t, c)
  | 0x21 => l.node takeTag
  | 0x27 => l.quoted false
  | 0x22 => l.quoted true
  | n =>
    if n = 0x25 ∧ lineStart then l.directive
    else if n = 0x2D ∧ lineStart ∧ l.cursor.atDocumentMark then l.documentMark .documentStart
    else if n = 0x2E ∧ lineStart ∧ l.cursor.atDocumentMark then l.documentMark .documentEnd
    else if n = 0x2D ∧ apart then l.blockEntry
    else if n = 0x3F ∧ (l.inFlow ∨ apart) then l.explicitKey
    else if n = 0x3A ∧ (l.inFlow ∨ apart) then l.value
    else if n = 0x7C ∧ !l.inFlow then l.block false
    else if n = 0x3E ∧ !l.inFlow then l.block true
    else if l.startsPlain u following then l.plain
    else .error .malformed

/-- Reads one token, or ends the document. -/
def step (l : Lexer) : Except Fault (Bool × Lexer) :=
  let l := l.skipMark
  match (skipToToken (l.cursor.rest.length + 1) l).dropStale with
  | .error e => .error e
  | .ok l =>
    let l := l.unwind l.cursor.column
    match l.cursor.peek with
    | none => l.endBlocks.map fun l => (true, l)
    | some u => (l.token u).map fun l => (false, l)

/-- Every step passes a character, so the number of characters bounds the number of steps. -/
def run : Nat → Lexer → Except Fault Lexer
  | 0, _ => .error .malformed
  | fuel + 1, l =>
    match l.step with
    | .error e => .error e
    | .ok (true, l) => .ok l
    | .ok (false, l) => run fuel l

end Lexer

def Token.ofText (t : Text) : Except Fault (List Token) :=
  match Lexer.run (t.length + 2) (.start t) with
  | .error e => .error e
  | .ok l => .ok l.tokens.toList

end Yaml
end TypedText
