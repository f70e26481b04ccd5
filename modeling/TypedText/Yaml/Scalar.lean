import TypedText.Yaml.Cursor

/-!
# TypedText.Yaml.Scalar

The text of a scalar as it is written in a document: plain, in quotes, or as a block. In all but
literal blocks a line end is folded into a space, and empty lines stand for line feeds.
-/

namespace TypedText
namespace Yaml
namespace Cursor

open Ascii

/-! ## Quoted scalars -/

def escaped? (c : CodePoint) : Option CodePoint :=
  match c.val with
  | 0x30 => some 0x00
  | 0x61 => some 0x07
  | 0x62 => some 0x08
  | 0x74 => some 0x09
  | 0x09 => some 0x09
  | 0x6E => some 0x0A
  | 0x76 => some 0x0B
  | 0x66 => some 0x0C
  | 0x72 => some 0x0D
  | 0x65 => some 0x1B
  | 0x20 => some 0x20
  | 0x22 => some 0x22
  | 0x5C => some 0x5C
  | 0x2F => some 0x2F
  | 0x4E => some 0x85
  | 0x5F => some 0xA0
  | 0x4C => some 0x2028
  | 0x50 => some 0x2029
  | _ => none

def escapeWidth? (c : CodePoint) : Option Nat :=
  match c.val with
  | 0x78 => some 2
  | 0x75 => some 4
  | 0x55 => some 8
  | _ => none

def foldedBreaks : Nat → Cursor → Except Fault (Text × Cursor)
  | 0, _ => .error .malformed
  | fuel + 1, c =>
    if c.atDocumentMark then .error .malformed
    else
      let c := c.skipRun isBlank
      if c.peek.any isBreak then
        match c.takeBreak with
        | (b, c) =>
          match foldedBreaks fuel c with
          | .error e => .error e
          | .ok (bs, c) => .ok (b ++ bs, c)
      else .ok ([], c)

/-- What a fold stands for: a space for a single line end, otherwise the line ends after it. -/
def foldText (first others : Text) : Text :=
  if first ≠ [0x0A] then first ++ others
  else if others.isEmpty then [0x20]
  else others

def takeEscape (fuel : Nat) (c : Cursor) : Except Fault (Text × Cursor) :=
  match c.peek with
  | none => .error .malformed
  | some u =>
    match escaped? u, escapeWidth? u with
    | some v, _ => .ok ([v], c.advance)
    | none, some width =>
      let c := c.advance
      let digits := c.rest.take width
      if digits.length = width && digits.all isHexDigit then
        match CodePoint.ofInt? (numberOf 16 digits) with
        | some v => .ok ([v], c.advanceBy width)
        | none => .error (.noSuchValue (Text.ofString "chr() arg not in range(0x110000)"))
      else .error .malformed
    | none, none => if isBreak u then foldedBreaks fuel c.takeBreak.2 else .error .malformed

/-- Blanks inside a quoted scalar: kept within a line, folded around a line end. -/
def quotedBlanks (fuel : Nat) (c : Cursor) : Except Fault (Text × Cursor) :=
  match c.takeRun isBlank with
  | (blanks, c) =>
    match c.peek with
    | none => .error .malformed
    | some u =>
      if isBreak u then
        match c.takeBreak with
        | (first, c) =>
          match foldedBreaks fuel c with
          | .error e => .error e
          | .ok (others, c) => .ok (foldText first others, c)
      else .ok (blanks, c)

def quotedScalar (double : Bool) : Nat → Cursor → Except Fault (Text × Cursor)
  | 0, _ => .error .malformed
  | fuel + 1, c =>
    let piece : Except Fault (Option (Text × Cursor)) :=
      match c.peek with
      | none => .error .malformed
      | some u =>
        if isBlank u || isBreak u then (quotedBlanks fuel c).map some
        else if u.val = 0x27 && !double then
          if c.peekAt 1 = some 0x27 then .ok (some ([0x27], c.advanceBy 2)) else .ok none
        else if u.val = 0x22 && double then .ok none
        else if u.val = 0x5C && double then (takeEscape fuel c.advance).map some
        else .ok (some ([u], c.advance))
    match piece with
    | .error e => .error e
    | .ok none => .ok ([], c.advance)
    | .ok (some (t, c)) =>
      match quotedScalar double fuel c with
      | .error e => .error e
      | .ok (ts, c) => .ok (t ++ ts, c)

/-! ## Plain scalars -/

/-- Whether a plain scalar cannot go on with this character, given the one that follows. -/
def stopsPlain (inFlow : Bool) (u : CodePoint) (following : Option CodePoint) : Bool :=
  isBreak u || isBlank u ||
    (u.val == 0x3A && (endsBlank following || (inFlow && following.any (isAnyOf ",[]\x7b\x7d")))) ||
    (inFlow && isAnyOf ",?[]\x7b\x7d" u)

def plainRun (inFlow : Bool) : Text → Text
  | [] => []
  | u :: rest => if stopsPlain inFlow u rest.head? then [] else u :: plainRun inFlow rest

/-- Line ends and leading spaces after the first line end of a plain scalar, unless the mark of a
document follows one of the line ends. -/
def plainBreaks : Nat → Cursor → Option Text × Cursor
  | 0, c => (some [], c)
  | fuel + 1, c =>
    if c.peek.any isSpace then plainBreaks fuel c.advance
    else if c.peek.any isBreak then
      match c.takeBreak with
      | (b, c) =>
        if c.atDocumentMark then (none, c)
        else
          match plainBreaks fuel c with
          | (some bs, c) => (some (b ++ bs), c)
          | (none, c) => (none, c)
    else (some [], c)

/-- What lies between two pieces of a plain scalar, empty if the scalar ends here, and whether it
holds a line end. -/
def plainGap (fuel : Nat) (c : Cursor) : Text × Bool × Cursor :=
  match c.takeRun isSpace with
  | (spaces, c) =>
    if c.peek.any isBreak then
      match c.takeBreak with
      | (first, c) =>
        if c.atDocumentMark then ([], true, c)
        else
          match plainBreaks fuel c with
          | (some others, c) => (foldText first others, true, c)
          | (none, c) => ([], true, c)
    else (spaces, false, c)

/-- A plain scalar, whether a line end was passed after its last piece, and the place after it. -/
def plainScalar (inFlow : Bool) (indent : Int) : Nat → Text → Cursor → Text × Bool × Cursor
  | 0, _, c => ([], false, c)
  | fuel + 1, gap, c =>
    let run := if c.at? 0x23 then [] else plainRun inFlow c.rest
    if run.isEmpty then ([], false, c)
    else
      match plainGap fuel (c.advanceBy run.length) with
      | (nextGap, brokeLine, c) =>
        if nextGap.isEmpty || c.at? 0x23 || (!inFlow && (c.column : Int) < indent) then
          (gap ++ run, brokeLine, c)
        else
          match plainScalar inFlow indent fuel nextGap c with
          | (t, broke, c) =>
            (gap ++ run ++ t, (if t.isEmpty then brokeLine else broke), c)

/-! ## Block scalars -/

inductive Chomping
  | strip
  | clip
  | keep
  deriving DecidableEq, Repr

def takeChomping (c : Cursor) : Chomping × Cursor :=
  if c.at? 0x2B then (.keep, c.advance)
  else if c.at? 0x2D then (.strip, c.advance)
  else (.clip, c)

/-- A digit that gives the indentation of a block scalar; zero is none. -/
def takeIndentation (c : Cursor) : Except Fault (Option Nat × Cursor) :=
  match c.peek with
  | some u =>
    if isDigit u then
      if u.val = 0x30 then .error .malformed else .ok (some (u.val - 0x30), c.advance)
    else .ok (none, c)
  | none => .ok (none, c)

def blockHeader (c : Cursor) : Except Fault (Chomping × Option Nat × Cursor) :=
  let (chomping, c') := c.takeChomping
  match c'.takeIndentation with
  | .error e => .error e
  | .ok (indentation, c') =>
    let (chomping, c') :=
      if chomping = .clip && indentation.isSome then c'.takeChomping else (chomping, c')
    if endsWord c'.peek then
      match c'.restOfLine with
      | .error e => .error e
      | .ok c' => .ok (chomping, indentation, c')
    else .error .malformed

/-- Empty lines at the start of a block scalar, and the greatest column that leading spaces reach. -/
def blockIndentation : Nat → Nat → Cursor → Text × Nat × Cursor
  | 0, widest, c => ([], widest, c)
  | fuel + 1, widest, c =>
    if c.peek.any isSpace then
      let c := c.advance
      blockIndentation fuel (max widest c.column) c
    else if c.peek.any isBreak then
      match c.takeBreak with
      | (b, c) =>
        match blockIndentation fuel widest c with
        | (bs, widest, c) => (b ++ bs, widest, c)
    else ([], widest, c)

def skipIndent (indent : Nat) : Nat → Cursor → Cursor
  | 0, c => c
  | fuel + 1, c =>
    if c.column < indent && c.peek.any isSpace then skipIndent indent fuel c.advance else c

def blockBreaks (indent : Nat) : Nat → Cursor → Text × Cursor
  | 0, c => ([], c)
  | fuel + 1, c =>
    let c := skipIndent indent indent c
    if c.peek.any isBreak then
      match c.takeBreak with
      | (b, c) =>
        match blockBreaks indent fuel c with
        | (bs, c) => (b ++ bs, c)
    else ([], c)

/-- The lines of a block scalar, the line end after the last one, and the empty lines after that.
`leading` are the empty lines before the next line. -/
def blockLines (folded : Bool) (indent : Nat) :
    Nat → Text → Cursor → Text × Text × Text × Cursor
  | 0, leading, c => ([], [], leading, c)
  | fuel + 1, leading, c =>
    if c.column = indent && c.peek.isSome then
      let startsText := !c.peek.any isBlank
      match c.takeRun (!isBreak ·) with
      | (line, c) =>
        match c.takeBreak with
        | (lineEnd, c) =>
          match blockBreaks indent fuel c with
          | (breaks, c) =>
            if c.column = indent && c.peek.isSome then
              let joint :=
                if folded && lineEnd = [0x0A] && startsText && !c.peek.any isBlank then
                  if breaks.isEmpty then [0x20] else []
                else lineEnd
              match blockLines folded indent fuel breaks c with
              | (t, lastEnd, after, c) => (leading ++ line ++ joint ++ t, lastEnd, after, c)
            else (leading ++ line, lineEnd, breaks, c)
    else ([], [], leading, c)

def blockScalar (folded : Bool) (parent : Int) (c : Cursor) : Except Fault (Text × Cursor) :=
  let fuel := c.rest.length + 1
  match c.blockHeader with
  | .error e => .error e
  | .ok (chomping, indentation, c) =>
    let least := (max 1 (parent + 1)).toNat
    let (leading, indent, c) :=
      match indentation with
      | some n =>
        let indent := least + n - 1
        match blockBreaks indent fuel c with
        | (breaks, c) => (breaks, indent, c)
      | none =>
        match blockIndentation fuel 0 c with
        | (breaks, widest, c) => (breaks, max least widest, c)
    match blockLines folded indent fuel leading c with
    | (t, lastEnd, after, c) =>
      let ending :=
        match chomping with
        | .strip => []
        | .clip => lastEnd
        | .keep => lastEnd ++ after
      .ok (t ++ ending, c)

end Cursor
end Yaml
end TypedText
