import TypedText.Text.Quoted
import TypedText.Unicode.Casing
import TypedText.Value
import TypedText.Yaml.Node

/-!
# TypedText.Yaml.Document

The value of a document. Scalars are read as their tag says, and a mapping that merges others puts
their entries before its own, so that its own win.

* `Scalar.ofTagged`: the value of a scalar with its tag.
* `Node.value`: the value of a node.
* `Value.ofYaml`: the value of the only document of a text.
-/

namespace TypedText
namespace Yaml

open Ascii

namespace Breakdown

/-- A text that is tagged as a truth value, and is no word for one. -/
def noTruthValue (word : Text) : Breakdown :=
  ⟨"KeyError", word.quoted⟩

def noTimestamp : Breakdown :=
  ⟨"AttributeError", Text.ofString "'NoneType' object has no attribute 'groupdict'"⟩

/-- A text that is tagged as a number, and has no digits. -/
def emptyNumber : Breakdown :=
  ⟨"IndexError", Text.ofString "string index out of range"⟩

end Breakdown

/-! ## Scalars -/

def bool? (t : Text) : Option Bool :=
  if isOneOf (lower t) ["yes", "true", "on"] then some true
  else if isOneOf (lower t) ["no", "false", "off"] then some false
  else none

def withoutLines (t : Text) : Text :=
  t.filter fun c => c.val ≠ 0x5F

def noInteger (base : Nat) (t : Text) : Fault :=
  .noSuchValue (Text.ofString s!"invalid literal for int() with base {base}: " ++ t.quoted)

def maxDigits : Nat := 4300

def tooManyDigits (count : Nat) : Fault :=
  let limit := maxDigits
  .noSuchValue (Text.ofString (s!"Exceeds the limit ({limit} digits) for integer string conversion: " ++
    s!"value has {count} digits; use sys.set_int_max_str_digits() to increase the limit"))

def natural (base : Nat) (digit : CodePoint → Bool) (t : Text) : Except Fault Nat :=
  let count := (t.takeWhile digit).length
  if base = 10 ∧ maxDigits < count then .error (tooManyDigits count)
  else if !t.isEmpty && t.all digit then .ok (numberOf base t)
  else .error (noInteger base t)

def naturalParts : List Text → Except Fault (List Nat)
  | [] => .ok []
  | t :: rest =>
    match natural 10 isDigit t with
    | .error e => .error e
    | .ok n => (naturalParts rest).map (n :: ·)

def ofSixties (parts : List Nat) : Nat :=
  parts.foldl (fun n d => 60 * n + d) 0

/-- A leading zero makes a number octal. -/
def unsignedInt (t : Text) : Except Fault Nat :=
  if t.isEmpty then .error (.breakdown .emptyNumber)
  else if t = [0x30] then .ok 0
  else if t.take 2 = Text.ofString "0b" then natural 2 isBinaryDigit (t.drop 2)
  else if t.take 2 = Text.ofString "0x" then natural 16 isHexDigit (t.drop 2)
  else if t.head? = some 0x30 then natural 8 isOctalDigit t
  else if t.any (·.val = 0x3A) then (naturalParts (t.splitOn 0x3A)).map ofSixties
  else natural 10 isDigit t

def int (t : Text) : Except Fault Int :=
  let t := withoutLines t
  (unsignedInt (unsigned t)).map fun n => if isNegative t then -(n : Int) else n

def noFloat (t : Text) : Fault :=
  .noSuchValue (Text.ofString "could not convert string to float: " ++ t.quoted)

def decimal (t : Text) : Except Fault Double :=
  let whole := t.takeWhile isDigit
  let rest := t.dropWhile isDigit
  let (fraction, rest) :=
    match rest with
    | c :: rest =>
      if c.val = 0x2E then (rest.takeWhile isDigit, rest.dropWhile isDigit) else ([], c :: rest)
    | [] => ([], [])
  let exponent? : Option Int :=
    match rest with
    | [] => some 0
    | c :: rest =>
      let digits := unsigned rest
      if c.val = 0x65 && !digits.isEmpty && digits.all isDigit then
        some (if isNegative rest then -(numberOf 10 digits : Int) else numberOf 10 digits)
      else none
  match exponent? with
  | some e =>
    if (whole ++ fraction).isEmpty then .error (noFloat t)
    else .ok (Double.ofDecimal false (numberOf 10 (whole ++ fraction)) (e - fraction.length))
  | none => .error (noFloat t)

/-- Parts of base 60, summed from the least significant one, which alone may have a fraction. -/
def sumSixties (parts : List Double) : Double :=
  let sum := parts.foldr (fun x (total, base) => (total + x.toFloat * base, base * 60))
    ((0 : Float), (1 : Float))
  Double.ofFloat sum.1

def decimalParts : List Text → Except Fault (List Double)
  | [] => .ok []
  | t :: rest =>
    match decimal t with
    | .error e => .error e
    | .ok x => (decimalParts rest).map (x :: ·)

def negate (x : Double) : Double :=
  Double.ofFloat (-x.toFloat)

def float (t : Text) : Except Fault Double :=
  let t := lower (withoutLines t)
  let size := unsigned t
  if t.isEmpty then .error (.breakdown .emptyNumber)
  else if isOneOf size [".inf"] then .ok (Double.infinity (isNegative t))
  else if isOneOf size [".nan"] then .ok .nan
  else
    let found :=
      if size.any (·.val = 0x3A) then (decimalParts (size.splitOn 0x3A)).map sumSixties
      else decimal size
    found.map fun x => if isNegative t then negate x else x

def isLeap (year : Nat) : Bool :=
  year % 4 == 0 && (year % 100 ≠ 0 || year % 400 == 0)

def daysIn (year month : Nat) : Nat :=
  if month = 2 then (if isLeap year then 29 else 28)
  else if month = 4 ∨ month = 6 ∨ month = 9 ∨ month = 11 then 30
  else 31

def noDate {α : Type} (reason : String) : Except Fault α :=
  .error (.noSuchValue (Text.ofString reason))

def date (year month day : Nat) : Except Fault Date :=
  if year = 0 then noDate "year 0 is out of range"
  else if month = 0 ∨ 12 < month then noDate "month must be in 1..12"
  else if day = 0 ∨ daysIn year month < day then noDate "day is out of range for month"
  else .ok ⟨year, month, day⟩

def microseconds (fraction : Text) : Nat :=
  numberOf 10 ((fraction ++ List.replicate 6 0x30).take 6)

/-- Seconds as whole days and the seconds left, which are never negative. -/
def daysAndSeconds (seconds : Int) : String :=
  let days := seconds / 86400
  let left := seconds % 86400
  s!"datetime.timedelta(days={days}" ++ (if left = 0 then ")" else s!", seconds={left})")

/-- A distance from universal time in seconds, which must be less than a day. -/
def zone (negative : Bool) (hours minutes : Nat) : Except Fault Int :=
  let size : Int := hours * 3600 + minutes * 60
  let seconds := if negative then -size else size
  if 86400 ≤ size then
    noDate ("offset must be a timedelta strictly between -timedelta(hours=24) and " ++
      "timedelta(hours=24), not " ++ daysAndSeconds seconds ++ ".")
  else .ok seconds

def zone? : Option (Bool × Nat × Nat) → Except Fault (Option Int)
  | none => .ok none
  | some (negative, hours, minutes) => (zone negative hours minutes).map some

def timestamp (s : Timestamp) : Except Fault Scalar :=
  match s.time with
  | none => (date s.year s.month s.day).map .date
  | some (hour, minute, second, fraction) =>
    match zone? s.zone with
    | .error e => .error e
    | .ok zone =>
      match date s.year s.month s.day with
      | .error e => .error e
      | .ok d =>
        if 23 < hour then noDate "hour must be in 0..23"
        else if 59 < minute then noDate "minute must be in 0..59"
        else if 59 < second then noDate "second must be in 0..59"
        else .ok (.moment d ⟨hour, minute, second, microseconds fraction, zone⟩)

end Yaml

/-- The value of a scalar with its tag; `none` if the tag is not one of a scalar value. -/
def Scalar.ofTagged (t : Text) : Yaml.Tag → Except Yaml.Fault Scalar
  | .null => .ok .null
  | .bool =>
    match Yaml.bool? t with
    | some b => .ok (.bool b)
    | none => .error (.breakdown (.noTruthValue t.lowerRoot))
  | .int => (Yaml.int t).map .int
  | .float => (Yaml.float t).map .float
  | .timestamp =>
    match Yaml.Timestamp.ofText? t with
    | some s => Yaml.timestamp s
    | none => .error (.breakdown .noTimestamp)
  | .text => .ok (.text t)
  | _ => .error .malformed

namespace Yaml
namespace Node

/-- The key that merges is recognised by its tag; the key for a default counts as a text. -/
def keyTag : Tag → Tag
  | .default => .text
  | t => t

def isMerge : Node → Bool
  | .scalar .merge _ => true
  | _ => false

mutual

def value : Node → Except Fault Value
  | .scalar tag text => (Scalar.ofTagged text tag).map .scalar
  | .sequence tag items =>
    match values items with
    | .error e => .error e
    | .ok vs => if tag = .sequence then .ok (.list vs) else .error .malformed
  | .mapping tag entries =>
    match pairs entries with
    | .error e => .error e
    | .ok (merged, own) =>
      if tag = .mapping then
        .ok (.map ((merged ++ own).foldl (fun es (k, v) => Entries.insert k v es) []))
      else .error .malformed

def values : List Node → Except Fault (List Value)
  | [] => .ok []
  | n :: rest =>
    match value n with
    | .error e => .error e
    | .ok v => (values rest).map (v :: ·)

def pairs : List (Node × Node) → Except Fault (List (Scalar × Value) × List (Scalar × Value))
  | [] => .ok ([], [])
  | (k, v) :: rest =>
    if isMerge k then
      match mergedBy v with
      | .error e => .error e
      | .ok more => (pairs rest).map fun (merged, own) => (more ++ merged, own)
    else
      match k with
      | .scalar tag text =>
        match Scalar.ofTagged text (keyTag tag) with
        | .error e => .error e
        | .ok key =>
          match value v with
          | .error e => .error e
          | .ok v => (pairs rest).map fun (merged, own) => (merged, (key, v) :: own)
      | _ => .error .malformed

/-- The entries that a merge brings in: those of one mapping or of several, the first winning. -/
def mergedBy : Node → Except Fault (List (Scalar × Value))
  | .scalar _ _ => .error .malformed
  | .mapping _ entries => (pairs entries).map fun (merged, own) => merged ++ own
  | .sequence _ items => mergedFrom items

def mergedFrom : List Node → Except Fault (List (Scalar × Value))
  | [] => .ok []
  | n :: rest =>
    match n with
    | .mapping _ entries =>
      match pairs entries with
      | .error e => .error e
      | .ok (merged, own) => (mergedFrom rest).map (· ++ (merged ++ own))
    | _ => .error .malformed

end

end Node

/-- Tabs, line ends, and what is no control, surrogate or reserved character. -/
def isAllowed (c : CodePoint) : Bool :=
  c.val == 0x09 || c.val == 0x0A || (0x20 ≤ c.val && c.val ≤ 0x7E) || c.val == 0x85 ||
    (0xA0 ≤ c.val && c.val ≤ 0xD7FF) || (0xE000 ≤ c.val && c.val ≤ 0xFFFD) || 0x10000 ≤ c.val

end Yaml

/-- The value of the only document of a text whose line ends are line feeds; an empty text has the
value null. -/
def Value.ofYaml (t : Text) : Except Yaml.Fault Value :=
  if t.all Yaml.isAllowed then
    match Yaml.Token.ofText t with
    | .error e => .error e
    | .ok tokens =>
      match Yaml.Node.ofTokens tokens with
      | .error e => .error e
      | .ok none => .ok .null
      | .ok (some n) => n.value
  else .error .malformed

end TypedText
