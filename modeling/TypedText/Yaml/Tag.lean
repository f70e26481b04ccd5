import TypedText.Yaml.Cursor

/-!
# TypedText.Yaml.Tag

Tags say what kind of value a node stands for. A plain scalar without a tag gets one from its form,
by the rules of YAML 1.1: many spellings of truth values, integers of base 2, 8, 10 and 16, numbers
of base 60 written with colons, floating point numbers with a period, dates and times.

* `Tag.ofPlain`: the tag of a plain scalar.
* `Tag.ofName`: the tag with a given full name.
-/

namespace TypedText
namespace Yaml

open Ascii

inductive Tag
  | null
  | bool
  | int
  | float
  | timestamp
  | text
  /-- The key whose value is merged into the mapping around it. -/
  | merge
  /-- The key for the default value of a mapping. -/
  | default
  | sequence
  | mapping
  | unknown
  deriving DecidableEq, Repr

/-! ## Forms of scalars -/

def unsigned (t : Text) : Text :=
  match t with
  | c :: rest => if c.val = 0x2B ∨ c.val = 0x2D then rest else t
  | [] => []

def isNegative (t : Text) : Bool :=
  t.head?.any (·.val == 0x2D)

def isDigitOrLine (c : CodePoint) : Bool :=
  isDigit c || c.val == 0x5F

def isOneOf (t : Text) (words : List String) : Bool :=
  words.any fun w => Text.ofString w == t

/-- Text after a mark of the base: not empty, and made of digits of the base and underscores. -/
def isBased (mark : String) (digit : CodePoint → Bool) (t : Text) : Bool :=
  t.take 2 == Text.ofString mark && !(t.drop 2).isEmpty &&
    (t.drop 2).all fun c => digit c || c.val == 0x5F

def isBinaryDigit (c : CodePoint) : Bool :=
  c.val == 0x30 || c.val == 0x31

def isOctalDigit (c : CodePoint) : Bool :=
  0x30 ≤ c.val && c.val ≤ 0x37

/-- Groups of a colon and a number below 60, as many as there are: their number and the rest. -/
def sixties : Text → Nat × Text
  | c :: d :: e :: rest =>
    if c.val = 0x3A && isDigit d then
      if d.val ≤ 0x35 && isDigit e then
        match sixties rest with
        | (n, rest) => (n + 1, rest)
      else
        match sixties (e :: rest) with
        | (n, rest) => (n + 1, rest)
    else (0, c :: d :: e :: rest)
  | [c, d] => if c.val = 0x3A && isDigit d then (1, []) else (0, [c, d])
  | t => (0, t)

/-- A digit that `first` allows, then digits and underscores: what follows them. -/
def afterDigits? (first : CodePoint → Bool) : Text → Option Text
  | c :: rest => if first c then some (rest.dropWhile isDigitOrLine) else none
  | [] => none

def isNonzeroDigit (c : CodePoint) : Bool :=
  isDigit c && c.val ≠ 0x30

def isUnsignedInt (t : Text) : Bool :=
  isBased "0b" isBinaryDigit t || isBased "0x" isHexDigit t ||
    (t.head? == some 0x30 && t.all fun c => isOctalDigit c || c.val == 0x5F) ||
    match afterDigits? isNonzeroDigit t with
    | none => false
    | some rest =>
      rest.isEmpty ||
        match sixties rest with
        | (n, rest) => n ≠ 0 && rest.isEmpty

def isInt (t : Text) : Bool :=
  isUnsignedInt (unsigned t)

/-- Nothing, or an `e` with a sign and digits. -/
def isExponent : Text → Bool
  | [] => true
  | c :: d :: rest =>
    (c.val == 0x65 || c.val == 0x45) && (d.val == 0x2B || d.val == 0x2D) && !rest.isEmpty &&
      rest.all isDigit
  | _ => false

def isFraction (t : Text) : Bool :=
  match afterDigits? isDigit t with
  | some (c :: rest) => c.val == 0x2E && isExponent (rest.dropWhile isDigitOrLine)
  | _ => false

def isBareFraction (t : Text) : Bool :=
  match t with
  | c :: rest =>
    c.val == 0x2E &&
      match afterDigits? isDigit rest with
      | some rest => isExponent rest
      | none => false
  | [] => false

def isSixtiesFraction (t : Text) : Bool :=
  match afterDigits? isDigit t with
  | none => false
  | some rest =>
    match sixties rest with
    | (n, c :: rest) => n ≠ 0 && c.val == 0x2E && rest.all isDigitOrLine
    | _ => false

def isFloat (t : Text) : Bool :=
  isFraction (unsigned t) || isBareFraction t || isSixtiesFraction (unsigned t) ||
    isOneOf (unsigned t) [".inf", ".Inf", ".INF"] || isOneOf t [".nan", ".NaN", ".NAN"]

def isNull (t : Text) : Bool :=
  t.isEmpty || isOneOf t ["~", "null", "Null", "NULL"]

def isBool (t : Text) : Bool :=
  isOneOf t ["yes", "Yes", "YES", "no", "No", "NO", "true", "True", "TRUE", "false", "False",
    "FALSE", "on", "On", "ON", "off", "Off", "OFF"]

/-! ## Dates and times -/

/-- What stands in a timestamp, read but not checked. -/
structure Timestamp where
  year : Nat
  month : Nat
  day : Nat
  /-- Hour, minute, second and the digits of the fraction, if there is a time. -/
  time : Option (Nat × Nat × Nat × Text)
  /-- Sign, hours and minutes of the distance from universal time, if it is given. -/
  zone : Option (Bool × Nat × Nat)
  deriving DecidableEq, Repr

def takeDigits? (width : Nat) (t : Text) : Option (Nat × Text) :=
  if (t.take width).length = width && (t.take width).all isDigit then
    some (numberOf 10 (t.take width), t.drop width)
  else none

/-- One or two digits, as many as there are. -/
def takeShort? (t : Text) : Option (Nat × Text) :=
  (takeDigits? 2 t).or (takeDigits? 1 t)

def expect? (n : Nat) : Text → Option Text
  | c :: rest => if c.val = n then some rest else none
  | [] => none

/-- Blanks and a distance from universal time, up to the end. -/
def takeZone? (t : Text) : Option (Option (Bool × Nat × Nat)) :=
  if t.isEmpty then some none
  else
    match t.dropWhile isBlank with
    | [] => none
    | c :: rest =>
      if c.val = 0x5A then if rest.isEmpty then some (some (false, 0, 0)) else none
      else if c.val = 0x2B ∨ c.val = 0x2D then do
        let (hours, rest) ← takeShort? rest
        if rest.isEmpty then pure (some (c.val == 0x2D, hours, 0))
        else
          let (minutes, rest) ← takeDigits? 2 (← expect? 0x3A rest)
          if rest.isEmpty then pure (some (c.val == 0x2D, hours, minutes)) else none
      else none

def dropDateEnd? : Text → Option Text
  | c :: rest =>
    if c.val = 0x54 ∨ c.val = 0x74 then some rest
    else if isBlank c then some (rest.dropWhile isBlank)
    else none
  | [] => none

/-- Month, day and hour may leave out a leading zero. -/
def Timestamp.ofText? (t : Text) : Option Timestamp := do
  let (year, t) ← takeDigits? 4 t
  let (month, t) ← takeShort? (← expect? 0x2D t)
  let (day, rest) ← takeShort? (← expect? 0x2D t)
  if rest.isEmpty then some ⟨year, month, day, none, none⟩
  else
    let (hour, t) ← takeShort? (← dropDateEnd? rest)
    let (minute, t) ← takeDigits? 2 (← expect? 0x3A t)
    let (second, t) ← takeDigits? 2 (← expect? 0x3A t)
    let (fraction, t) :=
      match t with
      | c :: rest =>
        if c.val = 0x2E then (rest.takeWhile isDigit, rest.dropWhile isDigit) else ([], t)
      | [] => ([], t)
    let zone ← takeZone? t
    some ⟨year, month, day, some (hour, minute, second, fraction), zone⟩

/-- A date alone leaves out no zeros when it has no tag, so it has ten characters. -/
def isTimestamp (t : Text) : Bool :=
  match Timestamp.ofText? t with
  | none => false
  | some s => s.time.isSome || t.length == 10

namespace Tag

def ofPlain (t : Text) : Tag :=
  if isNull t then .null
  else if isBool t then .bool
  else if isFloat t then .float
  else if isInt t then .int
  else if isTimestamp t then .timestamp
  else if isOneOf t ["<<"] then .merge
  else if isOneOf t ["="] then .default
  else .text

def coreNames : Text :=
  Text.ofString "tag:yaml.org,2002:"

def ofName (name : Text) : Tag :=
  if name.take coreNames.length = coreNames then
    match Text.toString? (name.drop coreNames.length) with
    | some "null" => .null
    | some "bool" => .bool
    | some "int" => .int
    | some "float" => .float
    | some "timestamp" => .timestamp
    | some "str" => .text
    | some "merge" => .merge
    | some "value" => .default
    | some "seq" => .sequence
    | some "map" => .mapping
    | _ => .unknown
  else .unknown

end Tag
end Yaml
end TypedText
