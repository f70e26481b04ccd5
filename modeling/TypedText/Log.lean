import TypedText.Ascii
import TypedText.Text.Quoted
import TypedText.Unicode.Casing
import TypedText.Unicode.Letters
import TypedText.Unicode.Spaces

/-!
# TypedText.Log

Levels of log messages, and log lines. A line is written by a template in which `%(name)s` and its
like stand for the fields of the message.

* `Log.levelNumber`: the number of a level by its name.
* `Log.isTemplate`: whether a text holds a field, as a template must.
* `Log.line?`: the line a template gives.
-/

namespace TypedText

inductive LogLevel
  | debug
  | info
  | warning
  | error
  | critical
  deriving DecidableEq, Repr

namespace LogLevel

def name : LogLevel → String
  | debug => "DEBUG"
  | info => "INFO"
  | warning => "WARNING"
  | error => "ERROR"
  | critical => "CRITICAL"

def number : LogLevel → Nat
  | debug => 10
  | info => 20
  | warning => 30
  | error => 40
  | critical => 50

def all : List LogLevel :=
  [debug, info, warning, error, critical]

def ofName? (t : Text) : Option LogLevel :=
  all.find? fun l => Text.ofString l.name == t

end LogLevel

structure LogEntry where
  level : LogLevel
  message : Text
  deriving DecidableEq, Repr

namespace Log

open Ascii (isAnyOf isDigit)

def root : String := "ime_text_utils"

/-- Names that are levels without being among the five. -/
def otherLevels : List (String × Nat) :=
  [("WARN", 30), ("FATAL", 50), ("NOTSET", 0)]

/-- The number of the level with this name in any case; of any other name, that of a warning. -/
def levelNumber (name : Text) : Nat :=
  let name := name.upperRoot
  match LogLevel.ofName? name with
  | some l => l.number
  | none =>
    match otherLevels.find? fun (n, _) => Text.ofString n == name with
    | some (_, number) => number
    | none => LogLevel.warning.number

/-! ## Templates -/

/-- A field of a template: which one, how wide, how much of it, and in what form. -/
structure Field where
  name : Text
  flags : Text
  width : Text
  precision : Option Text
  form : CodePoint
  deriving DecidableEq, Repr

def isWordUnit (c : CodePoint) : Bool :=
  c.val == 0x5F || Unicode.Run.mem c.val Unicode.letters ||
    Unicode.Run.mem c.val Unicode.decimalDigits

def takeSize (t : Text) : Text × Text :=
  match t with
  | c :: rest => if c.val = 0x2A then ([c], rest) else (t.takeWhile isDigit, t.dropWhile isDigit)
  | [] => ([], [])

def takeField? (t : Text) : Option (Field × Text) :=
  match t with
  | c :: rest =>
    if c.val = 0x28 then
      let name := rest.takeWhile isWordUnit
      match rest.dropWhile isWordUnit with
      | d :: rest =>
        if d.val = 0x29 && !name.isEmpty then
          let flags := rest.takeWhile (isAnyOf "#0+ -")
          let (width, rest) := takeSize (rest.dropWhile (isAnyOf "#0+ -"))
          let (precision, rest) :=
            match rest with
            | e :: after =>
              if e.val = 0x2E then
                let (p, after) := takeSize after
                (some p, after)
              else (none, rest)
            | [] => (none, rest)
          match rest with
          | form :: rest =>
            if isAnyOf "diouxefgcrsaDIOUXEFGCRSA%" form && precision ≠ some [] then
              some (⟨name, flags, width, precision, form⟩, rest)
            else none
          | [] => none
        else none
      | [] => none
    else none
  | [] => none

/-- Without a field, nothing of the message would show. -/
def isTemplate : Text → Bool
  | [] => false
  | c :: rest => (c.val == 0x25 && (takeField? rest).isSome) || isTemplate rest

def defaultTemplate : Text :=
  Text.ofString "%(message)s"

def orDefault (template : Text) : Text :=
  if template.isEmpty then defaultTemplate else template

def noTemplate (template : Text) : Text :=
  Text.ofString "Invalid format '" ++ template ++ Text.ofString "' for '%' style"

structure Record where
  level : LogLevel
  logger : String
  message : Text

namespace Record

def textField? (r : Record) (name : Text) : Option Text :=
  match name.toString? with
  | some "levelname" => some (Text.ofString r.level.name)
  | some "name" => some (Text.ofString r.logger)
  | some "message" => some r.message
  | some "msg" => some r.message
  | _ => none

def numberField? (r : Record) (name : Text) : Option Nat :=
  if name = Text.ofString "levelno" then some r.level.number else none

end Record

def number (digits : Text) : Nat :=
  digits.foldl (fun n c => 10 * n + (c.val - 0x30)) 0

/-- Filled up with spaces, on the right if the flags say so. -/
def pad (f : Field) (t : Text) : Text :=
  let spaces := List.replicate (number f.width - t.length) 0x20
  if f.flags.any (·.val = 0x2D) then t ++ spaces else spaces ++ t

def padNumber (f : Field) (t : Text) : Text :=
  if f.flags.any (·.val = 0x30) && !f.flags.any (·.val = 0x2D) then
    List.replicate (number f.width - t.length) 0x30 ++ t
  else pad f t

def shorten (f : Field) (t : Text) : Text :=
  match f.precision with
  | some p => t.take (number p)
  | none => t

def signed (f : Field) (t : Text) : Text :=
  if f.flags.any (·.val = 0x2B) then 0x2B :: t
  else if f.flags.any (·.val = 0x20) then 0x20 :: t
  else t

/-- How a field is written; `none` if the record has no such field or not in this form. -/
def fieldText? (r : Record) (f : Field) : Option Text :=
  if f.width = [0x2A] || f.precision = some [0x2A] then none
  else if f.form.val = 0x25 then some [0x25]
  else if f.form.val = 0x73 ∨ f.form.val = 0x72 then
    let plain :=
      match r.textField? f.name with
      | some t => some (if f.form.val = 0x72 then t.quoted else t)
      | none => (r.numberField? f.name).map fun n => Text.ofString (toString n)
    plain.map fun t => pad f (shorten f t)
  else if isAnyOf "diu" f.form then
    (r.numberField? f.name).map fun n => padNumber f (signed f (Text.ofString (toString n)))
  else none

/-- The line that a template gives for a record, if it can be written. Every field takes units, so
their number bounds the number of steps. -/
def lineUpTo? (r : Record) : Nat → Text → Option Text
  | _, [] => some []
  | 0, _ => none
  | fuel + 1, c :: rest =>
    if c.val = 0x25 then
      match rest with
      | [] => none
      | d :: after =>
        if d.val = 0x25 then (lineUpTo? r fuel after).map (0x25 :: ·)
        else
          match takeField? rest with
          | none => none
          | some (f, after) =>
            match fieldText? r f, lineUpTo? r fuel after with
            | some t, some ts => some (t ++ ts)
            | _, _ => none
    else (lineUpTo? r fuel rest).map (c :: ·)

def line? (template : Text) (r : Record) : Option Text :=
  lineUpTo? r template.length template

end Log
end TypedText
