import TypedText.Double
import TypedText.Text

/-!
# TypedText.Value

Configuration values: scalars, lists of values, and mappings from scalars to values. A mapping keeps
its entries in the order in which their keys first came, each key once.

Keys are equal by value, so `1`, `1.0` and the truth value true are one key.

* `Scalar.sameKey`: equality of keys.
* `Entries.find?`, `Entries.insert`: a mapping's entries by key.
-/

namespace TypedText

structure Date where
  year : Nat
  month : Nat
  day : Nat
  deriving DecidableEq, Repr

def paddedNumber (width n : Nat) : String :=
  let digits := Nat.toDigits 10 n
  String.ofList (List.replicate (width - digits.length) '0' ++ digits)

namespace Date

def text (d : Date) : String :=
  paddedNumber 4 d.year ++ "-" ++ paddedNumber 2 d.month ++ "-" ++ paddedNumber 2 d.day

end Date

/-- A time of day, its distance from universal time in seconds if it is given. -/
structure TimeOfDay where
  hour : Nat
  minute : Nat
  second : Nat
  microsecond : Nat
  zone : Option Int
  deriving DecidableEq, Repr

namespace TimeOfDay

def zoneText (seconds : Int) : String :=
  let minutes := seconds.natAbs / 60
  (if seconds < 0 then "-" else "+") ++ paddedNumber 2 (minutes / 60) ++ ":" ++
    paddedNumber 2 (minutes % 60)

/-- The fraction of a second is left out if there is none. -/
def text (t : TimeOfDay) : String :=
  paddedNumber 2 t.hour ++ ":" ++ paddedNumber 2 t.minute ++ ":" ++ paddedNumber 2 t.second ++
    (if t.microsecond = 0 then "" else "." ++ paddedNumber 6 t.microsecond) ++
    (t.zone.map zoneText).getD ""

end TimeOfDay

inductive Scalar
  | null
  | bool (b : Bool)
  | int (n : Int)
  | float (x : Double)
  | text (t : Text)
  | date (d : Date)
  | moment (d : Date) (t : TimeOfDay)
  /-- A value that nothing here looks into, by what its kind is called and how it is written. -/
  | other (kind form : String)
  deriving DecidableEq, Repr

inductive Value
  | scalar (s : Scalar)
  | list (items : List Value)
  | map (entries : List (Scalar × Value))

abbrev Entries := List (Scalar × Value)

namespace Scalar

/-- The number a scalar stands for, truth values counting as zero and one. -/
def number? : Scalar → Option Rat
  | bool b => some (if b then 1 else 0)
  | int n => some n
  | float x => x.toRat?
  | _ => none

/-- Numbers are compared by value, anything else only with its own kind. -/
def sameKey (a b : Scalar) : Bool :=
  match a.number?, b.number? with
  | some x, some y => x == y
  | none, none => a == b && a != .float .nan
  | _, _ => false

end Scalar

namespace Entries

def find? (key : Scalar) : Entries → Option Value
  | [] => none
  | (k, v) :: rest => if k.sameKey key then some v else find? key rest

/-- Gives the key a new value, at its place if it has one and at the end otherwise. -/
def insert (key : Scalar) (value : Value) : Entries → Entries
  | [] => [(key, value)]
  | (k, v) :: rest =>
    if k.sameKey key then (k, value) :: rest else (k, v) :: insert key value rest

def get? (entries : Entries) (key : Text) : Option Value :=
  find? (.text key) entries

end Entries

namespace Value

def null : Value := .scalar .null

instance : Inhabited Value := ⟨null⟩

mutual

def decEq : (v w : Value) → Decidable (v = w)
  | .scalar s, .scalar t => decidable_of_iff (s = t) (by simp)
  | .list vs, .list ws => @decidable_of_iff _ (vs = ws) (by simp) (decEqItems vs ws)
  | .map es, .map fs => @decidable_of_iff _ (es = fs) (by simp) (decEqEntries es fs)
  | .scalar _, .list _ => .isFalse (by simp)
  | .scalar _, .map _ => .isFalse (by simp)
  | .list _, .scalar _ => .isFalse (by simp)
  | .list _, .map _ => .isFalse (by simp)
  | .map _, .scalar _ => .isFalse (by simp)
  | .map _, .list _ => .isFalse (by simp)

def decEqItems : (vs ws : List Value) → Decidable (vs = ws)
  | [], [] => .isTrue rfl
  | v :: vs, w :: ws =>
    @decidable_of_iff _ (v = w ∧ vs = ws) (by simp)
      (@instDecidableAnd _ _ (decEq v w) (decEqItems vs ws))
  | [], _ :: _ => .isFalse (by simp)
  | _ :: _, [] => .isFalse (by simp)

def decEqEntries : (es fs : List (Scalar × Value)) → Decidable (es = fs)
  | [], [] => .isTrue rfl
  | (k, v) :: es, (l, w) :: fs =>
    @decidable_of_iff _ (k = l ∧ v = w ∧ es = fs) (by simp [and_assoc])
      (@instDecidableAnd _ _ _ (@instDecidableAnd _ _ (decEq v w) (decEqEntries es fs)))
  | [], _ :: _ => .isFalse (by simp)
  | _ :: _, [] => .isFalse (by simp)

end

instance : DecidableEq Value := decEq

def text (t : Text) : Value := .scalar (.text t)

def bool (b : Bool) : Value := .scalar (.bool b)

/-- What a message calls the kind of a value. -/
def kind : Value → String
  | scalar .null => "NoneType"
  | scalar (.bool _) => "bool"
  | scalar (.int _) => "int"
  | scalar (.float _) => "float"
  | scalar (.text _) => "str"
  | scalar (.date _) => "date"
  | scalar (.moment _ _) => "datetime"
  | scalar (.other kind _) => kind
  | list _ => "list"
  | map _ => "dict"

end Value
end TypedText
