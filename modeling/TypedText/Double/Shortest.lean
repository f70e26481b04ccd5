import TypedText.Double
import TypedText.Text

/-!
# TypedText.Double.Shortest

The shortest decimal that reads back as a given double. Among the decimals of a number of digits,
the two neighbours of the value are tried; the first number of digits at which one of them rounds to
the double wins, and of two that do, the nearer one.

* `Double.shortest`: its digits and its exponent.
* `Double.text`: how configuration values show a double.
-/

namespace TypedText
namespace Double

/-- A positive double in quarters of its last binary place, `quarters · 2 ^ exponent`, and the ends
of the interval of reals that round to it. -/
structure Interval where
  low : Nat
  quarters : Nat
  high : Nat
  exponent : Int
  /-- Whether the ends belong to it. -/
  closed : Bool

def interval (mantissa : Nat) (exponent : Int) (uneven : Bool) : Interval where
  low := 4 * mantissa - (if uneven then 1 else 2)
  quarters := 4 * mantissa
  high := 4 * mantissa + 2
  exponent := exponent - 2
  closed := mantissa % 2 == 0

/-- The decimals `d · 10 ^ place` and the binary quarters, brought to one denominator. -/
structure Grid where
  decimalUnit : Nat
  binaryUnit : Nat

def grid (i : Interval) (place : Int) : Grid where
  decimalUnit := Nat.pow 10 place.toNat * Nat.pow 2 (-i.exponent).toNat
  binaryUnit := Nat.pow 2 i.exponent.toNat * Nat.pow 10 (-place).toNat

def Interval.holds (i : Interval) (g : Grid) (d : Nat) : Bool :=
  let x := d * g.decimalUnit
  if i.closed then i.low * g.binaryUnit ≤ x && x ≤ i.high * g.binaryUnit
  else i.low * g.binaryUnit < x && x < i.high * g.binaryUnit

/-- The decimal on the grid that is nearest to the value among those that round to it. -/
def Interval.onGrid? (i : Interval) (g : Grid) : Option Nat :=
  let x := i.quarters * g.binaryUnit
  let d := x / g.decimalUnit
  let below := x % g.decimalUnit
  let above := g.decimalUnit - below
  if i.holds g d && i.holds g (d + 1) then
    some (if below < above ∨ (below = above ∧ d % 2 = 0) then d else d + 1)
  else if i.holds g d then some d
  else if i.holds g (d + 1) then some (d + 1)
  else none

def leadingZeros (num den : Nat) : Nat → Nat → Nat
  | 0, k => k
  | fuel + 1, k => if den ≤ num * Nat.pow 10 k then k else leadingZeros num den fuel (k + 1)

/-- The place of the first significant digit: the power of ten just below the value. -/
def leadingPlace (mantissa : Nat) (exponent : Int) : Int :=
  let num := mantissa * Nat.pow 2 exponent.toNat
  let den := Nat.pow 2 (-exponent).toNat
  if den ≤ num then (decimalLength (num / den) : Int) - 1
  else -(leadingZeros num den 400 0 : Int)

def search (i : Interval) (leading : Int) : Nat → Nat → Nat × Int
  | 0, digits => (i.quarters, leading - digits)
  | fuel + 1, digits =>
    let place := leading - (digits - 1)
    match i.onGrid? (grid i place) with
    | some d => (d, place)
    | none => search i leading fuel (digits + 1)

def trim : Nat → Nat → Int → Nat × Int
  | 0, d, e => (d, e)
  | fuel + 1, d, e => if d ≠ 0 ∧ d % 10 = 0 then trim fuel (d / 10) (e + 1) else (d, e)

/-- The digits and the exponent of the shortest decimal; seventeen digits always suffice. -/
def shortest (mantissa : Nat) (exponent : Int) (uneven : Bool) : Nat × Int :=
  let (d, e) := search (interval mantissa exponent uneven) (leadingPlace mantissa exponent) 17 1
  trim 20 d e

/-- Exponents of the first digit from -4 to 15 are written out; others follow an `e`, with a sign
and at least two digits. -/
def decimalText (digits : Nat) (exponent : Int) : String :=
  let ds := Nat.toDigits 10 digits
  let first := exponent + (ds.length : Int) - 1
  if -4 ≤ first ∧ first ≤ 15 then
    if 0 ≤ exponent then String.ofList (ds ++ List.replicate exponent.toNat '0') ++ ".0"
    else if 0 ≤ first then
      let whole := (first + 1).toNat
      String.ofList (ds.take whole) ++ "." ++ String.ofList (ds.drop whole)
    else "0." ++ String.ofList (List.replicate (-first - 1).toNat '0' ++ ds)
  else
    let mark := if first < 0 then "e-" else "e+"
    let exponentDigits := Nat.toDigits 10 first.natAbs
    let padding := List.replicate (2 - exponentDigits.length) '0'
    let point := if ds.length = 1 then "" else "."
    String.ofList (ds.take 1) ++ point ++ String.ofList (ds.drop 1) ++ mark ++
      String.ofList (padding ++ exponentDigits)

def text (x : Double) : String :=
  match x.parts with
  | .nan => "nan"
  | .infinite negative => if negative then "-inf" else "inf"
  | .finite negative mantissa exponent uneven =>
    let sign := if negative then "-" else ""
    if mantissa = 0 then sign ++ "0.0"
    else
      let (d, e) := shortest mantissa exponent uneven
      sign ++ decimalText d e

end Double
end TypedText
