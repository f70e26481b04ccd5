/-!
# TypedText.Double

Double precision numbers by their bits, so that two are equal exactly when they are the same
number with the same sign, and what a finite one stands for is a statement about integers.

* `Double.parts`: sign, and `mantissa · 2 ^ exponent` for a finite number.
* `Double.ofDecimal`: the double nearest to a decimal fraction.
-/

namespace TypedText

structure Double where
  bits : UInt64
  deriving DecidableEq, Repr

namespace Double

inductive Parts
  | nan
  | infinite (negative : Bool)
  /-- The value is `mantissa · 2 ^ exponent`; `uneven` says that the double below is nearer than
  the one above, which happens at powers of two. -/
  | finite (negative : Bool) (mantissa : Nat) (exponent : Int) (uneven : Bool)
  deriving DecidableEq, Repr

def parts (x : Double) : Parts :=
  let bits : Nat := x.bits.toNat
  let negative := bits / 0x8000000000000000 == 1
  let field : Nat := bits / 0x10000000000000 % 0x800
  let fraction : Nat := bits % 0x10000000000000
  if field = 0x7FF then
    if fraction = 0 then .infinite negative else .nan
  else if field = 0 then .finite negative fraction (-1074) false
  else .finite negative (0x10000000000000 + fraction) ((field : Int) - 1075) (fraction = 0 && 1 < field)

def ofFloat (x : Float) : Double :=
  ⟨x.toBits⟩

def toFloat (x : Double) : Float :=
  Float.ofBits x.bits

def nan : Double :=
  ⟨0x7FF8000000000000⟩

def infinity (negative : Bool) : Double :=
  ⟨if negative then 0xFFF0000000000000 else 0x7FF0000000000000⟩

def zero (negative : Bool) : Double :=
  ⟨if negative then 0x8000000000000000 else 0⟩

/-- How many decimal digits a number has; one for zero. -/
def decimalLength (n : Nat) : Nat :=
  (Nat.toDigits 10 n).length

/-- The double nearest to `digits · 10 ^ exponent`, with a sign. What is far out of range needs no
arithmetic. -/
def ofDecimal (negative : Bool) (digits : Nat) (exponent : Int) : Double :=
  let magnitude := (decimalLength digits : Int) + exponent
  if digits = 0 ∨ magnitude < -330 then zero negative
  else if 330 < magnitude then infinity negative
  else
    let x := Float.ofScientific digits (exponent < 0) exponent.natAbs
    ofFloat (if negative then -x else x)

/-- The value of a finite double as a fraction. -/
def toRat? (x : Double) : Option Rat :=
  match x.parts with
  | .finite negative mantissa exponent _ =>
    let m : Int := if negative then -mantissa else mantissa
    some (if 0 ≤ exponent then (m * (Nat.pow 2 exponent.toNat : Nat) : Int) else mkRat m (Nat.pow 2 exponent.natAbs))
  | _ => none

end Double
end TypedText
