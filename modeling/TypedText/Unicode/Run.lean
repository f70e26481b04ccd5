/-!
# TypedText.Unicode.Run

Sets of numbers written as runs, and maps written as runs that are shifted. A run goes from its first
number to its last in equal steps; pairs of an upper-case and a lower-case letter alternate, so
steps of two are common.
-/

namespace TypedText
namespace Unicode

structure Run where
  first : Nat
  last : Nat
  step : Nat
  deriving DecidableEq, Repr

namespace Run

def contains (r : Run) (n : Nat) : Bool :=
  r.first ≤ n && n ≤ r.last && (n - r.first) % r.step == 0

/-- Whether one of the runs holds the number; the runs ascend. -/
def mem (n : Nat) : List Run → Bool
  | [] => false
  | r :: rest => if n < r.first then false else r.contains n || mem n rest

end Run

/-- A run whose numbers are all mapped by the same distance: the first one to `image`. -/
structure ShiftRun where
  first : Nat
  last : Nat
  step : Nat
  image : Nat
  deriving DecidableEq, Repr

namespace ShiftRun

def contains (r : ShiftRun) (n : Nat) : Bool :=
  r.first ≤ n && n ≤ r.last && (n - r.first) % r.step == 0

/-- The image of the number, if one of the runs holds it; the runs ascend. -/
def find? (n : Nat) : List ShiftRun → Option Nat
  | [] => none
  | r :: rest =>
    if n < r.first then none
    else if r.contains n then some (r.image + (n - r.first))
    else find? n rest

end ShiftRun

end Unicode
end TypedText
