import TypedText.Text.CodePoints

/-!
# TypedText.Separators

The code points that start a new word, kept as an ascending list of numbers and searched by
halving. The search is meant for ascending lists; of any other list it may miss an element, and it
never finds what is not there.

* `Separators.ofText`: the code points of a text, each once, in ascending order.
* `Separators.contains`: the search.
-/

namespace TypedText

/-- Numbers of separator code points; `contains` expects them to ascend. -/
abbrev Separators := List Int

namespace Separators

/-- The first index in `[lo, hi]` whose number is not below `n`, if the numbers ascend. -/
def lowerBound (ns : Separators) (n : Int) (lo hi : Nat) (h : hi ≤ ns.length) : Nat :=
  if hlt : lo < hi then
    if ns[(lo + hi) / 2] < n then lowerBound ns n ((lo + hi) / 2 + 1) hi h
    else lowerBound ns n lo ((lo + hi) / 2) (by omega)
  else lo
termination_by hi - lo

def contains (ns : Separators) (n : Int) : Bool :=
  match ns[lowerBound ns n 0 ns.length (Nat.le_refl _)]? with
  | some m => m == n
  | none => false

def insert (n : Int) : Separators → Separators
  | [] => [n]
  | m :: rest =>
    if n < m then n :: m :: rest
    else if n = m then m :: rest
    else m :: insert n rest

def ofCodePoints (cs : List CodePoint) : Separators :=
  cs.foldr (fun c ns => insert c.val ns) []

/-- The code points of a text, each once. -/
def ofText (t : Text) : Except TextError Separators :=
  match t.codePoints with
  | .error e => .error e
  | .ok cs => .ok (ofCodePoints cs)

end Separators
end TypedText
