import TypedText.Text.Reading

/-!
# TypedText.Proofs.Text.Units

The units of one code point. A scalar value is stored as itself; one above `0xFFFF` may instead be
stored as a high and a low unit, which carry the upper and the lower ten bits of its distance from
`0x10000`. Joining two units is the inverse of splitting a code point this way (`join?_eq_some_iff`),
and `split?`, in either direction, takes off exactly the units of one code point
(`split?_eq_some_iff`).
-/

namespace TypedText

namespace CodePoint

/-- The high unit of the pair for a code point above `0xFFFF`. -/
def high (c : CodePoint) : CodePoint :=
  ⟨0xD800 + (c.val - 0x10000) / 0x400, by have := c.isLt; omega⟩

/-- The low unit of the pair for a code point above `0xFFFF`. -/
def low (c : CodePoint) : CodePoint :=
  ⟨0xDC00 + (c.val - 0x10000) % 0x400, by omega⟩

theorem isHigh_iff {c : CodePoint} : c.isHigh = true ↔ 0xD800 ≤ c.val ∧ c.val ≤ 0xDBFF := by
  simp [isHigh]

theorem isLow_iff {c : CodePoint} : c.isLow = true ↔ 0xDC00 ≤ c.val ∧ c.val ≤ 0xDFFF := by
  simp [isLow]

theorem isSurrogate_iff {c : CodePoint} :
    c.isSurrogate = true ↔ 0xD800 ≤ c.val ∧ c.val ≤ 0xDFFF := by
  simp [isSurrogate]

theorem isSurrogate_iff_high_or_low {c : CodePoint} :
    c.isSurrogate = true ↔ c.isHigh = true ∨ c.isLow = true := by
  rw [isSurrogate_iff, isHigh_iff, isLow_iff]; omega

theorem isSurrogate_eq_false_iff {c : CodePoint} :
    c.isSurrogate = false ↔ c.isHigh = false ∧ c.isLow = false := by
  simp only [← Bool.not_eq_true, isSurrogate_iff_high_or_low, not_or]

theorem isLow_eq_false_of_isHigh {c : CodePoint} (h : c.isHigh = true) : c.isLow = false := by
  rw [isHigh_iff] at h
  rw [Bool.eq_false_iff, ne_eq, isLow_iff]; omega

theorem isHigh_eq_false_of_isLow {c : CodePoint} (h : c.isLow = true) : c.isHigh = false := by
  rw [isLow_iff] at h
  rw [Bool.eq_false_iff, ne_eq, isHigh_iff]; omega

@[simp] theorem isHigh_high (c : CodePoint) : c.high.isHigh = true := by
  have := c.isLt
  rw [isHigh_iff]; simp only [high]; omega

@[simp] theorem isLow_low (c : CodePoint) : c.low.isLow = true := by
  rw [isLow_iff]; simp only [low]; omega

@[simp] theorem isSurrogate_high (c : CodePoint) : c.high.isSurrogate = true :=
  isSurrogate_iff_high_or_low.mpr (.inl (isHigh_high c))

@[simp] theorem isSurrogate_low (c : CodePoint) : c.low.isSurrogate = true :=
  isSurrogate_iff_high_or_low.mpr (.inr (isLow_low c))

theorem isSurrogate_of_supplementary {c : CodePoint} (h : 0xFFFF < c.val) :
    c.isSurrogate = false := by
  rw [Bool.eq_false_iff, ne_eq, isSurrogate_iff]; omega

@[simp] theorem join_high_low {c : CodePoint} (h : 0xFFFF < c.val) : join c.high c.low = c := by
  have := c.isLt
  ext
  simp only [join, high, low]
  omega

/-- A pair stands for one code point, and that code point has no other pair. -/
theorem join?_eq_some_iff {u v c : CodePoint} :
    join? u v = some c ↔ 0xFFFF < c.val ∧ u = c.high ∧ v = c.low := by
  constructor
  · intro h
    simp only [join?, Bool.and_eq_true, isHigh_iff, isLow_iff] at h
    split at h
    · rename_i huv
      cases h
      refine ⟨by simp only [join]; omega, ?_, ?_⟩
      · ext; simp only [join, high]; omega
      · ext; simp only [join, low]; omega
    · cases h
  · rintro ⟨hc, rfl, rfl⟩
    simp [join?, hc]

end CodePoint

/-- The units that store one scalar value: the value itself or, above `0xFFFF`, its pair. -/
inductive Stores : Text → CodePoint → Prop where
  | unit {c : CodePoint} : c.isSurrogate = false → Stores [c] c
  | pair {c : CodePoint} : 0xFFFF < c.val → Stores [c.high, c.low] c

namespace Stores

theorem isSurrogate {us : Text} {c : CodePoint} (h : Stores us c) : c.isSurrogate = false := by
  cases h with
  | unit hc => exact hc
  | pair hc => exact CodePoint.isSurrogate_of_supplementary hc

theorem length_pos {us : Text} {c : CodePoint} (h : Stores us c) : 0 < us.length := by
  cases h <;> simp

end Stores

/-- How a scalar value is written where it can be written in two ways. -/
inductive Form where
  | unit
  | pair
  deriving DecidableEq, Repr

namespace CodePoint

/-- The units of a scalar value in a form; up to `0xFFFF` a value has one form only. -/
def store (c : CodePoint) : Form → Text
  | .unit => [c]
  | .pair => if 0xFFFF < c.val then [c.high, c.low] else [c]

theorem stores_store {c : CodePoint} (h : c.isSurrogate = false) (f : Form) :
    Stores (c.store f) c := by
  cases f with
  | unit => exact .unit h
  | pair =>
    simp only [store]
    split
    · rename_i hc; exact .pair hc
    · exact .unit h

theorem exists_form {us : Text} {c : CodePoint} (h : Stores us c) : ∃ f, us = c.store f := by
  cases h with
  | unit _ => exact ⟨.unit, rfl⟩
  | pair hc => exact ⟨.pair, by simp [store, hc]⟩

end CodePoint

namespace Direction

/-- A list in the order in which its elements are met. -/
def order {α : Type} : Direction → List α → List α
  | forward, l => l
  | backward, l => l.reverse

@[simp] theorem order_forward {α : Type} (l : List α) : forward.order l = l := rfl
@[simp] theorem order_backward {α : Type} (l : List α) : backward.order l = l.reverse := rfl

end Direction

namespace Text

theorem split?_surrogate {d : Direction} {u : CodePoint} {rest : Text}
    (h : u.isSurrogate = true) :
    split? d (u :: rest) =
      match rest with
      | [] => none
      | v :: rest => (d.join? u v).map (·, rest) := by
  cases rest <;> simp [split?, h]

theorem split?_scalar {d : Direction} {u : CodePoint} {rest : Text}
    (h : u.isSurrogate = false) : split? d (u :: rest) = some (u, rest) := by
  simp [split?, h]

theorem split?_forward_low {u : CodePoint} {rest : Text} (h : u.isLow = true) :
    split? .forward (u :: rest) = none := by
  rw [split?_surrogate (CodePoint.isSurrogate_iff_high_or_low.mpr (.inr h))]
  cases rest with
  | nil => rfl
  | cons v rest =>
    simp [Direction.join?, CodePoint.join?, CodePoint.isHigh_eq_false_of_isLow h]

theorem split?_backward_high {u : CodePoint} {rest : Text} (h : u.isHigh = true) :
    split? .backward (u :: rest) = none := by
  rw [split?_surrogate (CodePoint.isSurrogate_iff_high_or_low.mpr (.inl h))]
  cases rest with
  | nil => rfl
  | cons v rest =>
    simp [Direction.join?, CodePoint.join?, CodePoint.isLow_eq_false_of_isHigh h]

/-- What is taken off are the units of one code point, in the order in which they are met. -/
theorem split?_eq_some_iff {d : Direction} {t : Text} {c : CodePoint} {rest : Text} :
    t.split? d = some (c, rest) ↔ ∃ us, Stores us c ∧ t = d.order us ++ rest := by
  constructor
  · intro h
    cases t with
    | nil => cases h
    | cons u t =>
      cases hu : u.isSurrogate with
      | false =>
        rw [split?_scalar hu] at h
        cases h
        exact ⟨[c], .unit hu, by cases d <;> rfl⟩
      | true =>
        rw [split?_surrogate hu] at h
        cases t with
        | nil => cases h
        | cons v t =>
          simp only [Option.map_eq_some_iff, Prod.mk.injEq] at h
          obtain ⟨c', hj, rfl, rfl⟩ := h
          cases d with
          | forward =>
            obtain ⟨hc, rfl, rfl⟩ := CodePoint.join?_eq_some_iff.mp hj
            exact ⟨_, .pair hc, rfl⟩
          | backward =>
            obtain ⟨hc, rfl, rfl⟩ := CodePoint.join?_eq_some_iff.mp hj
            exact ⟨_, .pair hc, rfl⟩
  · rintro ⟨us, hs, rfl⟩
    cases hs with
    | unit hc => cases d <;> simp [split?_scalar hc]
    | pair hc =>
      have hj := CodePoint.join?_eq_some_iff.mpr ⟨hc, rfl, rfl⟩
      cases d <;> simp [split?_surrogate, Direction.join?, hj]

end Text

end TypedText
