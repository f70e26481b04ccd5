import TypedText.Proofs.Text.Whole

/-!
# TypedText.Proofs.Text.Shortcuts

The ways to the code points that do not read each of them. A text without surrogates is taken as it is,
wherever it is cut, and only the code points of a text with nothing in it are given without a look at the
range (`toCodePoints_exhaust`).

* `Text.exhaust`: reading a range to its end, code point by code point.
* `exhaust_cases`: what it comes to.
* `toCodePoints_of_le`: a range inside the text, empty or not, is given as it is read to its end.
-/

namespace TypedText
namespace Text

variable {t : Text} {start stop : Int} {a b : Nat} {cs : List CodePoint}

/-- The code points of a range read to its end, or what keeps it from being read so far. -/
def exhaust (t : Text) (start stop : Int) : Except TextError (List CodePoint) :=
  match t.readRange start stop with
  | .error e => .error e
  | .ok (cs, none) => .ok cs
  | .ok (_, some e) => .error e

theorem exists_of_validRange (h : t.validRange start stop = true) :
    ∃ a b : Nat, start = a ∧ stop = b ∧ a ≤ b ∧ b ≤ t.length := by
  simp only [validRange, Bool.and_eq_true, decide_eq_true_eq] at h
  obtain ⟨⟨hstart, hle⟩, hlen⟩ := h
  exact ⟨start.toNat, stop.toNat, by omega, by omega, by omega, by omega⟩

theorem exhaust_of_invalid (h : t.validRange start stop = false) :
    t.exhaust start stop = .error (.invalidRange start stop t.length) := by
  simp [exhaust, readRange, h]

theorem exhaust_of_spans (h : Spans t a b cs) : t.exhaust a b = .ok cs := by
  rw [exhaust, readRange_eq_ok_iff.mpr h]

theorem exhaust_cases (t : Text) (start stop : Int) :
    (t.validRange start stop = false ∧
      t.exhaust start stop = .error (.invalidRange start stop t.length)) ∨
    ∃ a b : Nat, start = a ∧ stop = b ∧
      ((∃ cs, Spans t a b cs ∧ t.exhaust start stop = .ok cs) ∨
        ∃ i u, t.FirstUnpaired a b i ∧ t[i]? = some u ∧
          t.exhaust start stop = .error (.unpaired u i)) := by
  cases hvalid : t.validRange start stop with
  | false => exact .inl ⟨rfl, exhaust_of_invalid hvalid⟩
  | true =>
    obtain ⟨a, b, rfl, rfl, hle, hlen⟩ := exists_of_validRange hvalid
    refine .inr ⟨a, b, rfl, rfl, ?_⟩
    rcases readRange_cases hle hlen with ⟨cs, hcs, -⟩ | ⟨i, u, cs, hi, hu, -, hread⟩
    · exact .inl ⟨cs, hcs, exhaust_of_spans hcs⟩
    · exact .inr ⟨i, u, hi, hu, by rw [exhaust, hread]⟩

theorem exhaust_of_no_surrogate (hsur : t.hasSurrogate = false) (hle : a ≤ b) (hlen : b ≤ t.length) :
    t.exhaust a b = .ok (t.slice a b) := by
  refine exhaust_of_spans ⟨hle, hlen, .self fun c hc => ?_⟩
  exact hasSurrogate_eq_false_iff.mp hsur c (List.mem_of_mem_drop (List.mem_of_mem_take hc))

theorem toCodePoints_of_ne_nil (h : t ≠ []) : t.toCodePoints start stop = t.exhaust start stop := by
  have hempty : t.isEmpty = false := by simpa using h
  rw [toCodePoints, hempty]
  cases hsur : t.hasSurrogate with
  | true => rfl
  | false =>
    cases hvalid : t.validRange start stop with
    | false => rw [exhaust_of_invalid hvalid]; rfl
    | true =>
      obtain ⟨a, b, rfl, rfl, hle, hlen⟩ := exists_of_validRange hvalid
      rw [exhaust_of_no_surrogate hsur hle hlen]
      rfl

/-- An empty text has one range, which is read to its end like any other. -/
theorem toCodePoints_of_le (hle : a ≤ b) (hlen : b ≤ t.length) :
    t.toCodePoints a b = t.exhaust a b := by
  cases t with
  | nil =>
    obtain rfl := Nat.le_zero.mp hlen
    obtain rfl := Nat.le_zero.mp hle
    rfl
  | cons u rest => exact toCodePoints_of_ne_nil (by simp)

theorem exhaust_whole (t : Text) : t.exhaust 0 t.length = t.codePoints := by
  rw [← toCodePoints_whole]
  exact (toCodePoints_of_le (Nat.zero_le _) (Nat.le_refl _)).symm

/-- **The shortcuts agree with reading code point by code point**, in what they give and in what they
report, but for one thing: an empty text has no code points, whatever range is asked for. -/
theorem toCodePoints_exhaust (t : Text) (start stop : Int) :
    (t.toCodePoints start stop = if t.isEmpty then .ok [] else t.exhaust start stop) ∧
    t.codePointCount = (t.exhaust 0 t.length).map List.length ∧
    t.joinPairs = t.exhaust 0 t.length ∧
    ((t.validRange start stop = false ∧
        t.exhaust start stop = .error (.invalidRange start stop t.length)) ∨
      ∃ a b : Nat, start = a ∧ stop = b ∧
        ((∃ cs, Spans t a b cs ∧ t.exhaust start stop = .ok cs) ∨
          ∃ i u, t.FirstUnpaired a b i ∧ t[i]? = some u ∧
            t.exhaust start stop = .error (.unpaired u i))) := by
  refine ⟨?_, ?_, ?_, exhaust_cases t start stop⟩
  · cases t with
    | nil => rfl
    | cons u rest => exact toCodePoints_of_ne_nil (by simp)
  · rw [exhaust_whole, codePointCount]
  · rw [exhaust_whole, joinPairs]

/-- Of an empty text even a range that is none. -/
theorem toCodePoints_exhaust_empty :
    toCodePoints [] 2 1 = .ok [] ∧ exhaust [] 2 1 = .error (.invalidRange 2 1 0) :=
  ⟨rfl, rfl⟩

end Text
end TypedText
