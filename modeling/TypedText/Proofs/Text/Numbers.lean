import TypedText.Proofs.Text.Units
import TypedText.Text.CodePoints

/-!
# TypedText.Proofs.Text.Numbers

Code points as numbers, and the numbers that are code points. Going from one to the other loses nothing
(`ofInt?_eq_some_iff`), and all that can be wrong with a list of numbers is that one of them is out of range
(`ofInts_cases`).

* `CodePoint.toInts`: the numbers of code points.
* `IsScalar`: being the number of a code point that is no surrogate.
-/

namespace TypedText

/-- A code point that is no surrogate, as a number. -/
def IsScalar (n : Int) : Prop :=
  0 ≤ n ∧ n < 0x110000 ∧ ¬ (0xD800 ≤ n ∧ n ≤ 0xDFFF)

instance (n : Int) : Decidable (IsScalar n) :=
  inferInstanceAs (Decidable (_ ∧ _ ∧ _))

namespace CodePoint

def toInts (cs : List CodePoint) : List Int :=
  cs.map fun c => (c.val : Int)

variable {n : Int} {c : CodePoint} {cs ds : List CodePoint}

theorem ofInt?_eq_some_iff : ofInt? n = some c ↔ (c.val : Int) = n := by
  constructor
  · intro h
    simp only [ofInt?] at h
    split at h
    · cases h
      exact Int.toNat_of_nonneg (by omega)
    · cases h
  · rintro rfl
    have hlt := c.isLt
    have hrange : 0 ≤ (c.val : Int) ∧ (c.val : Int) < 0x110000 := by omega
    simp only [ofInt?, dif_pos hrange, Int.toNat_natCast]

theorem ofInt?_eq_none_iff : ofInt? n = none ↔ ¬ (0 ≤ n ∧ n ≤ 0x10FFFF) := by
  simp only [ofInt?]
  split
  · simp; omega
  · simp; omega

@[simp] theorem length_toInts (cs : List CodePoint) : (toInts cs).length = cs.length :=
  List.length_map _

theorem range_of_mem_toInts (h : n ∈ toInts cs) : 0 ≤ n ∧ n ≤ 0x10FFFF := by
  obtain ⟨c, -, rfl⟩ := List.mem_map.mp h
  have hlt := c.isLt
  omega

theorem toInts_injective (h : toInts cs = toInts ds) : cs = ds :=
  (List.map_inj_right fun _ _ hval => CodePoint.ext (Int.ofNat_inj.mp hval)).mp h

/-- The numbers are those of code points, or one that is out of range is reported. -/
theorem ofInts_cases (numbers : List Int) :
    (∃ cs, toInts cs = numbers ∧ ofInts numbers = .ok cs) ∨
      ∃ n ∈ numbers, ¬ (0 ≤ n ∧ n ≤ 0x10FFFF) ∧ ofInts numbers = .error (.invalidCodePoint n) := by
  induction numbers with
  | nil => exact .inl ⟨[], rfl, rfl⟩
  | cons n rest ih =>
    cases hn : ofInt? n with
    | none =>
      exact .inr ⟨n, List.mem_cons_self, ofInt?_eq_none_iff.mp hn, by simp only [ofInts, hn]⟩
    | some c =>
      rcases ih with ⟨cs, rfl, hok⟩ | ⟨m, hm, hrange, herr⟩
      · refine .inl ⟨c :: cs, ?_, by simp only [ofInts, hn, hok]⟩
        rw [toInts, List.map_cons, ofInt?_eq_some_iff.mp hn, ← toInts]
      · exact .inr ⟨m, List.mem_cons_of_mem n hm, hrange, by simp only [ofInts, hn, herr]⟩

theorem ofInts_toInts (cs : List CodePoint) : ofInts (toInts cs) = .ok cs := by
  rcases ofInts_cases (toInts cs) with ⟨ds, hds, hok⟩ | ⟨n, hn, hrange, -⟩
  · rw [hok, toInts_injective hds]
  · exact absurd (range_of_mem_toInts hn) hrange

theorem isScalar_val : IsScalar c.val ↔ c.isSurrogate = false := by
  have hlt := c.isLt
  rw [Bool.eq_false_iff, ne_eq, isSurrogate_iff, IsScalar]
  omega

theorem isScalar_toInts : (∀ n ∈ toInts cs, IsScalar n) ↔ ∀ c ∈ cs, c.isSurrogate = false := by
  simp only [toInts, List.forall_mem_map, isScalar_val]

theorem exists_toInts {numbers : List Int} (h : ∀ n ∈ numbers, IsScalar n) :
    ∃ cs, toInts cs = numbers := by
  rcases ofInts_cases numbers with ⟨cs, hcs, -⟩ | ⟨n, hn, hrange, -⟩
  · exact ⟨cs, hcs⟩
  · obtain ⟨hpos, hlt, -⟩ := h n hn
    omega

end CodePoint
end TypedText
