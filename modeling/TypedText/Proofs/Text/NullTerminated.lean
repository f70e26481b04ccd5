import TypedText.Proofs.Text.Buffer

/-!
# TypedText.Proofs.Text.NullTerminated

From numbers to a text and back. The numbers before the first zero are the units of a text if they are code
points, and nothing behind that zero matters (`ofNullTerminated_cases`). Read back, these units are the same
numbers only if there is no surrogate among them: two that are a pair come back as one code point, and any
other one is refused. The other way round, the code points of a text make the text with its pairs joined,
unless one of them is the zero that ends it.

* `BeforeZero`: what stands before the first zero.
* `ReportsInvalid`: the outcome of an operation on a number that is no code point.
* `readBack_iff`: when the numbers of a text are its code points.
* `ofNullTerminated_roundTrip`: both ways, for all numbers and texts.
-/

namespace TypedText

def ReportsInvalid {α : Type} (r : Except TextError α) : Prop :=
  ∃ n, r = .error (.invalidCodePoint n)

/-- What stands before the first zero of some numbers, which is all of them if none is zero. -/
def BeforeZero (numbers front : List Int) : Prop :=
  0 ∉ front ∧ (numbers = front ∨ ∃ rest, numbers = front ++ 0 :: rest)

variable {numbers front : List Int} {t : Text} {cs : List CodePoint}

theorem BeforeZero.takeWhile (h : BeforeZero numbers front) : numbers.takeWhile (· ≠ 0) = front := by
  obtain ⟨hzero, rfl | ⟨rest, rfl⟩⟩ := h
  · simpa [hzero] using takeWhile_ne_zero_append numbers []
  · rw [takeWhile_ne_zero_append, if_neg hzero]
    simp

theorem exists_beforeZero (numbers : List Int) : ∃ front, BeforeZero numbers front := by
  induction numbers with
  | nil => exact ⟨[], by simp, .inl rfl⟩
  | cons n rest ih =>
    by_cases hn : n = 0
    · exact ⟨[], by simp, .inr ⟨rest, by rw [hn]; rfl⟩⟩
    · obtain ⟨front, hzero, hrest⟩ := ih
      refine ⟨n :: front, by simp [Ne.symm hn, hzero], ?_⟩
      rcases hrest with rfl | ⟨after, rfl⟩
      · exact .inl rfl
      · exact .inr ⟨after, rfl⟩

namespace Text

/-- The numbers before the first zero are the units of the text, or one of them is no code point. -/
theorem ofNullTerminated_cases (h : BeforeZero numbers front) :
    (∃ s, CodePoint.toInts s = front ∧ ofNullTerminated numbers = .ok s) ∨
      ∃ n ∈ front, ¬ (0 ≤ n ∧ n ≤ 0x10FFFF) ∧
        ofNullTerminated numbers = .error (.invalidCodePoint n) := by
  rw [ofNullTerminated, h.takeWhile]
  exact CodePoint.ofInts_cases front

theorem reportsInvalid_ofNullTerminated_iff (h : BeforeZero numbers front) :
    ReportsInvalid (ofNullTerminated numbers) ↔ ∃ n ∈ front, ¬ (0 ≤ n ∧ n ≤ 0x10FFFF) := by
  rcases ofNullTerminated_cases h with ⟨s, rfl, hok⟩ | ⟨n, hn, hrange, herr⟩
  · constructor
    · rintro ⟨m, herr⟩
      rw [hok] at herr
      cases herr
    · rintro ⟨n, hn, hrange⟩
      exact absurd (CodePoint.range_of_mem_toInts hn) hrange
  · exact ⟨fun _ => ⟨n, hn, hrange⟩, fun _ => ⟨n, herr⟩⟩

theorem readBack_iff (s : Text) :
    (∃ cs, s.toCodePoints 0 s.length = .ok cs ∧ CodePoint.toInts cs = CodePoint.toInts s) ↔
      ∀ n ∈ CodePoint.toInts s, ¬ (0xD800 ≤ n ∧ n ≤ 0xDFFF) := by
  have hscalars : (∀ n ∈ CodePoint.toInts s, ¬ (0xD800 ≤ n ∧ n ≤ 0xDFFF)) ↔
      ∀ c ∈ s, c.isSurrogate = false := by
    rw [← CodePoint.isScalar_toInts]
    refine forall₂_congr fun n hn => ?_
    have := CodePoint.range_of_mem_toInts hn
    rw [IsScalar]
    omega
  rw [hscalars, toCodePoints_whole]
  constructor
  · rintro ⟨cs, hcs, hsame⟩
    rw [codePoints_eq_ok_iff, CodePoint.toInts_injective hsame] at hcs
    exact hcs.isSurrogate_eq_false
  · intro h
    exact ⟨s, codePoints_eq_ok_iff.mpr (.self h), rfl⟩

/-- A surrogate, wherever it stands, makes the code points fewer or the text unreadable. -/
theorem readBack_of_surrogate {s : Text} (h : s.hasSurrogate = true) :
    ReportsUnpaired (s.toCodePoints 0 s.length) ∨
      ∃ cs, s.toCodePoints 0 s.length = .ok cs ∧ cs.length < s.length := by
  rw [toCodePoints_whole]
  rcases s.codePoints_cases with ⟨cs, hcs, hok⟩ | ⟨i, u, -, -, herr⟩
  · refine .inr ⟨cs, hok, Nat.lt_of_not_le fun hlen => ?_⟩
    rw [hcs.eq_of_length_le hlen, hasSurrogate_eq_false_iff.mpr hcs.isSurrogate_eq_false] at h
    cases h
  · exact .inl ⟨u, i, herr⟩

theorem ofNullTerminated_toInts (h : 0 ∉ cs) : ofNullTerminated (CodePoint.toInts cs) = .ok cs := by
  have hzero : BeforeZero (CodePoint.toInts cs) (CodePoint.toInts cs) := by
    refine ⟨fun hmem => ?_, .inl rfl⟩
    obtain ⟨c, hc, hval⟩ := List.mem_map.mp hmem
    have hzero : c = 0 := CodePoint.ext (Int.ofNat_inj.mp hval)
    exact h (hzero ▸ hc)
  rw [ofNullTerminated, hzero.takeWhile, CodePoint.ofInts_toInts]

/-- **Numbers and texts, both ways.** Code points other than zero make a text that is read back as the same
numbers exactly if none of them is a surrogate; otherwise it is read as fewer, or not at all. Of any numbers
only those before the first zero matter, and all that can be wrong with them is that one is no code point.
A text without unpaired surrogates and without a zero is made again by its code points, with its pairs
joined. -/
theorem ofNullTerminated_roundTrip :
    (∀ numbers : List Int, (∀ n ∈ numbers, 1 ≤ n ∧ n ≤ 0x10FFFF) →
      ∃ s, ofNullTerminated numbers = .ok s ∧
        ((∃ cs, s.toCodePoints 0 s.length = .ok cs ∧ CodePoint.toInts cs = numbers) ↔
          ∀ n ∈ numbers, ¬ (0xD800 ≤ n ∧ n ≤ 0xDFFF)) ∧
        (s.hasSurrogate = true → ReportsUnpaired (s.toCodePoints 0 s.length) ∨
          ∃ cs, s.toCodePoints 0 s.length = .ok cs ∧ cs.length < numbers.length)) ∧
    (∀ numbers : List Int, ∃ front, BeforeZero numbers front ∧
      (∀ numbers', BeforeZero numbers' front → ofNullTerminated numbers' = ofNullTerminated numbers) ∧
      (ReportsInvalid (ofNullTerminated numbers) ↔ ∃ n ∈ front, ¬ (0 ≤ n ∧ n ≤ 0x10FFFF)) ∧
      (ReportsInvalid (ofNullTerminated numbers) ∨
        ∃ s, ofNullTerminated numbers = .ok s ∧ CodePoint.toInts s = front)) ∧
    ∀ t : Text, t.Paired → 0 ∉ t → ∃ cs n, t.toCodePoints 0 t.length = .ok cs ∧ t.joinPairs = .ok n ∧
      ofNullTerminated (CodePoint.toInts cs) = .ok n := by
  refine ⟨fun numbers hrange => ?_, fun numbers => ?_, fun t ht hzero => ?_⟩
  · have hall : BeforeZero numbers numbers := by
      refine ⟨fun hmem => ?_, .inl rfl⟩
      have := hrange 0 hmem
      omega
    rcases ofNullTerminated_cases hall with ⟨s, rfl, hok⟩ | ⟨n, hn, hbad, -⟩
    · refine ⟨s, hok, readBack_iff s, fun hsur => ?_⟩
      rw [CodePoint.length_toInts]
      exact readBack_of_surrogate hsur
    · have := hrange n hn
      omega
  · obtain ⟨front, hfront⟩ := exists_beforeZero numbers
    refine ⟨front, hfront, fun numbers' h' => ?_, reportsInvalid_ofNullTerminated_iff hfront, ?_⟩
    · rw [ofNullTerminated, ofNullTerminated, h'.takeWhile, hfront.takeWhile]
    · rcases ofNullTerminated_cases hfront with ⟨s, hs, hok⟩ | ⟨n, -, -, herr⟩
      · exact .inr ⟨s, hok, hs⟩
      · exact .inl ⟨n, herr⟩
  · obtain ⟨cs, hcs⟩ := paired_iff_encodes.mp ht
    have hok := codePoints_eq_ok_iff.mpr hcs
    refine ⟨cs, cs, by rw [toCodePoints_whole, hok], hok, ofNullTerminated_toInts fun hmem => ?_⟩
    exact hzero (hcs.mem_of_bmp (by decide) hmem)

/-- An emoji stored as a pair: its units as numbers, and a text that has it behind a comma. -/
theorem ofNullTerminated_roundTrip_pair :
    ((∀ n ∈ ([0x61, 0xD83D, 0xDE00] : List Int), 1 ≤ n ∧ n ≤ 0x10FFFF) ∧
      Paired [0x2C, 0xD83D, 0xDE00] ∧ 0 ∉ ([0x2C, 0xD83D, 0xDE00] : Text)) ∧
    (∃ s, ofNullTerminated [0x61, 0xD83D, 0xDE00] = .ok s ∧
      ¬ ∃ cs, s.toCodePoints 0 s.length = .ok cs ∧
        CodePoint.toInts cs = [0x61, 0xD83D, 0xDE00]) ∧
    ∃ cs n, toCodePoints [0x2C, 0xD83D, 0xDE00] 0 3 = .ok cs ∧
      joinPairs [0x2C, 0xD83D, 0xDE00] = .ok n ∧ ofNullTerminated (CodePoint.toInts cs) = .ok n := by
  have hrange : ∀ n ∈ ([0x61, 0xD83D, 0xDE00] : List Int), 1 ≤ n ∧ n ≤ 0x10FFFF := by decide
  have hpaired : Paired [0x2C, 0xD83D, 0xDE00] := by decide
  have hzero : 0 ∉ ([0x2C, 0xD83D, 0xDE00] : Text) := by decide
  obtain ⟨s, hs, hreadBack, -⟩ := ofNullTerminated_roundTrip.1 _ hrange
  exact ⟨⟨hrange, hpaired, hzero⟩, ⟨s, hs, fun h => hreadBack.mp h 0xD83D (by decide) (by decide)⟩,
    ofNullTerminated_roundTrip.2.2 _ hpaired hzero⟩

end Text
end TypedText
