import TypedText.Proofs.Text.Unpaired

/-!
# TypedText.Proofs.Text.Whole

Reading a whole text. The texts that encode scalar values are those without unpaired surrogates
(`paired_iff_encodes`), and on them every way to the code points gives the values encoded: reading
forward, reading backward, and taking the units as they are where none is a surrogate. On any other
text each way reports the first unpaired surrogate (`codePoints_cases`).
-/

namespace TypedText

/-- The outcome of an operation that was stopped by an unpaired surrogate. -/
def ReportsUnpaired {α : Type} (r : Except TextError α) : Prop :=
  ∃ u i, r = .error (.unpaired u i)

namespace Text

variable {t : Text} {cs : List CodePoint}

theorem hasSurrogate_eq_false_iff : t.hasSurrogate = false ↔ ∀ c ∈ t, c.isSurrogate = false := by
  simp [hasSurrogate]

theorem hasSurrogate_cons_eq_false_iff {c : CodePoint} :
    hasSurrogate (c :: t) = false ↔ c.isSurrogate = false ∧ t.hasSurrogate = false := by
  rw [hasSurrogate, List.any_cons, Bool.or_eq_false_iff, hasSurrogate]

theorem hasSurrogate_append_eq_false {s : Text} (hs : s.hasSurrogate = false)
    (ht : t.hasSurrogate = false) : hasSurrogate (s ++ t) = false := by
  rw [hasSurrogate, List.any_append, Bool.or_eq_false_iff]
  exact ⟨hs, ht⟩

theorem spans_whole_iff : Spans t 0 t.length cs ↔ Encodes t cs := by
  constructor
  · intro h
    have := h.encodes
    rwa [slice_whole] at this
  · intro h
    exact ⟨Nat.zero_le _, Nat.le_refl _, by rwa [slice_whole]⟩

theorem readRange_whole (t : Text) : t.readRange 0 t.length = .ok t.reading := by
  have h := readRange_eq (Nat.zero_le t.length) (Nat.le_refl t.length)
  rw [slice_whole] at h
  exact h

theorem reading_eq_iff : t.reading = (cs, none) ↔ Encodes t cs := by
  rw [← spans_whole_iff, ← readRange_eq_ok_iff]
  show _ ↔ t.readRange 0 t.length = _
  rw [readRange_whole, Except.ok.injEq]

theorem read_backward_eq_iff : read .backward t.reverse = ⟨cs.reverse, []⟩ ↔ Encodes t cs := by
  rw [read_eq_iff, Direction.order_backward, Direction.order_backward, List.reverse_reverse,
    List.reverse_reverse]

theorem reading_cases (t : Text) :
    (∃ cs, Encodes t cs ∧ t.reading = (cs, none)) ∨
      ∃ i u cs, t.FirstUnpaired 0 t.length i ∧ t[i]? = some u ∧ Spans t 0 i cs ∧
        t.reading = (cs, some (.unpaired u i)) := by
  rcases readRange_cases (Nat.zero_le t.length) (Nat.le_refl t.length) with
    ⟨cs, hs, hr⟩ | ⟨i, u, cs, hi, hu, hs, hr⟩
  · exact .inl ⟨cs, spans_whole_iff.mp hs, Except.ok.inj ((readRange_whole t).symm.trans hr)⟩
  · exact .inr ⟨i, u, cs, hi, hu, hs, Except.ok.inj ((readRange_whole t).symm.trans hr)⟩

theorem paired_iff_encodes : t.Paired ↔ ∃ cs, Encodes t cs := by
  constructor
  · intro h
    rcases t.reading_cases with ⟨cs, hs, -⟩ | ⟨i, u, cs, hi, -⟩
    · exact ⟨cs, hs⟩
    · exact absurd hi.1 (h i)
  · rintro ⟨cs, h⟩ i
    exact (spans_whole_iff.mpr h).not_unpaired

theorem encodes_self (h : t.hasSurrogate = false) : Encodes t t :=
  .self (hasSurrogate_eq_false_iff.mp h)

/-- The code points of a text are what it encodes, however they are come by; otherwise its first
unpaired surrogate is reported. -/
theorem codePoints_cases (t : Text) :
    (∃ cs, Encodes t cs ∧ t.codePoints = .ok cs) ∨
      ∃ i u, t.FirstUnpaired 0 t.length i ∧ t[i]? = some u ∧
        t.codePoints = .error (.unpaired u i) := by
  cases hsur : t.hasSurrogate with
  | false => exact .inl ⟨t, encodes_self hsur, by simp [codePoints, hsur]⟩
  | true =>
    rcases t.reading_cases with ⟨cs, hs, hr⟩ | ⟨i, u, cs, hi, hu, -, hr⟩
    · exact .inl ⟨cs, hs, by simp [codePoints, hsur, hr]⟩
    · exact .inr ⟨i, u, hi, hu, by simp [codePoints, hsur, hr]⟩

theorem codePoints_eq_ok_iff : t.codePoints = .ok cs ↔ Encodes t cs := by
  rcases t.codePoints_cases with ⟨ds, hs, hr⟩ | ⟨i, u, hi, -, hr⟩
  · rw [hr, Except.ok.injEq]
    exact ⟨fun h => h ▸ hs, fun h => hs.unique h⟩
  · rw [hr]
    constructor
    · intro h; cases h
    · intro h; exact absurd hi.1 ((paired_iff_encodes.mpr ⟨cs, h⟩) i)

theorem codePointCount_encoded (h : Encodes t cs) : t.codePointCount = .ok cs.length := by
  rw [codePointCount, codePoints_eq_ok_iff.mpr h]
  rfl

theorem codePoints_reportsUnpaired (h : ¬ t.Paired) : ReportsUnpaired t.codePoints := by
  rcases t.codePoints_cases with ⟨cs, hs, -⟩ | ⟨i, u, -, -, herr⟩
  · exact absurd (paired_iff_encodes.mpr ⟨cs, hs⟩) h
  · exact ⟨u, i, herr⟩

theorem toCodePoints_whole (t : Text) : t.toCodePoints 0 t.length = t.codePoints := by
  cases t with
  | nil => rfl
  | cons u rest =>
    have hvalid : validRange (u :: rest) 0 (u :: rest).length = true := by
      simp only [validRange, Bool.and_eq_true, decide_eq_true_eq]; omega
    simp only [toCodePoints, codePoints, List.isEmpty_cons, hvalid, Int.toNat_natCast]
    have hslice : slice (u :: rest) (Int.toNat 0) (u :: rest).length = u :: rest := slice_whole _
    rw [readRange_whole, hslice]
    cases hr : reading (u :: rest) with
    | mk cs fault? => cases fault? <;> simp

end Text
end TypedText
