import TypedText.Editing
import TypedText.Proofs.Representation

/-!
# TypedText.Proofs.Editing

Editing never breaks a text. Without unpaired surrogates at the start, and with none in what is typed, no
edit makes one (`run_cases`), so every text that editing leads to can be read (`applyAll_paired`).

* `backspace_encoded`, `backspace_pastStart`: taking code points off the end, as far as there are any.
* `backspace_append`: it takes off exactly what has been appended.
* `Text.Answers`: every question about the text has an answer.
* `editing_safe`: the texts that editing leads to, and the edits that can be made there.
-/

namespace TypedText

variable {l : Locale} {t s : Text} {cs ds : List CodePoint} {n : Nat} {e : Edit}

namespace Text

theorem paired_of_encodes (h : Encodes t cs) : t.Paired :=
  paired_iff_encodes.mpr ⟨cs, h⟩

section Backspace

theorem backspace_of_spans {cut : Nat} (h : Spans t cut t.length ds) :
    t.backspace ds.length = .ok (t.take cut) := by
  have hoffset : t.offset t.length (-(ds.length : Int)) = .ok cut :=
    offset_eq_ok_iff.mpr (.inr ⟨ds, h, rfl⟩)
  rw [backspace, hoffset]

theorem backspace_encoded (h : Encodes t cs) (hn : n ≤ cs.length) :
    ∃ r, t.backspace n = .ok r ∧ Encodes r (cs.take (cs.length - n)) := by
  have hspans := spans_whole_iff.mpr h
  rw [← List.take_append_drop (cs.length - n) cs] at hspans
  obtain ⟨cut, hkept, hgone⟩ := hspans.split
  have hlen : (cs.drop (cs.length - n)).length = n := by
    rw [List.length_drop]
    omega
  have hback := backspace_of_spans hgone
  rw [hlen] at hback
  exact ⟨t.take cut, hback, hkept.encodes_take⟩

theorem backspace_pastStart (h : Encodes t cs) (hn : cs.length < n) :
    t.backspace n = .error .pastStart := by
  have hrange : 0 ≤ (t.length : Int) ∧ (t.length : Int) ≤ t.length := by omega
  have hback : ¬ 0 ≤ -(n : Int) := by omega
  have habs : (-(n : Int)).natAbs = n := by omega
  have hoffset : t.offset t.length (-(n : Int)) = .error .pastStart := by
    simp only [offset, if_pos hrange, if_neg hback, habs, Int.toNat_natCast]
    exact retreat_pastStart (spans_whole_iff.mpr h) hn
  rw [backspace, hoffset]

theorem backspace_append (t : Text) (h : Encodes s ds) : backspace (t ++ s) ds.length = .ok t := by
  have hdrop : (t ++ s).drop t.length = s ++ [] := by simp
  have hle : t.length ≤ (t ++ s).length := by simp
  have hspans := Spans.of_drop hdrop hle h
  rw [← List.length_append] at hspans
  rw [backspace_of_spans hspans, List.take_left]

end Backspace

theorem upcase_encoded (h : Encodes t cs) : t.upcase l = .ok (l.cased .upper cs) := by
  simp only [upcase, planUpcase, CasePlan.run, CaseStep.runAll, CaseStep.run_change h,
    List.append_nil]

end Text

namespace Edit

/-- What is appended has no unpaired surrogate, and what is taken off is a number of code points. -/
def Proper : Edit → Prop
  | append added => added.Paired
  | backspace count => 0 ≤ count
  | _ => True

instance : (e : Edit) → Decidable e.Proper
  | append added => inferInstanceAs (Decidable added.Paired)
  | backspace count => inferInstanceAs (Decidable (0 ≤ count))
  | capitalizeFirst _ => inferInstanceAs (Decidable True)
  | capitalizeFirstLowerRest _ => inferInstanceAs (Decidable True)
  | capitalizeEachWord _ _ => inferInstanceAs (Decidable True)
  | upcase _ _ => inferInstanceAs (Decidable True)

/-- The edit can be made, and leaves a text without unpaired surrogates. -/
def Succeeds (t : Text) (e : Edit) : Prop :=
  ∃ r, e.run t = .ok r ∧ r.Paired

theorem succeeds_of_encoded {g : List CodePoint → Text}
    (hrun : ∀ {t cs}, Encodes t cs → e.run t = .ok (g cs))
    (hg : ∀ {cs}, Text.hasSurrogate cs = false → (g cs).hasSurrogate = false) (ht : t.Paired) :
    e.Succeeds t := by
  obtain ⟨-, r, -, hr, -, hscalar⟩ := JoinsAll.of_encoded hrun hg t ht
  exact ⟨r, hr, Text.paired_of_encodes (Text.encodes_self hscalar)⟩

/-- An edit can be made, unless it is to take off more code points than there are. -/
theorem run_cases (ht : Encodes t cs) (he : e.Proper) :
    e.Succeeds t ∨
      ∃ n : Nat, e = .backspace n ∧ cs.length < n ∧ e.run t = .error .pastStart := by
  have hpaired := Text.paired_of_encodes ht
  cases e with
  | append added =>
    obtain ⟨ds, hds⟩ := Text.paired_iff_encodes.mp he
    exact .inl ⟨t ++ added, rfl, Text.paired_of_encodes (ht.append hds)⟩
  | backspace count =>
    obtain ⟨n, rfl⟩ := Int.eq_ofNat_of_zero_le he
    rcases Nat.lt_or_ge cs.length n with hn | hn
    · exact .inr ⟨n, rfl, hn, Text.backspace_pastStart ht hn⟩
    · obtain ⟨r, hr, hkept⟩ := Text.backspace_encoded ht hn
      exact .inl ⟨r, hr, Text.paired_of_encodes hkept⟩
  | capitalizeFirst l =>
    exact .inl (succeeds_of_encoded Text.capitalizeFirst_encoded
      (Locale.hasSurrogate_firstUpper fun _ h => h) hpaired)
  | capitalizeFirstLowerRest l =>
    exact .inl (succeeds_of_encoded Text.capitalizeFirstLowerRest_encoded
      (Locale.hasSurrogate_firstUpper fun _ => Locale.hasSurrogate_cased) hpaired)
  | capitalizeEachWord separators l =>
    exact .inl (succeeds_of_encoded Text.run_planEachWord Locale.hasSurrogate_eachWord hpaired)
  | upcase needed l =>
    cases needed with
    | false => exact .inl ⟨t, rfl, hpaired⟩
    | true => exact .inl (succeeds_of_encoded Text.upcase_encoded Locale.hasSurrogate_cased hpaired)

theorem apply_paired (ht : t.Paired) (he : e.Proper) : (apply t e).Paired := by
  obtain ⟨cs, hcs⟩ := Text.paired_iff_encodes.mp ht
  unfold apply
  rcases run_cases hcs he with ⟨r, hr, hpaired⟩ | ⟨-, -, -, herr⟩
  · rw [hr]
    exact hpaired
  · rw [herr]
    exact ht

theorem applyAll_paired {edits : List Edit} :
    ∀ {t : Text}, t.Paired → (∀ e ∈ edits, e.Proper) → (applyAll t edits).Paired := by
  induction edits with
  | nil => intro t ht _; exact ht
  | cons e rest ih =>
    intro t ht h
    rw [List.forall_mem_cons] at h
    exact ih (apply_paired ht h.1) h.2

end Edit

/-- Every question about the text has an answer. -/
structure Text.Answers (t : Text) : Prop where
  codePointCount : ∃ n, t.codePointCount = .ok n
  capitalization : ∃ c, t.capitalization = .ok c
  lettersAllUpper : ∃ b, t.lettersAllUpper = .ok b
  lettersAllLower : ∃ b, t.lettersAllLower = .ok b
  eachWordCapitalized : ∀ separators, ∃ b, t.eachWordCapitalized separators = .ok b
  looksLikeUrl : ∃ b, t.looksLikeUrl = .ok b
  insideQuoteOrAfterDigit : ∃ b, t.insideQuoteOrAfterDigit = .ok b
  isBlank : ∃ b, t.isBlank = .ok b

theorem Text.answers_of_encodes (h : Encodes t cs) : t.Answers where
  codePointCount := ⟨_, codePointCount_encoded h⟩
  capitalization := by
    rw [capitalization_encoded h]
    exact Capitalization.classify_complete .unicode cs
  lettersAllUpper := ⟨_, lettersAllUpper_encoded h⟩
  lettersAllLower := ⟨_, lettersAllLower_encoded h⟩
  eachWordCapitalized _ := ⟨_, eachWordCapitalized_encoded h⟩
  looksLikeUrl := ⟨_, looksLikeUrl_encoded h⟩
  insideQuoteOrAfterDigit := ⟨_, insideQuoteOrAfterDigit_encoded h⟩
  isBlank := ⟨_, isBlank_encoded h⟩

/-- **Editing is safe.** Start from a text without unpaired surrogates and make any edits. The text `r`
they lead to has no unpaired surrogate, and every question about it has an answer. Any further edit can
be made, except taking off more code points than `r` has, which runs past its start; otherwise as many
are left as one expects, and what has been appended is taken off again exactly. -/
theorem Text.editing_safe {r : Text} {edits : List Edit} (ht : t.Paired)
    (hedits : ∀ e ∈ edits, e.Proper) (hr : Edit.applyAll t edits = r) :
    r.Paired ∧ r.Answers ∧
      ∃ count, r.codePointCount = .ok count ∧
        (∀ e : Edit, e.Proper →
          (∃ s, e.run r = .ok s) ∨
            ∃ n : Nat, e = .backspace n ∧ count < n ∧ e.run r = .error .pastStart) ∧
        (∀ n : Nat, n ≤ count →
          ∃ s, (Edit.backspace n).run r = .ok s ∧ s.codePointCount = .ok (count - n)) ∧
        (∀ n : Nat, count < n → (Edit.backspace n).run r = .error .pastStart) ∧
        ∀ added : Text, added.Paired →
          ∃ n s, added.codePointCount = .ok n ∧ (Edit.append added).run r = .ok s ∧
            (Edit.backspace n).run s = .ok r := by
  have hpaired : r.Paired := by
    rw [← hr]
    exact Edit.applyAll_paired ht hedits
  obtain ⟨cs, hcs⟩ := paired_iff_encodes.mp hpaired
  refine ⟨hpaired, answers_of_encodes hcs, cs.length, codePointCount_encoded hcs, ?_, ?_, ?_, ?_⟩
  · intro e he
    rcases Edit.run_cases hcs he with ⟨s, hs, -⟩ | hfails
    · exact .inl ⟨s, hs⟩
    · exact .inr hfails
  · intro n hn
    obtain ⟨s, hs, hkept⟩ := backspace_encoded hcs hn
    refine ⟨s, hs, ?_⟩
    rw [codePointCount_encoded hkept, List.length_take, Nat.min_eq_left (Nat.sub_le _ n)]
  · intro n hn
    exact backspace_pastStart hcs hn
  · intro added hadded
    obtain ⟨ds, hds⟩ := paired_iff_encodes.mp hadded
    exact ⟨ds.length, r ++ added, codePointCount_encoded hds, rfl, backspace_append r hds⟩

/-- Upper case that grows the text, a backspace too far, a pair that is typed and taken off again with
the code point before it, and a change of case in Turkish. -/
theorem Text.editing_safe_growing :
    (Paired [0xDF, 0xD801, 0xDC28] ∧
      (∀ e ∈ [.upcase true none, .backspace 9, .append [0xD83D, 0xDE00], .backspace 2,
          .capitalizeFirstLowerRest (some (ofString "tr"))], Edit.Proper e) ∧
      Edit.applyAll [0xDF, 0xD801, 0xDC28]
        [.upcase true none, .backspace 9, .append [0xD83D, 0xDE00], .backspace 2,
          .capitalizeFirstLowerRest (some (ofString "tr"))] = [0x53, 0x73]) ∧
    Paired [0x53, 0x73] ∧ Answers [0x53, 0x73] ∧
      ∃ count, codePointCount [0x53, 0x73] = .ok count ∧
        (∀ e : Edit, e.Proper →
          (∃ s, e.run [0x53, 0x73] = .ok s) ∨
            ∃ n : Nat, e = .backspace n ∧ count < n ∧ e.run [0x53, 0x73] = .error .pastStart) ∧
        (∀ n : Nat, n ≤ count →
          ∃ s, Edit.run [0x53, 0x73] (.backspace n) = .ok s ∧
            s.codePointCount = .ok (count - n)) ∧
        (∀ n : Nat, count < n → Edit.run [0x53, 0x73] (.backspace n) = .error .pastStart) ∧
        ∀ added : Text, added.Paired →
          ∃ n s, added.codePointCount = .ok n ∧ Edit.run [0x53, 0x73] (.append added) = .ok s ∧
            Edit.run s (.backspace n) = .ok [0x53, 0x73] :=
  have hpaired : Paired [0xDF, 0xD801, 0xDC28] := by decide
  have hproper : ∀ e ∈ [Edit.upcase true none, .backspace 9, .append [0xD83D, 0xDE00], .backspace 2,
      .capitalizeFirstLowerRest (some (ofString "tr"))], e.Proper := by
    decide
  have hresult : Edit.applyAll [0xDF, 0xD801, 0xDC28]
      [.upcase true none, .backspace 9, .append [0xD83D, 0xDE00], .backspace 2,
        .capitalizeFirstLowerRest (some (ofString "tr"))] = [0x53, 0x73] := by
    decide +kernel
  ⟨⟨hpaired, hproper, hresult⟩, editing_safe hpaired hproper hresult⟩

end TypedText
