import TypedText.Proofs.Capitalize
import TypedText.Proofs.Scans

/-!
# TypedText.Proofs.Representation

How a code point is stored does not matter. Every operation on a whole text sees its code points
only: it gives the same for a text and for that text with its pairs joined, whether it reads forward,
reads backward or cuts the text into spans (`representation_independence`). What has no code points is
refused by every operation that needs them all.
-/

namespace TypedText

/-- On a text without unpaired surrogates `f` answers, and it answers the same once the pairs of the
text are joined. -/
def SameWhenJoined {α : Type} (f : Text → Except TextError α) : Prop :=
  ∀ t : Text, t.Paired → ∃ n v, t.joinPairs = .ok n ∧ f t = .ok v ∧ f n = .ok v

/-- As `SameWhenJoined`, with a text for an answer that has no surrogate. -/
def JoinsAll (f : Text → Except TextError Text) : Prop :=
  ∀ t : Text, t.Paired →
    ∃ n r, t.joinPairs = .ok n ∧ f t = .ok r ∧ f n = .ok r ∧ r.hasSurrogate = false

def RefusesUnpaired {α : Type} (f : Text → Except TextError α) : Prop :=
  ∀ t : Text, ¬ t.Paired → ReportsUnpaired (f t)

section Criteria

theorem SameWhenJoined.of_encoded {α : Type} {f : Text → Except TextError α}
    (h : ∀ cs, ∃ v, ∀ t, Encodes t cs → f t = .ok v) : SameWhenJoined f := by
  intro t hp
  obtain ⟨cs, hcs⟩ := Text.paired_iff_encodes.mp hp
  obtain ⟨v, hv⟩ := h cs
  have hself : Encodes cs cs := .self hcs.isSurrogate_eq_false
  exact ⟨cs, v, Text.codePoints_eq_ok_iff.mpr hcs, hv t hcs, hv cs hself⟩

theorem JoinsAll.of_encoded {f : Text → Except TextError Text} {g : List CodePoint → Text}
    (h : ∀ {t cs}, Encodes t cs → f t = .ok (g cs))
    (hg : ∀ {cs}, Text.hasSurrogate cs = false → (g cs).hasSurrogate = false) : JoinsAll f := by
  intro t hp
  obtain ⟨cs, hcs⟩ := Text.paired_iff_encodes.mp hp
  have hsur := hcs.isSurrogate_eq_false
  exact ⟨cs, g cs, Text.codePoints_eq_ok_iff.mpr hcs, h hcs, h (.self hsur),
    hg (Text.hasSurrogate_eq_false_iff.mpr hsur)⟩

end Criteria

namespace Text

theorem codePointCount_refusesUnpaired : RefusesUnpaired codePointCount := by
  intro t h
  obtain ⟨u, i, herr⟩ := codePoints_reportsUnpaired h
  exact ⟨u, i, by rw [codePointCount, herr]; rfl⟩

theorem capitalizeFirst_encoded {l : Locale} {t : Text} {cs : List CodePoint} (h : Encodes t cs) :
    t.capitalizeFirst l = .ok (l.firstUpper id cs) :=
  run_planAfterFirst (fun _ _ hs => CaseStep.run_keep hs) rfl h

theorem capitalizeFirstLowerRest_encoded {l : Locale} {t : Text} {cs : List CodePoint}
    (h : Encodes t cs) : t.capitalizeFirstLowerRest l = .ok (l.firstUpper (l.cased .lower) cs) :=
  run_planAfterFirst (fun _ _ hs => CaseStep.run_change hs) (l.cased_nil .lower) h

/-- **The form of a code point does not show.** Operations on texts without unpaired surrogates
answer, and they answer the same when pairs are joined; those that give a text give one without
surrogates. On a text with an unpaired surrogate, whatever needs all its code points reports one. -/
theorem representation_independence :
    (SameWhenJoined codePointCount ∧
      SameWhenJoined (fun t => t.toCodePoints 0 t.length) ∧
      SameWhenJoined capitalization ∧
      SameWhenJoined lettersAllUpper ∧
      SameWhenJoined lettersAllLower ∧
      (∀ separators, SameWhenJoined (·.eachWordCapitalized separators)) ∧
      SameWhenJoined looksLikeUrl ∧
      SameWhenJoined insideQuoteOrAfterDigit ∧
      SameWhenJoined isBlank ∧
      SameWhenJoined Separators.ofText) ∧
    (∀ l : Locale,
      JoinsAll (CaseMapper.unicode.uppercase l) ∧
      JoinsAll (CaseMapper.unicode.lowercase l) ∧
      JoinsAll (·.capitalizeFirst l) ∧
      JoinsAll (·.capitalizeFirstLowerRest l) ∧
      ∀ separators, JoinsAll (·.capitalizeEachWord separators l)) ∧
    (RefusesUnpaired codePointCount ∧
      RefusesUnpaired (fun t => t.toCodePoints 0 t.length) ∧
      RefusesUnpaired joinPairs) ∧
    ∀ l : Locale,
      RefusesUnpaired (CaseMapper.unicode.uppercase l) ∧
      RefusesUnpaired (CaseMapper.unicode.lowercase l) ∧
      RefusesUnpaired (·.capitalizeFirst l) ∧
      RefusesUnpaired (·.capitalizeFirstLowerRest l) ∧
      ∀ separators, RefusesUnpaired (·.capitalizeEachWord separators l) := by
  refine ⟨⟨?_, ?_, ?_, ?_, ?_, ?_, ?_, ?_, ?_, ?_⟩, fun l => ⟨?_, ?_, ?_, ?_, ?_⟩, ⟨?_, ?_, ?_⟩,
    fun l => ⟨?_, ?_, ?_, ?_, ?_⟩⟩
  -- the scans answer by the code points
  · exact .of_encoded fun cs => ⟨_, fun _ h => codePointCount_encoded h⟩
  · refine .of_encoded fun cs => ⟨cs, fun t h => ?_⟩
    rw [toCodePoints_whole, codePoints_eq_ok_iff]
    exact h
  · refine .of_encoded fun cs => ?_
    obtain ⟨v, hv⟩ := Capitalization.classify_complete .unicode cs
    exact ⟨v, fun t h => (capitalization_encoded h).trans hv⟩
  · exact .of_encoded fun cs => ⟨_, fun _ h => lettersAllUpper_encoded h⟩
  · exact .of_encoded fun cs => ⟨_, fun _ h => lettersAllLower_encoded h⟩
  · intro separators
    exact .of_encoded fun cs => ⟨_, fun _ h => eachWordCapitalized_encoded h⟩
  · exact .of_encoded fun cs => ⟨_, fun _ h => looksLikeUrl_encoded h⟩
  · exact .of_encoded fun cs => ⟨_, fun _ h => insideQuoteOrAfterDigit_encoded h⟩
  · exact .of_encoded fun cs => ⟨_, fun _ h => isBlank_encoded h⟩
  · exact .of_encoded fun cs => ⟨_, fun _ h => Separators.ofText_encoded h⟩
  -- the changes of case give texts of the code points
  · exact .of_encoded (CaseMapper.map_encoded .upper l) Locale.hasSurrogate_cased
  · exact .of_encoded (CaseMapper.map_encoded .lower l) Locale.hasSurrogate_cased
  · exact .of_encoded capitalizeFirst_encoded (Locale.hasSurrogate_firstUpper fun _ h => h)
  · exact .of_encoded capitalizeFirstLowerRest_encoded
      (Locale.hasSurrogate_firstUpper fun _ h => Locale.hasSurrogate_cased h)
  · intro separators
    exact .of_encoded run_planEachWord Locale.hasSurrogate_eachWord
  -- an unpaired surrogate is reported
  · exact codePointCount_refusesUnpaired
  · intro t h
    show ReportsUnpaired (t.toCodePoints 0 t.length)
    rw [toCodePoints_whole]
    exact codePoints_reportsUnpaired h
  · exact fun t h => codePoints_reportsUnpaired h
  · exact fun t h => CaseMapper.map_reportsUnpaired .upper l h
  · exact fun t h => CaseMapper.map_reportsUnpaired .lower l h
  · exact fun t h => planAfterFirst_reportsUnpaired (fun s => CaseStep.run_keep_reportsUnpaired l) h
  · exact fun t h =>
      planAfterFirst_reportsUnpaired (fun s => CaseStep.run_change_reportsUnpaired .lower l) h
  · exact fun separators t h => planEachWord_reportsUnpaired h

/-- A letter that has a case, stored as a pair, and the same text without the low unit. -/
theorem representation_independence_pair :
    (Paired [0xD801, 0xDC28, 0x62] ∧ ¬ Paired [0xD801, 0x62]) ∧
    (∃ n r, joinPairs [0xD801, 0xDC28, 0x62] = .ok n ∧
      capitalizeFirst [0xD801, 0xDC28, 0x62] none = .ok r ∧ capitalizeFirst n none = .ok r ∧
      r.hasSurrogate = false) ∧
    ReportsUnpaired (capitalizeFirst [0xD801, 0x62] none) :=
  ⟨⟨by decide, by decide⟩, (representation_independence.2.1 none).2.2.1 _ (by decide),
    (representation_independence.2.2.2 none).2.2.1 _ (by decide)⟩

end Text
end TypedText
