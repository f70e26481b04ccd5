import TypedText.Capitalization
import TypedText.Proofs.Text.Whole
import TypedText.TrailingContext

/-!
# TypedText.Proofs.Scans

What the scans answer on a text without unpaired surrogates, said of its code points alone. Nothing
cuts their reading short then, so every scan answers (`verdict_complete`), and scans that walk forward
and scans that walk backward see the same code points.
-/

namespace TypedText

variable {t : Text} {cs : List CodePoint} {separators : Separators}

namespace Reading

/-- A scan over a complete reading answers what it stopped with, or else what it answers at the
end. -/
theorem verdict_complete {α : Type} (early : Option α) (atEnd : α) :
    verdict none early atEnd = .ok (early.getD atEnd) := by
  cases early <;> rfl

end Reading

namespace Capitalization

theorem classify_complete (a : Alphabet) (cs : List CodePoint) :
    ∃ v, classify a (cs, Option.none) = .ok v := by
  simp only [classify]
  split
  · exact ⟨_, Reading.verdict_complete ..⟩
  · split
    · split
      · exact ⟨_, rfl⟩
      · exact ⟨_, Reading.verdict_complete ..⟩
    · exact ⟨_, rfl⟩

theorem refuse_complete (misfits : Bool) : refuse misfits Option.none = .ok (!misfits) := by
  cases misfits <;> rfl

end Capitalization

namespace TrailingContext

/-- The answer of a walk that has come to its end. -/
def UrlWalk.answer : UrlWalk → Bool
  | .doubleSlash => true
  | .precededBy c run => run.looksLikeUrl c.isWhitespace
  | .atStart run => run.looksLikeUrl true

/-- The answer for code points given last one first. -/
def insideQuote : List CodePoint → Bool
  | [] => false
  | c :: rest =>
    c.isDigit || (lastQuoteOpens? none (c :: rest)).getD ((c :: rest).getLast?.any isQuote)

end TrailingContext

namespace Text

theorem capitalization_encoded (h : Encodes t cs) :
    t.capitalization = Capitalization.classify .unicode (cs, none) := by
  rw [capitalization, reading_eq_iff.mpr h]

theorem lettersAllUpper_encoded (h : Encodes t cs) :
    t.lettersAllUpper = .ok (!cs.any fun c => c.isLetter && !c.isUpper) := by
  rw [lettersAllUpper, reading_eq_iff.mpr h, Capitalization.refuse_complete]

theorem lettersAllLower_encoded (h : Encodes t cs) :
    t.lettersAllLower = .ok (!cs.any fun c => c.isLetter && !c.isLower) := by
  rw [lettersAllLower, reading_eq_iff.mpr h, Capitalization.refuse_complete]

theorem eachWordCapitalized_encoded (h : Encodes t cs) :
    t.eachWordCapitalized separators = .ok (!Capitalization.misfit separators true cs) := by
  rw [eachWordCapitalized, reading_eq_iff.mpr h, Capitalization.refuse_complete]

theorem looksLikeUrl_encoded (h : Encodes t cs) :
    t.looksLikeUrl =
      .ok (TrailingContext.UrlWalk.ofReversed .empty cs.reverse).answer := by
  simp only [looksLikeUrl, read_backward_eq_iff.mpr h]
  cases TrailingContext.UrlWalk.ofReversed .empty cs.reverse with
  | doubleSlash => rfl
  | precededBy c run => rfl
  | atStart run => exact Reading.verdict_complete ..

theorem insideQuoteOrAfterDigit_encoded (h : Encodes t cs) :
    t.insideQuoteOrAfterDigit = .ok (TrailingContext.insideQuote cs.reverse) := by
  simp only [insideQuoteOrAfterDigit, read_backward_eq_iff.mpr h]
  cases cs.reverse with
  | nil => rfl
  | cons c rest =>
    cases hdigit : c.isDigit with
    | true => simp [TrailingContext.insideQuote, hdigit]
    | false =>
      simp only [TrailingContext.insideQuote, hdigit, Bool.false_or, Bool.false_eq_true, if_false]
      exact Reading.verdict_complete ..

theorem isBlank_encoded (h : Encodes t cs) : t.isBlank = .ok (cs.all CodePoint.isWhitespace) := by
  have hread : read .forward t = ⟨cs, []⟩ := read_eq_iff.mpr h
  simp only [isBlank, hread]
  rw [Reading.faultForward?, Reading.verdict_complete, List.all_eq_not_any_not]
  cases cs.any (!·.isWhitespace) <;> rfl

end Text

theorem Separators.ofText_encoded (h : Encodes t cs) :
    Separators.ofText t = .ok (Separators.ofCodePoints cs) := by
  rw [Separators.ofText, Text.codePoints_eq_ok_iff.mpr h]

end TypedText
