import TypedText.Proofs.Representation
import TypedText.Proofs.Separators
import TypedText.Proofs.SimpleCase

/-!
# TypedText.Proofs.WordStarts

Capitalizing each word, and the test whether a text looks as if it had been done. Both walk over the
code points and ask at each one whether a word starts there: the change by the code points it is given,
the test by those it made of them.

* `misfit_eachWord`: where a change of case does not make or unmake separators, the two stay in step,
  and nothing in the result misfits.
* `eachWord_eq_self`: where nothing misfits, no letter is changed.
* `eachWordCapitalized_capitalizeEachWord`, `capitalizeEachWord_of_eachWordCapitalized`: the same said
  of texts.
-/

namespace TypedText

open Capitalization

def LetterCase.atPlace (wordStart : Bool) : LetterCase :=
  if wordStart then .upper else .lower

/-- The separators do not tell a code point from its forms. -/
def Separators.CaseBlind (separators : Separators) (l : Locale) (c : CodePoint) : Prop :=
  ∀ target, ∀ d ∈ l.form? target c,
    ((d.val : Int) ∈ separators ↔ (c.val : Int) ∈ separators)

instance (separators : Separators) (l : Locale) (c : CodePoint) :
    Decidable (separators.CaseBlind l c) :=
  inferInstanceAs (Decidable (∀ target, ∀ d ∈ l.form? target c, _))

variable {l : Locale} {separators : Separators} {wordStart : Bool} {target : LetterCase}
  {c d : CodePoint} {cs rest : List CodePoint} {t : Text}

theorem Separators.CaseBlind.contains_form (h : separators.CaseBlind l c)
    (hsorted : separators.Ascending) (hd : l.form? target c = some d) :
    separators.contains d.val = separators.contains c.val := by
  rw [Bool.eq_iff_iff, contains_iff_mem hsorted, contains_iff_mem hsorted]
  exact h target d hd

theorem Capitalization.misfit_cons :
    misfit separators wordStart (c :: rest) =
      ((c.isLetter && !(LetterCase.atPlace wordStart).holds c) ||
        misfit separators (separators.contains c.val) rest) := by
  cases wordStart <;> rfl

namespace Locale

theorem eachWord_cons :
    l.eachWord separators wordStart (c :: rest) =
      l.cased (.atPlace wordStart) [c] ++
        l.eachWord separators (separators.contains c.val) rest :=
  rfl

/-- What a change of case makes of the code point passes the test and is followed by the same case. -/
def KeepsStep (l : Locale) (separators : Separators) (c : CodePoint) : Prop :=
  ∀ target, ∃ d, l.cased target [c] = [d] ∧ (d.isLetter = true → target.holds d = true) ∧
    separators.contains d.val = separators.contains c.val

theorem misfit_eachWord (h : ∀ c ∈ cs, l.KeepsStep separators c) :
    ∀ wordStart, misfit separators wordStart (l.eachWord separators wordStart cs) = false := by
  induction cs with
  | nil => intro wordStart; rfl
  | cons c rest ih =>
    intro wordStart
    rw [List.forall_mem_cons] at h
    obtain ⟨d, hd, hfit, hstep⟩ := h.1 (.atPlace wordStart)
    have hhere : (d.isLetter && !(LetterCase.atPlace wordStart).holds d) = false := by
      cases hletter : d.isLetter with
      | false => rfl
      | true => rw [hfit hletter]; rfl
    rw [eachWord_cons, hd, List.singleton_append, misfit_cons, hhere, hstep, ih h.2]
    rfl

theorem eachWord_eq_self (hfixed : ∀ c ∈ cs, c.isLetter = false → ∀ target, l.cased target [c] = [c]) :
    ∀ {wordStart}, misfit separators wordStart cs = false →
      l.eachWord separators wordStart cs = cs := by
  induction cs with
  | nil => intro wordStart _; rfl
  | cons c rest ih =>
    intro wordStart h
    rw [List.forall_mem_cons] at hfixed
    rw [misfit_cons, Bool.or_eq_false_iff] at h
    have hhere : l.cased (.atPlace wordStart) [c] = [c] := by
      cases hletter : c.isLetter with
      | false => exact hfixed.1 hletter _
      | true =>
        have hholds : (LetterCase.atPlace wordStart).holds c = true := by
          simpa [hletter] using h.1
        exact cased_of_holds hholds
    rw [eachWord_cons, hhere, ih hfixed.2 h.2]
    rfl

theorem keepsStep_of_simplyCased (hsorted : separators.Ascending) (hc : c.isSurrogate = false)
    (hblind : separators.CaseBlind l c) (h : l.SimplyCased c ∨ l.Inert c) :
    l.KeepsStep separators c := by
  intro target
  have hform : ∃ d, l.form? target c = some d ∧ (d.isLetter = true → target.holds d = true) := by
    rcases h with ⟨-, hforms⟩ | ⟨hletter, hfixed⟩
    · obtain ⟨d, hd, -, hholds⟩ := hforms target
      exact ⟨d, hd, fun _ => hholds⟩
    · exact ⟨c, hfixed target, fun h => by rw [hletter] at h; cases h⟩
  obtain ⟨d, hd, hfit⟩ := hform
  exact ⟨d, cased_one_of_form? hc hd, hfit, hblind.contains_form hsorted hd⟩

end Locale

namespace Text

/-- **What is capitalized looks capitalized.** In a text of simply cased letters and inert code points,
where the separators tell no code point from its forms, capitalizing each word gives a text that the
test accepts. -/
theorem eachWordCapitalized_capitalizeEachWord (ht : t.codePoints = .ok cs)
    (hsorted : separators.Ascending) (hcs : ∀ c ∈ cs, l.SimplyCased c ∨ l.Inert c)
    (hblind : ∀ c ∈ cs, separators.CaseBlind l c) :
    ∃ r, t.capitalizeEachWord separators l = .ok r ∧ r.eachWordCapitalized separators = .ok true := by
  have henc := codePoints_eq_ok_iff.mp ht
  have hscalar := henc.isSurrogate_eq_false
  have hresult : (l.eachWord separators true cs).hasSurrogate = false :=
    Locale.hasSurrogate_eachWord (hasSurrogate_eq_false_iff.mpr hscalar)
  refine ⟨_, run_planEachWord henc, ?_⟩
  rw [eachWordCapitalized_encoded (encodes_self hresult), Locale.misfit_eachWord]
  · rfl
  · intro c hc
    exact Locale.keepsStep_of_simplyCased hsorted (hscalar c hc) (hblind c hc) (hcs c hc)

/-- The letters that separate may be letters of the text, here `x` in Turkish. -/
theorem eachWordCapitalized_capitalizeEachWord_letters :
    (codePoints [0x61, 0x78, 0x69] = .ok [0x61, 0x78, 0x69] ∧ Separators.Ascending [0x58, 0x78] ∧
      (∀ c ∈ ([0x61, 0x78, 0x69] : List CodePoint),
        Locale.SimplyCased (some (ofString "tr")) c ∨ Locale.Inert (some (ofString "tr")) c) ∧
      ∀ c ∈ ([0x61, 0x78, 0x69] : List CodePoint),
        Separators.CaseBlind [0x58, 0x78] (some (ofString "tr")) c) ∧
    ∃ r, capitalizeEachWord [0x61, 0x78, 0x69] [0x58, 0x78] (some (ofString "tr")) = .ok r ∧
      r.eachWordCapitalized [0x58, 0x78] = .ok true :=
  have hcased : ∀ c ∈ ([0x61, 0x78, 0x69] : List CodePoint),
      Locale.SimplyCased (some (ofString "tr")) c ∨ Locale.Inert (some (ofString "tr")) c := by
    decide +kernel
  have hblind : ∀ c ∈ ([0x61, 0x78, 0x69] : List CodePoint),
      Separators.CaseBlind [0x58, 0x78] (some (ofString "tr")) c := by
    decide +kernel
  ⟨⟨rfl, by decide, hcased, hblind⟩,
    eachWordCapitalized_capitalizeEachWord rfl (by decide) hcased hblind⟩

/-- **What looks capitalized is left alone.** If the test accepts a text, capitalizing each word only
joins its pairs, provided that its code points that are no letters have no case to change; this holds
for any list of separators, in order or not. -/
theorem capitalizeEachWord_of_eachWordCapitalized (ht : t.codePoints = .ok cs)
    (h : t.eachWordCapitalized separators = .ok true)
    (hfixed : ∀ c ∈ cs, c.isLetter = false → l.Inert c) :
    t.capitalizeEachWord separators l = t.joinPairs := by
  have henc := codePoints_eq_ok_iff.mp ht
  have hmisfit : misfit separators true cs = false := by
    rw [eachWordCapitalized_encoded henc] at h
    simpa using h
  have hcased : ∀ c ∈ cs, c.isLetter = false → ∀ target, l.cased target [c] = [c] := by
    intro c hc hletter target
    exact Locale.cased_one_of_form? (henc.isSurrogate_eq_false c hc) ((hfixed c hc hletter).2 target)
  rw [joinPairs, ht, ← Locale.eachWord_eq_self hcased hmisfit]
  exact run_planEachWord henc

/-- A pair, and separators out of order, so that the search misses the hyphen. -/
theorem capitalizeEachWord_of_eachWordCapitalized_unsorted :
    (codePoints [0x41, 0x62, 0x2D, 0xD801, 0xDC28] = .ok [0x41, 0x62, 0x2D, 0x10428] ∧
      eachWordCapitalized [0x41, 0x62, 0x2D, 0xD801, 0xDC28] [0x2D, 0x20] = .ok true ∧
      ∀ c ∈ ([0x41, 0x62, 0x2D, 0x10428] : List CodePoint), c.isLetter = false →
        Locale.Inert (some (ofString "az")) c) ∧
    capitalizeEachWord [0x41, 0x62, 0x2D, 0xD801, 0xDC28] [0x2D, 0x20] (some (ofString "az")) =
      joinPairs [0x41, 0x62, 0x2D, 0xD801, 0xDC28] :=
  have hfixed : ∀ c ∈ ([0x41, 0x62, 0x2D, 0x10428] : List CodePoint), c.isLetter = false →
      Locale.Inert (some (ofString "az")) c := by
    decide +kernel
  have haccepted : eachWordCapitalized [0x41, 0x62, 0x2D, 0xD801, 0xDC28] [0x2D, 0x20] = .ok true := by
    rw [eachWordCapitalized_encoded (codePoints_eq_ok_iff.mp rfl)]
    exact congrArg _ (by decide +kernel)
  ⟨⟨rfl, haccepted, hfixed⟩, capitalizeEachWord_of_eachWordCapitalized rfl haccepted hfixed⟩

end Text
end TypedText
