import TypedText.Character
import TypedText.Proofs.Capitalize
import TypedText.Proofs.Unicode.FixedForms

/-!
# TypedText.Proofs.SimpleCase

Single code points under a change of case, in any locale.

* `LetterCase.holds`: having a case. What has the case already is left as it is (`cased_of_holds`):
  the Turkic replacements and the final sigma are for code points of the other case.
* `Locale.form?`: the form of a code point, if it is one code point again.
* `Locale.SimplyCased`, `Locale.Inert`: letters with one form in either case, and code points that are
  no letters and keep their form.
-/

namespace TypedText

namespace LetterCase

def holds : LetterCase → CodePoint → Bool
  | upper, c => c.isUpper
  | lower, c => c.isLower

theorem ne_of_holds {target : LetterCase} {c d : CodePoint} (hc : target.holds c = true)
    (hd : target.holds d = false) : c ≠ d := by
  rintro rfl
  rw [hc] at hd
  cases hd

theorem forall_iff {p : LetterCase → Prop} : (∀ target, p target) ↔ p upper ∧ p lower := by
  constructor
  · intro h
    exact ⟨h upper, h lower⟩
  · rintro ⟨hupper, hlower⟩ target
    cases target with
    | upper => exact hupper
    | lower => exact hlower

instance {p : LetterCase → Prop} [DecidablePred p] : Decidable (∀ target, p target) :=
  decidable_of_iff _ forall_iff.symm

end LetterCase

namespace Locale

/-- The form of a code point in a case, if it is one code point. -/
def form? (l : Locale) (target : LetterCase) (c : CodePoint) : Option CodePoint :=
  match CaseMapper.unicode.map target l [c] with
  | .ok [d] => some d
  | _ => none

/-- A letter whose form in either case is one letter of that case. -/
def SimplyCased (l : Locale) (c : CodePoint) : Prop :=
  c.isLetter = true ∧
    ∀ target, ∃ d ∈ l.form? target c, d.isLetter = true ∧ target.holds d = true

/-- A code point that is no letter and that no change of case alters. -/
def Inert (l : Locale) (c : CodePoint) : Prop :=
  c.isLetter = false ∧ ∀ target, l.form? target c = some c

instance (l : Locale) (c : CodePoint) : Decidable (l.SimplyCased c) :=
  inferInstanceAs (Decidable (_ ∧ _))

instance (l : Locale) (c : CodePoint) : Decidable (l.Inert c) :=
  inferInstanceAs (Decidable (_ ∧ _))

variable {l : Locale} {target : LetterCase} {c d : CodePoint}

theorem form?_eq_some_iff :
    l.form? target c = some d ↔ CaseMapper.unicode.map target l [c] = .ok [d] := by
  simp only [form?]
  split
  · rename_i e he
    rw [he, Option.some.injEq, Except.ok.injEq, List.cons.injEq]
    exact ⟨fun h => ⟨h, rfl⟩, fun h => h.1⟩
  · rename_i hother
    exact ⟨fun h => (by cases h), fun h => absurd h (hother d)⟩

theorem cased_one_of_form? (hc : c.isSurrogate = false) (h : l.form? target c = some d) :
    l.cased target [c] = [d] := by
  rw [form?_eq_some_iff, CaseMapper.map_encoded target l (.one (.unit hc))] at h
  exact Except.ok.inj h

theorem cased_upper_one (hsmall : c ≠ 0x69) : l.cased .upper [c] = Unicode.upperForm c := by
  have hval : c.val ≠ 0x69 := fun h => hsmall (CodePoint.ext h)
  have hdot : Turkic.dotCapitals [c] = [c] := by simp [Turkic.dotCapitals, hval]
  simp [cased, hdot, Text.upperRoot]

theorem cased_lower_one (hdotted : c ≠ Turkic.dottedCapital) (hcapital : c ≠ 0x49)
    (hsigma : c ≠ Unicode.capitalSigma) : l.cased .lower [c] = Unicode.lowerForm c := by
  have hval : c.val ≠ 0x49 := fun h => hcapital (CodePoint.ext h)
  have hlower : Turkic.lowerCapitals (Turkic.composeDots [c]) = [c] := by
    simp [Turkic.composeDots, Turkic.lowerCapitals, hdotted, hval]
  simp [cased, hlower, Text.lowerRoot, Unicode.lowerAfter, hsigma]

/-- A code point that has the case already stays as it is, whatever the language. -/
theorem cased_of_holds (h : target.holds c = true) : l.cased target [c] = [c] := by
  cases target with
  | upper =>
    have hsmall : c ≠ 0x69 := LetterCase.ne_of_holds h (by decide +kernel)
    rw [cased_upper_one hsmall]
    exact Unicode.upperForm_of_isUppercase h
  | lower =>
    have hdotted : c ≠ Turkic.dottedCapital := LetterCase.ne_of_holds h (by decide +kernel)
    have hcapital : c ≠ 0x49 := LetterCase.ne_of_holds h (by decide +kernel)
    have hsigma : c ≠ Unicode.capitalSigma := LetterCase.ne_of_holds h (by decide +kernel)
    rw [cased_lower_one hdotted hcapital hsigma]
    exact Unicode.lowerForm_of_isLowercase h

end Locale
end TypedText
