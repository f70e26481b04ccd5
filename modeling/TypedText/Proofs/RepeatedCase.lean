import Mathlib.Data.List.Basic
import TypedText.Proofs.CaseContext
import TypedText.Proofs.Representation
import TypedText.Proofs.Unicode.RepeatedForms
import TypedText.Proofs.WordStarts

/-!
# TypedText.Proofs.RepeatedCase

Changing case a second time. What a change of case has made is made of code points that are their own
forms, for no language in particular (`rootForm_of_mem_cased`). Such code points are left as they are in
every language and every context (`cased_eq_self`), as they include no capital sigma, and neither an `i`
in upper case nor an `I` in lower case. So a second change finds nothing to do (`cased_cased`).

* `changeCase_idempotent`: both changes of whole texts.
* `capitalize_idempotent`: the capitalized variants, each under what keeps its second pass in step.
-/

namespace TypedText

variable {l : Locale} {target : LetterCase} {separators : Separators} {c d : CodePoint}
  {cs ds : List CodePoint} {t : Text}

/-- The form of a code point in a case, for no language in particular. -/
def LetterCase.rootForm : LetterCase → CodePoint → Text
  | upper => Unicode.upperForm
  | lower => Unicode.lowerForm

theorem LetterCase.rootForm_of_mem (h : d ∈ target.rootForm c) : target.rootForm d = [d] := by
  cases target with
  | upper => exact Unicode.upperForm_of_mem_upperForm h
  | lower => exact Unicode.lowerForm_of_mem_lowerForm h

theorem Text.flatMap_eq_self {f : CodePoint → Text} (h : ∀ c ∈ t, f c = [c]) : t.flatMap f = t := by
  rw [List.flatMap_congr h, List.flatMap_singleton']

namespace Locale

section Kept

theorem contextFree_of_lowerForm (h : ∀ c ∈ cs, Unicode.lowerForm c = [c]) : l.ContextFree cs where
  no_sigma hmem := by
    have hsigma := h _ hmem
    revert hsigma
    decide +kernel
  no_dot _ hin := by
    have hcapital := h 0x49 (hin.mem List.mem_cons_self)
    revert hcapital
    decide +kernel

theorem dotCapitals_eq_self (h : ∀ c ∈ cs, Unicode.upperForm c = [c]) :
    Turkic.dotCapitals cs = cs := by
  have hkept : ∀ c ∈ cs, (if c.val = 0x69 then Turkic.dottedCapital else c) = c := by
    intro c hc
    have hsmall : c.val ≠ 0x69 := by
      intro hval
      obtain rfl : c = 0x69 := CodePoint.ext hval
      have hform := h _ hc
      revert hform
      decide +kernel
    rw [if_neg hsmall]
  rw [Turkic.dotCapitals, List.map_congr_left hkept, List.map_id']

theorem lowerCapitals_eq_self (h : ∀ c ∈ cs, Unicode.lowerForm c = [c]) :
    Turkic.lowerCapitals cs = cs := by
  have hkept : ∀ c ∈ cs, (if c = Turkic.dottedCapital then 0x69
      else if c.val = 0x49 then Turkic.dotlessSmall else c) = c := by
    intro c hc
    have hform := h c hc
    have hdotted : c ≠ Turkic.dottedCapital := by
      rintro rfl
      revert hform
      decide +kernel
    have hcapital : c.val ≠ 0x49 := by
      intro hval
      obtain rfl : c = 0x49 := CodePoint.ext hval
      revert hform
      decide +kernel
    rw [if_neg hdotted, if_neg hcapital]
  rw [Turkic.lowerCapitals, List.map_congr_left hkept, List.map_id']

/-- Code points that are their own forms are kept, whatever the language and wherever they stand. -/
theorem cased_eq_self (h : ∀ c ∈ cs, target.rootForm c = [c]) : l.cased target cs = cs := by
  cases target with
  | upper =>
    rw [cased, dotCapitals_eq_self h, ite_self]
    exact Text.flatMap_eq_self h
  | lower =>
    rw [cased_lower_eq (contextFree_of_lowerForm h), lowerCapitals_eq_self h, ite_self]
    exact Text.flatMap_eq_self h

end Kept

section Made

theorem rootForm_of_mem_cased_one (h : d ∈ l.cased target [c]) : target.rootForm d = [d] := by
  cases target with
  | upper =>
    simp only [cased, Text.upperRoot, List.mem_flatMap] at h
    obtain ⟨e, -, he⟩ := h
    exact LetterCase.rootForm_of_mem he
  | lower =>
    simp only [cased, Text.lowerRoot] at h
    -- one code point is no context for a final sigma
    rcases Unicode.mem_lowerAfter h with rfl | rfl | ⟨e, -, he⟩
    · decide +kernel
    · decide +kernel
    · exact LetterCase.rootForm_of_mem he

theorem rootForm_of_mem_cased (h : d ∈ l.cased target cs) : target.rootForm d = [d] := by
  cases target with
  | upper =>
    rw [cased_upper_eq_flatMap, List.mem_flatMap] at h
    obtain ⟨c, -, hc⟩ := h
    exact rootForm_of_mem_cased_one hc
  | lower =>
    rcases mem_cased_lower h with rfl | rfl | ⟨c, -, hc⟩
    · decide +kernel
    · decide +kernel
    · exact rootForm_of_mem_cased_one hc

end Made

theorem cased_cased (l : Locale) (target : LetterCase) (cs : List CodePoint) :
    l.cased target (l.cased target cs) = l.cased target cs :=
  cased_eq_self fun _ h => rootForm_of_mem_cased h

section Variants

variable {rest : List CodePoint} {after : List CodePoint → Text}

theorem cased_upper_ne_nil (l : Locale) (c : CodePoint) : l.cased .upper [c] ≠ [] := by
  intro h
  simp only [cased, Text.upperRoot, List.flatMap_eq_nil_iff] at h
  split at h
  · exact Unicode.upperForm_ne_nil _ (h _ List.mem_cons_self)
  · exact Unicode.upperForm_ne_nil _ (h _ List.mem_cons_self)

/-- The first code point of a form is kept, so a second pass depends on what it finds behind it: the
rest of the form, and what the first pass made of the rest of the text. -/
theorem firstUpper_firstUpper (hc : l.cased .upper [c] = d :: ds)
    (hafter : after (ds ++ after rest) = ds ++ after rest) :
    l.firstUpper after (l.firstUpper after (c :: rest)) = l.firstUpper after (c :: rest) := by
  have hfirst : l.cased .upper [d] = [d] := by
    refine cased_eq_self (List.forall_mem_singleton.mpr ?_)
    exact rootForm_of_mem_cased_one (c := c) (by rw [hc]; exact List.mem_cons_self)
  simp only [firstUpper, hc, List.cons_append, hfirst, hafter, List.nil_append]

theorem firstUpper_id_idempotent (l : Locale) (cs : List CodePoint) :
    l.firstUpper id (l.firstUpper id cs) = l.firstUpper id cs := by
  cases cs with
  | nil => rfl
  | cons c rest =>
    obtain ⟨d, ds, hc⟩ := List.exists_cons_of_ne_nil (l.cased_upper_ne_nil c)
    exact firstUpper_firstUpper hc rfl

theorem firstUpper_lower_idempotent (h : ∀ c ∈ cs.head?, ∃ d, l.cased .upper [c] = [d]) :
    l.firstUpper (l.cased .lower) (l.firstUpper (l.cased .lower) cs) =
      l.firstUpper (l.cased .lower) cs := by
  cases cs with
  | nil => rfl
  | cons c rest =>
    obtain ⟨d, hc⟩ := h c rfl
    exact firstUpper_firstUpper hc (l.cased_cased .lower rest)

/-- Where each code point has one form in either case, which separates if it does, both passes find
the words start at the same places. -/
theorem eachWord_idempotent
    (h : ∀ c ∈ cs, ∀ target, ∃ d, l.cased target [c] = [d] ∧
      separators.contains d.val = separators.contains c.val) :
    ∀ wordStart, l.eachWord separators wordStart (l.eachWord separators wordStart cs) =
      l.eachWord separators wordStart cs := by
  induction cs with
  | nil => intro wordStart; rfl
  | cons c rest ih =>
    intro wordStart
    rw [List.forall_mem_cons] at h
    obtain ⟨d, hd, hstep⟩ := h.1 (.atPlace wordStart)
    have hagain : l.cased (.atPlace wordStart) [d] = [d] := by
      rw [← hd, cased_cased]
    rw [eachWord_cons, hd, List.singleton_append, eachWord_cons, hagain, hstep, ih h.2]
    rfl

end Variants

end Locale

/-- `f` answers on the text, and changes nothing when it is done again. -/
def IdempotentOn (f : Text → Except TextError Text) (t : Text) : Prop :=
  ∃ r, f t = .ok r ∧ f r = .ok r

theorem IdempotentOn.of_encoded {f : Text → Except TextError Text} {g : List CodePoint → Text}
    (hf : ∀ {t cs}, Encodes t cs → f t = .ok (g cs)) (hscalar : (g cs).hasSurrogate = false)
    (hagain : g (g cs) = g cs) (h : Encodes t cs) : IdempotentOn f t :=
  ⟨g cs, hf h, by rw [hf (Text.encodes_self hscalar), hagain]⟩

namespace Text

/-- **Case once changed stays.** Putting a text in upper case, or in lower case, gives one that the same
change leaves as it is, in any language. -/
theorem changeCase_idempotent (ht : t.Paired) (l : Locale) :
    IdempotentOn (CaseMapper.unicode.uppercase l) t ∧
      IdempotentOn (CaseMapper.unicode.lowercase l) t := by
  obtain ⟨cs, hcs⟩ := paired_iff_encodes.mp ht
  have hscalar := hasSurrogate_eq_false_iff.mpr hcs.isSurrogate_eq_false
  exact ⟨.of_encoded (CaseMapper.map_encoded .upper l) (Locale.hasSurrogate_cased hscalar)
      (l.cased_cased .upper cs) hcs,
    .of_encoded (CaseMapper.map_encoded .lower l) (Locale.hasSurrogate_cased hscalar)
      (l.cased_cased .lower cs) hcs⟩

/-- In Turkish: a decomposed dotted capital, a composed one, a capital sigma that is final, a sharp s
and a pair. -/
theorem changeCase_idempotent_turkic :
    Paired [0x49, 0x307, 0x130, 0x3A3, 0x20, 0xDF, 0xD801, 0xDC00] ∧
    IdempotentOn (CaseMapper.unicode.uppercase (some (ofString "tr")))
      [0x49, 0x307, 0x130, 0x3A3, 0x20, 0xDF, 0xD801, 0xDC00] ∧
    IdempotentOn (CaseMapper.unicode.lowercase (some (ofString "tr")))
      [0x49, 0x307, 0x130, 0x3A3, 0x20, 0xDF, 0xD801, 0xDC00] :=
  have hpaired : Paired [0x49, 0x307, 0x130, 0x3A3, 0x20, 0xDF, 0xD801, 0xDC00] := by decide
  ⟨hpaired, changeCase_idempotent hpaired _⟩

/-- **Capitalizing once is enough**: always, where the rest is kept; where the rest is put in lower
case, if the first code point has one form in upper case; and word by word, if each code point has
one form in either case and the separators tell it from neither. -/
theorem capitalize_idempotent (ht : t.Paired) (l : Locale) :
    ∃ cs, t.codePoints = .ok cs ∧
      IdempotentOn (capitalizeFirst · l) t ∧
      ((∀ c ∈ cs.head?, (l.form? .upper c).isSome) →
        IdempotentOn (capitalizeFirstLowerRest · l) t) ∧
      ∀ separators : Separators, separators.Ascending →
        (∀ c ∈ cs, (∀ target, (l.form? target c).isSome) ∧ separators.CaseBlind l c) →
        IdempotentOn (capitalizeEachWord · separators l) t := by
  obtain ⟨cs, hcs⟩ := paired_iff_encodes.mp ht
  have hunits := hcs.isSurrogate_eq_false
  have hscalar := hasSurrogate_eq_false_iff.mpr hunits
  refine ⟨cs, codePoints_eq_ok_iff.mpr hcs, ?_, fun hfirst => ?_, fun separators hsorted h => ?_⟩
  · exact .of_encoded capitalizeFirst_encoded (Locale.hasSurrogate_firstUpper (fun _ h => h) hscalar)
      (l.firstUpper_id_idempotent cs) hcs
  · refine .of_encoded capitalizeFirstLowerRest_encoded
      (Locale.hasSurrogate_firstUpper (fun _ h => Locale.hasSurrogate_cased h) hscalar) ?_ hcs
    refine Locale.firstUpper_lower_idempotent fun c hc => ?_
    obtain ⟨d, hd⟩ := Option.isSome_iff_exists.mp (hfirst c hc)
    exact ⟨d, Locale.cased_one_of_form? (hunits c (List.mem_of_mem_head? hc)) hd⟩
  · refine .of_encoded run_planEachWord (Locale.hasSurrogate_eachWord hscalar) ?_ hcs
    refine Locale.eachWord_idempotent (fun c hc target => ?_) true
    obtain ⟨hforms, hblind⟩ := h c hc
    obtain ⟨d, hd⟩ := Option.isSome_iff_exists.mp (hforms target)
    exact ⟨d, Locale.cased_one_of_form? (hunits c hc) hd, hblind.contains_form hsorted hd⟩

/-- In Turkish, with a letter of the text among the separators, and a pair. -/
theorem capitalize_idempotent_turkic :
    (Paired [0x69, 0x78, 0x49, 0xD801, 0xDC28] ∧ Separators.Ascending [0x58, 0x78, 0x78]) ∧
    IdempotentOn (capitalizeFirst · (some (ofString "tr"))) [0x69, 0x78, 0x49, 0xD801, 0xDC28] ∧
    IdempotentOn (capitalizeFirstLowerRest · (some (ofString "tr")))
      [0x69, 0x78, 0x49, 0xD801, 0xDC28] ∧
    IdempotentOn (capitalizeEachWord · [0x58, 0x78, 0x78] (some (ofString "tr")))
      [0x69, 0x78, 0x49, 0xD801, 0xDC28] := by
  have hpaired : Paired [0x69, 0x78, 0x49, 0xD801, 0xDC28] := by decide
  have hsorted : Separators.Ascending [0x58, 0x78, 0x78] := by decide
  obtain ⟨cs, hcs, hfirst, hrest, hwords⟩ :=
    capitalize_idempotent hpaired (some (ofString "tr"))
  obtain rfl : [0x69, 0x78, 0x49, 0x10428] = cs := Except.ok.inj hcs
  exact ⟨⟨hpaired, hsorted⟩, hfirst, hrest (by decide +kernel), hwords _ hsorted (by decide +kernel)⟩

/-- A letter with two code points in upper case is capitalized differently a second time. -/
example : capitalizeFirstLowerRest [0xDF] none = .ok [0x53, 0x53] ∧
    capitalizeFirstLowerRest [0x53, 0x53] none = .ok [0x53, 0x73] := by
  decide +kernel

end Text
end TypedText
