import TypedText.Proofs.Capitalization
import TypedText.Proofs.CaseContext
import TypedText.Proofs.Representation
import TypedText.Proofs.SimpleCase

/-!
# TypedText.Proofs.WholeTextCase

A whole text in upper or lower case, and the tests that ask whether a text looks that way. The change
looks at the text as a whole, the tests at one code point after the other.

* `cased_eq_flatMap_of_letters`: letters that have the case already leave the change no context to look
  at, so it is taken one code point at a time.
* `changeCase_of_lettersAll`: what passes the test for a case is changed only where it has no letters.
* `LetterCase.Marks`: a code point that is a letter of the case, or neither a letter nor in any case.
  Such is all that the change makes of simply cased letters and caseless code points (`marks_cased`).
* `capitalization_of_cased`: the classification and the tests recognize what the change has made.
-/

namespace TypedText

open Capitalization

variable {l : Locale} {target : LetterCase} {c d : CodePoint} {cs ds : List CodePoint} {t : Text}

/-- Whether all letters of a text have the case. -/
def Text.lettersAll : LetterCase → Text → Except TextError Bool
  | .upper => Text.lettersAllUpper
  | .lower => Text.lettersAllLower

theorem Text.lettersAll_eq_true_iff (h : Encodes t cs) :
    t.lettersAll target = .ok true ↔ ∀ c ∈ cs, c.isLetter = true → target.holds c = true := by
  cases target with
  | upper => simp [lettersAll, lettersAllUpper_encoded h, LetterCase.holds]
  | lower => simp [lettersAll, lettersAllLower_encoded h, LetterCase.holds]

section Kept

namespace Locale

theorem contextFree_of_lower (h : ∀ c ∈ cs, c.isLetter = true → c.isLower = true) :
    l.ContextFree cs where
  -- a capital sigma and an `I` would be letters that are not in lower case
  no_sigma hmem := by
    have hlower := h _ hmem (by decide +kernel)
    revert hlower
    decide +kernel
  no_dot _ hin := by
    have hlower := h 0x49 (hin.mem List.mem_cons_self) (by decide +kernel)
    revert hlower
    decide +kernel

theorem cased_eq_flatMap_of_letters (h : ∀ c ∈ cs, c.isLetter = true → target.holds c = true) :
    l.cased target cs = cs.flatMap fun c => l.cased target [c] := by
  cases target with
  | upper => exact l.cased_upper_eq_flatMap cs
  | lower => exact cased_lower_eq_flatMap (contextFree_of_lower h)

/-- A letter as it is, any other code point as it is changed where it stands alone. -/
def exceptLetters (l : Locale) (target : LetterCase) (c : CodePoint) : Except TextError Text :=
  if c.isLetter then .ok [c] else CaseMapper.unicode.map target l [c]

theorem exceptLetters_eq (hc : c.isSurrogate = false)
    (h : c.isLetter = true → target.holds c = true) :
    l.exceptLetters target c = .ok (l.cased target [c]) := by
  unfold exceptLetters
  split
  · rename_i hletter
    rw [cased_of_holds (h hletter)]
  · exact CaseMapper.map_encoded target l (.one (.unit hc))

theorem map_of_lettersAll (target : LetterCase) (hcs : Encodes t cs)
    (h : t.lettersAll target = .ok true) :
    ∃ parts : List Text, cs.map (l.exceptLetters target) = parts.map .ok ∧
      CaseMapper.unicode.map target l t = .ok parts.flatten := by
  have hletters := (Text.lettersAll_eq_true_iff hcs).mp h
  refine ⟨cs.map fun c => l.cased target [c], ?_, ?_⟩
  · rw [List.map_map]
    apply List.map_congr_left
    intro c hc
    exact exceptLetters_eq (hcs.isSurrogate_eq_false c hc) (hletters c hc)
  · rw [CaseMapper.map_encoded target l hcs, cased_eq_flatMap_of_letters hletters,
      List.flatMap_def]

end Locale

/-- **What looks changed stays as it is.** If all letters of a text are in upper case, putting the text
in upper case joins its pairs and keeps each letter, and what is no letter is changed as it would be
alone; the same holds of lower case, in whatever context the code points stand. -/
theorem Text.changeCase_of_lettersAll (ht : t.Paired) (l : Locale) :
    ∃ n, t.joinPairs = .ok n ∧
      (t.lettersAllUpper = .ok true →
        ∃ parts : List Text, n.map (l.exceptLetters .upper) = parts.map .ok ∧
          CaseMapper.unicode.uppercase l t = .ok parts.flatten) ∧
      (t.lettersAllLower = .ok true →
        ∃ parts : List Text, n.map (l.exceptLetters .lower) = parts.map .ok ∧
          CaseMapper.unicode.lowercase l t = .ok parts.flatten) := by
  obtain ⟨cs, hcs⟩ := paired_iff_encodes.mp ht
  refine ⟨cs, codePoints_eq_ok_iff.mpr hcs, ?_, ?_⟩
  · exact Locale.map_of_lettersAll .upper hcs
  · exact Locale.map_of_lettersAll .lower hcs

/-- A text in upper case around a circled letter and a combining iota, which have upper-case forms of
their own, and one in lower case around a circled capital; in Turkish. -/
theorem Text.changeCase_of_lettersAll_symbols :
    (Paired [0x49, 0x24D0, 0x345, 0xD801, 0xDC00] ∧
      lettersAllUpper [0x49, 0x24D0, 0x345, 0xD801, 0xDC00] = .ok true) ∧
    (∃ n, joinPairs [0x49, 0x24D0, 0x345, 0xD801, 0xDC00] = .ok n ∧
      ∃ parts : List Text,
        n.map (Locale.exceptLetters (some (ofString "tr")) .upper) = parts.map .ok ∧
          CaseMapper.unicode.uppercase (some (ofString "tr")) [0x49, 0x24D0, 0x345, 0xD801, 0xDC00] =
            .ok parts.flatten) ∧
    (Paired [0x69, 0x307, 0x24B6, 0x3C2] ∧ lettersAllLower [0x69, 0x307, 0x24B6, 0x3C2] = .ok true) ∧
    ∃ n, joinPairs [0x69, 0x307, 0x24B6, 0x3C2] = .ok n ∧
      ∃ parts : List Text,
        n.map (Locale.exceptLetters (some (ofString "tr")) .lower) = parts.map .ok ∧
          CaseMapper.unicode.lowercase (some (ofString "tr")) [0x69, 0x307, 0x24B6, 0x3C2] =
            .ok parts.flatten := by
  have hpaired : Paired [0x49, 0x24D0, 0x345, 0xD801, 0xDC00] := by decide
  have hupper : lettersAllUpper [0x49, 0x24D0, 0x345, 0xD801, 0xDC00] = .ok true := by
    rw [lettersAllUpper_encoded (codePoints_eq_ok_iff.mp rfl)]
    exact congrArg _ (by decide +kernel)
  have hpaired' : Paired [0x69, 0x307, 0x24B6, 0x3C2] := by decide
  have hlower : lettersAllLower [0x69, 0x307, 0x24B6, 0x3C2] = .ok true := by
    rw [lettersAllLower_encoded (codePoints_eq_ok_iff.mp rfl)]
    exact congrArg _ (by decide +kernel)
  obtain ⟨n, hn, hchange, -⟩ := changeCase_of_lettersAll hpaired (some (ofString "tr"))
  obtain ⟨m, hm, -, hchange'⟩ := changeCase_of_lettersAll hpaired' (some (ofString "tr"))
  exact ⟨⟨hpaired, hupper⟩, ⟨n, hn, hchange hupper⟩, ⟨hpaired', hlower⟩, m, hm, hchange' hlower⟩

end Kept

section Recognized

namespace LetterCase

/-- The code point is a letter of this case and of no other, or it is no letter and has no case. -/
def Marks (target : LetterCase) (d : CodePoint) : Prop :=
  ∀ other : LetterCase, other.holds d = (d.isLetter && decide (other = target))

instance (target : LetterCase) (d : CodePoint) : Decidable (target.Marks d) :=
  inferInstanceAs (Decidable (∀ other : LetterCase, other.holds d = _))

theorem holds_eq_false_of_ne {other : LetterCase} (h : target.holds d = true)
    (hne : other ≠ target) : other.holds d = false := by
  have hboth : ¬ (d.isUpper = true ∧ d.isLower = true) := by
    rintro ⟨hupper, hlower⟩
    have hnot := Unicode.isUppercase_eq_false_of_isLowercase hlower
    rw [CodePoint.isUpper, hnot] at hupper
    cases hupper
  rw [Bool.eq_false_iff]
  intro hother
  cases target with
  | upper =>
    cases other with
    | upper => exact hne rfl
    | lower => exact hboth ⟨h, hother⟩
  | lower =>
    cases other with
    | upper => exact hboth ⟨hother, h⟩
    | lower => exact hne rfl

theorem marks_letter (hletter : d.isLetter = true) (h : target.holds d = true) : target.Marks d := by
  intro other
  by_cases hother : other = target
  · rw [hother, h, hletter, decide_eq_true rfl]
    rfl
  · rw [holds_eq_false_of_ne h hother, decide_eq_false hother, Bool.and_false]

theorem Marks.isUpper (h : Marks .upper d) : d.isUpper = d.isLetter := by
  have := h .upper
  rwa [decide_eq_true rfl, Bool.and_true] at this

theorem Marks.isUpper_eq_false (h : Marks .lower d) : d.isUpper = false := by
  have := h .upper
  rwa [decide_eq_false (by simp), Bool.and_false] at this

theorem Marks.holds (h : target.Marks d) (hletter : d.isLetter = true) : target.holds d = true := by
  rw [h target, hletter, decide_eq_true rfl]
  rfl

end LetterCase

namespace Locale

/-- A code point that is no letter, has no case, and is altered by no change of case. -/
def Caseless (l : Locale) (c : CodePoint) : Prop :=
  l.Inert c ∧ ∀ target : LetterCase, target.holds c = false

instance (l : Locale) (c : CodePoint) : Decidable (l.Caseless c) :=
  inferInstanceAs (Decidable (_ ∧ _))

theorem cased_one (target : LetterCase) (hc : c.isSurrogate = false)
    (h : l.SimplyCased c ∨ l.Caseless c) :
    ∃ d, l.cased target [c] = [d] ∧ d.isLetter = c.isLetter ∧ target.Marks d := by
  rcases h with ⟨hletter, hforms⟩ | ⟨⟨hletter, hfixed⟩, hcaseless⟩
  · obtain ⟨d, hd, hdletter, hholds⟩ := hforms target
    exact ⟨d, cased_one_of_form? hc hd, by rw [hletter, hdletter],
      LetterCase.marks_letter hdletter hholds⟩
  · refine ⟨c, cased_one_of_form? hc (hfixed target), rfl, ?_⟩
    intro other
    rw [hcaseless other, hletter, Bool.false_and]

theorem marks_cased (hscalar : ∀ c ∈ cs, c.isSurrogate = false)
    (h : ∀ c ∈ cs, l.SimplyCased c ∨ l.Caseless c) : ∀ d ∈ l.cased target cs, target.Marks d := by
  have alone : ∀ c ∈ cs, ∀ d ∈ l.cased target [c], target.Marks d := by
    intro c hc d hd
    obtain ⟨d', hd', -, hmarks⟩ := cased_one target (hscalar c hc) (h c hc)
    rw [hd', List.mem_singleton] at hd
    rwa [hd]
  intro d hd
  cases target with
  | upper =>
    rw [cased_upper_eq_flatMap, List.mem_flatMap] at hd
    obtain ⟨c, hc, hd⟩ := hd
    exact alone c hc d hd
  | lower =>
    -- what a context adds are small letters
    rcases mem_cased_lower hd with rfl | rfl | ⟨c, hc, hd⟩
    · decide +kernel
    · decide +kernel
    · exact alone c hc d hd

theorem countP_isLetter_cased_upper (hscalar : ∀ c ∈ cs, c.isSurrogate = false)
    (h : ∀ c ∈ cs, l.SimplyCased c ∨ l.Caseless c) :
    (l.cased .upper cs).countP CodePoint.isLetter = cs.countP CodePoint.isLetter := by
  rw [cased_upper_eq_flatMap]
  induction cs with
  | nil => rfl
  | cons c rest ih =>
    rw [List.forall_mem_cons] at hscalar h
    obtain ⟨d, hd, hletter, -⟩ := cased_one .upper hscalar.1 h.1
    rw [List.flatMap_cons, hd, List.singleton_append, List.countP_cons, List.countP_cons,
      ih hscalar.2 h.2, hletter]

end Locale

namespace Capitalization

theorem classifyToEnd_of_marks_upper (h : ∀ d ∈ ds, LetterCase.Marks .upper d) :
    classifyToEnd .unicode ds = ofCount (ds.countP CodePoint.isLetter) := by
  have hcapitals : ∀ d ∈ ds.filter CodePoint.isLetter, d.isUpper = true := by
    intro d hd
    rw [List.mem_filter] at hd
    rw [(h d hd.1).isUpper, hd.2]
  rw [classifyToEnd_of_capitals_letters fun d hd hu => by rwa [← (h d hd).isUpper],
    ofLetters_of_all_capitals hcapitals, List.countP_eq_length_filter]

theorem classifyToEnd_of_marks_lower (h : ∀ d ∈ ds, LetterCase.Marks .lower d) :
    classifyToEnd .unicode ds = .none := by
  have hsmall : ∀ d ∈ ds, d.isUpper = false := fun d hd => (h d hd).isUpper_eq_false
  rw [classifyToEnd_of_capitals_letters fun d hd hu => by rw [hsmall d hd] at hu; cases hu]
  exact ofLetters_of_no_capital fun d hd => hsmall d (List.mem_filter.mp hd).1

theorem classifyToEnd_of_marks_first (hletter : c.isLetter = true) (hc : LetterCase.Marks .upper c)
    (h : ∀ d ∈ ds, LetterCase.Marks .lower d) : classifyToEnd .unicode (c :: ds) = .first := by
  have hsmall : ∀ d ∈ ds, d.isUpper = false := fun d hd => (h d hd).isUpper_eq_false
  have hcapitals : ∀ d ∈ c :: ds, d.isUpper = true → d.isLetter = true := by
    rw [List.forall_mem_cons]
    exact ⟨fun _ => hletter, fun d hd hu => by rw [hsmall d hd] at hu; cases hu⟩
  rw [classifyToEnd_of_capitals_letters hcapitals, List.filter_cons_of_pos hletter]
  refine ofLetters_of_first_capital (by rw [hc.isUpper, hletter]) ?_
  exact fun d hd => hsmall d (List.mem_filter.mp hd).1

end Capitalization

namespace Text

theorem capitalization_of_scalars (h : t.hasSurrogate = false) :
    t.capitalization = .ok (classifyToEnd .unicode t) := by
  rw [capitalization_encoded (encodes_self h), classify_eq]

theorem lettersAll_of_marks (hscalar : t.hasSurrogate = false) (h : ∀ d ∈ t, target.Marks d) :
    t.lettersAll target = .ok true := by
  rw [lettersAll_eq_true_iff (encodes_self hscalar)]
  exact fun d hd => (h d hd).holds

/-- **What is changed is recognized.** Take a text of simply cased letters and caseless code points. In
upper case it is classified by how many letters it has, and passes the test for upper case; in lower
case it has no capitals, and passes the test for lower case; and with its first code point in upper
case and the rest in lower case it has its first letter capitalized, if it starts with a letter. -/
theorem capitalization_of_cased (ht : t.codePoints = .ok cs)
    (h : ∀ c ∈ cs, l.SimplyCased c ∨ l.Caseless c) :
    (∃ r, CaseMapper.unicode.uppercase l t = .ok r ∧
      r.capitalization = .ok (ofCount (cs.countP CodePoint.isLetter)) ∧
      r.lettersAllUpper = .ok true) ∧
    (∃ r, CaseMapper.unicode.lowercase l t = .ok r ∧ r.capitalization = .ok .none ∧
      r.lettersAllLower = .ok true) ∧
    (cs.head?.any CodePoint.isLetter = true →
      ∃ r, t.capitalizeFirstLowerRest l = .ok r ∧ r.capitalization = .ok .first) := by
  have hcs := codePoints_eq_ok_iff.mp ht
  have hscalar := hcs.isSurrogate_eq_false
  have hsur : ∀ target, (l.cased target cs).hasSurrogate = false := fun _ =>
    Locale.hasSurrogate_cased (hasSurrogate_eq_false_iff.mpr hscalar)
  have hmarks : ∀ target, ∀ d ∈ l.cased target cs, target.Marks d := fun _ =>
    Locale.marks_cased hscalar h
  refine ⟨⟨_, CaseMapper.map_encoded .upper l hcs, ?_, ?_⟩,
    ⟨_, CaseMapper.map_encoded .lower l hcs, ?_, ?_⟩, ?_⟩
  · rw [capitalization_of_scalars (hsur .upper), classifyToEnd_of_marks_upper (hmarks .upper),
      Locale.countP_isLetter_cased_upper hscalar h]
  · exact lettersAll_of_marks (hsur .upper) (hmarks .upper)
  · rw [capitalization_of_scalars (hsur .lower), classifyToEnd_of_marks_lower (hmarks .lower)]
  · exact lettersAll_of_marks (hsur .lower) (hmarks .lower)
  · intro hfirst
    cases cs with
    | nil => cases hfirst
    | cons c rest =>
      have hletter : c.isLetter = true := hfirst
      rw [List.forall_mem_cons] at hscalar h
      obtain ⟨d, hd, hdletter, hdmarks⟩ := Locale.cased_one .upper hscalar.1 h.1
      have hresult : (l.firstUpper (l.cased .lower) (c :: rest)).hasSurrogate = false :=
        Locale.hasSurrogate_firstUpper (fun _ => Locale.hasSurrogate_cased)
          (hasSurrogate_eq_false_iff.mpr hcs.isSurrogate_eq_false)
      refine ⟨_, capitalizeFirstLowerRest_encoded hcs, ?_⟩
      rw [capitalization_of_scalars hresult, Locale.firstUpper, hd, List.singleton_append,
        classifyToEnd_of_marks_first (hdletter.trans hletter) hdmarks
          (Locale.marks_cased hscalar.2 h.2)]

/-- A Turkish word of an `I` with a combining dot, which lower case takes away, and a final sigma behind
a hyphen. -/
theorem capitalization_of_cased_turkic :
    (codePoints [0x49, 0x307, 0x2D, 0x61, 0x3A3] = .ok [0x49, 0x307, 0x2D, 0x61, 0x3A3] ∧
      (∀ c ∈ ([0x49, 0x307, 0x2D, 0x61, 0x3A3] : List CodePoint),
        Locale.SimplyCased (some (ofString "tr")) c ∨ Locale.Caseless (some (ofString "tr")) c) ∧
      ([0x49, 0x307, 0x2D, 0x61, 0x3A3] : List CodePoint).head?.any CodePoint.isLetter = true) ∧
    (∃ r, CaseMapper.unicode.uppercase (some (ofString "tr")) [0x49, 0x307, 0x2D, 0x61, 0x3A3] = .ok r ∧
      r.capitalization = .ok .all ∧ r.lettersAllUpper = .ok true) ∧
    (∃ r, CaseMapper.unicode.lowercase (some (ofString "tr")) [0x49, 0x307, 0x2D, 0x61, 0x3A3] = .ok r ∧
      r.capitalization = .ok .none ∧ r.lettersAllLower = .ok true) ∧
    ∃ r, capitalizeFirstLowerRest [0x49, 0x307, 0x2D, 0x61, 0x3A3] (some (ofString "tr")) = .ok r ∧
      r.capitalization = .ok .first :=
  have hcased : ∀ c ∈ ([0x49, 0x307, 0x2D, 0x61, 0x3A3] : List CodePoint),
      Locale.SimplyCased (some (ofString "tr")) c ∨ Locale.Caseless (some (ofString "tr")) c := by
    decide +kernel
  have hfirst : ([0x49, 0x307, 0x2D, 0x61, 0x3A3] : List CodePoint).head?.any
      CodePoint.isLetter = true := by
    decide +kernel
  have hletters : ([0x49, 0x307, 0x2D, 0x61, 0x3A3] : List CodePoint).countP
      CodePoint.isLetter = 3 := by
    decide +kernel
  have hanswers := capitalization_of_cased rfl hcased
  ⟨⟨rfl, hcased, hfirst⟩, by rw [hletters] at hanswers; exact hanswers.1, hanswers.2.1,
    hanswers.2.2 hfirst⟩

end Text

end Recognized

end TypedText
