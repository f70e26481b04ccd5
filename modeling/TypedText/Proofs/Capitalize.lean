import TypedText.Capitalize
import TypedText.Proofs.Unicode.CaseForms

/-!
# TypedText.Proofs.Capitalize

What the capitalized variants of a text are, said of its code points alone. The plans cut a text
into spans of units, and the mapper joins the pairs of each span; neither shows in the result.

* `Locale.cased`, `Locale.firstUpper`, `Locale.eachWord`: the variants of a list of code points.
* `unicode_map`, `run_planAfterFirst`, `run_planEachWord`: a text that encodes the code points has
  these variants.
* `map_reportsUnpaired`, `planAfterFirst_reportsUnpaired`, `planEachWord_reportsUnpaired`: a text that
  encodes none has no variant.
-/

namespace TypedText

namespace Locale

/-- Code points in a case, under the rules of the locale's language. -/
def cased (l : Locale) : LetterCase → List CodePoint → Text
  | .upper, cs => Text.upperRoot (if l.isTurkic then Turkic.dotCapitals cs else cs)
  | .lower, cs =>
    Text.lowerRoot (if l.isTurkic then Turkic.lowerCapitals (Turkic.composeDots cs) else cs)

/-- The first code point in upper case, and what `after` makes of those behind it. -/
def firstUpper (l : Locale) (after : List CodePoint → Text) : List CodePoint → Text
  | [] => []
  | c :: rest => l.cased .upper [c] ++ after rest

/-- Each code point on its own: in upper case at the start and after a separator, otherwise in
lower case. -/
def eachWord (l : Locale) (separators : Separators) : Bool → List CodePoint → Text
  | _, [] => []
  | wordStart, c :: rest =>
    l.cased (if wordStart then .upper else .lower) [c] ++
      eachWord l separators (separators.contains c.val) rest

variable {l : Locale} {target : LetterCase} {cs : List CodePoint}

theorem cased_nil (l : Locale) (target : LetterCase) : l.cased target [] = [] := by
  cases target <;> cases h : l.isTurkic <;> simp [cased, h] <;> rfl

theorem hasSurrogate_cased (h : Text.hasSurrogate cs = false) :
    (l.cased target cs).hasSurrogate = false := by
  cases target with
  | upper =>
    apply Text.hasSurrogate_upperRoot
    split
    · exact Turkic.hasSurrogate_dotCapitals h
    · exact h
  | lower =>
    apply Text.hasSurrogate_lowerRoot
    split
    · exact Turkic.hasSurrogate_lowerCapitals (Turkic.hasSurrogate_composeDots h)
    · exact h

theorem hasSurrogate_cased_one {c : CodePoint} (h : c.isSurrogate = false) :
    (l.cased target [c]).hasSurrogate = false :=
  hasSurrogate_cased (Text.hasSurrogate_cons_eq_false_iff.mpr ⟨h, rfl⟩)

theorem hasSurrogate_firstUpper {after : List CodePoint → Text}
    (hafter : ∀ ds, Text.hasSurrogate ds = false → (after ds).hasSurrogate = false)
    (h : Text.hasSurrogate cs = false) : (l.firstUpper after cs).hasSurrogate = false := by
  cases cs with
  | nil => rfl
  | cons c rest =>
    obtain ⟨hc, hrest⟩ := Text.hasSurrogate_cons_eq_false_iff.mp h
    exact Text.hasSurrogate_append_eq_false (hasSurrogate_cased_one hc) (hafter rest hrest)

theorem hasSurrogate_eachWord {separators : Separators} :
    ∀ {wordStart : Bool}, Text.hasSurrogate cs = false →
      (l.eachWord separators wordStart cs).hasSurrogate = false := by
  induction cs with
  | nil => intro wordStart _; rfl
  | cons c rest ih =>
    intro wordStart h
    obtain ⟨hc, hrest⟩ := Text.hasSurrogate_cons_eq_false_iff.mp h
    exact Text.hasSurrogate_append_eq_false (hasSurrogate_cased_one hc) (ih hrest)

end Locale

namespace CaseMapper

variable {t : Text} {cs : List CodePoint}

theorem unicode_map (target : LetterCase) (l : Locale) (t : Text) :
    unicode.map target l t =
      match t.joinPairs with
      | .error e => .error e
      | .ok cs => .ok (l.cased target cs) := by
  cases target <;> rfl

theorem map_encoded (target : LetterCase) (l : Locale) (h : Encodes t cs) :
    unicode.map target l t = .ok (l.cased target cs) := by
  rw [unicode_map, Text.joinPairs, Text.codePoints_eq_ok_iff.mpr h]

theorem map_reportsUnpaired (target : LetterCase) (l : Locale) (h : ¬ t.Paired) :
    ReportsUnpaired (unicode.map target l t) := by
  obtain ⟨u, i, herr⟩ := Text.codePoints_reportsUnpaired h
  exact ⟨u, i, by rw [unicode_map, Text.joinPairs, herr]⟩

end CaseMapper

namespace CaseStep

variable {l : Locale} {target : LetterCase} {t : Text} {cs : List CodePoint}

theorem run_change (h : Encodes t cs) :
    (change target t).run .unicode l = .ok (l.cased target cs) :=
  CaseMapper.map_encoded target l h

theorem run_keep (h : Encodes t cs) : (keep t).run .unicode l = .ok cs :=
  Text.codePoints_eq_ok_iff.mpr h

theorem run_change_reportsUnpaired (target : LetterCase) (l : Locale) (h : ¬ t.Paired) :
    ReportsUnpaired ((change target t).run .unicode l) :=
  CaseMapper.map_reportsUnpaired target l h

theorem run_keep_reportsUnpaired (l : Locale) (h : ¬ t.Paired) :
    ReportsUnpaired ((keep t).run .unicode l) :=
  Text.codePoints_reportsUnpaired h

end CaseStep

namespace Text

variable {l : Locale} {t : Text} {cs : List CodePoint} {after : Text → CaseStep}

/-- A plan that starts with the first code point gives the code points with the first one in upper
case, if its second step does to the code points of a span what `g` does. -/
theorem run_planAfterFirst {g : List CodePoint → Text}
    (hafter : ∀ s ds, Encodes s ds → (after s).run .unicode l = .ok (g ds)) (hnil : g [] = [])
    (h : Encodes t cs) :
    (t.planAfterFirst after).run .unicode l = .ok (l.firstUpper g cs) := by
  simp only [planAfterFirst]
  split
  · -- at most one unit: it is the code point, or there is none
    rename_i hlen
    have hle := h.length_le
    simp only [CasePlan.run, CaseStep.runAll, CaseStep.run_change h, List.append_nil]
    cases cs with
    | nil => rw [Locale.cased_nil]; rfl
    | cons c rest =>
      have hrest : rest = [] := by
        rw [List.length_cons] at hle
        exact List.eq_nil_of_length_eq_zero (by omega)
      rw [hrest, Locale.firstUpper, hnil, List.append_nil]
  · rename_i hlen
    cases cs with
    | nil => cases h; simp at hlen
    | cons c rest =>
      obtain ⟨k, hfirst, hrest⟩ := (spans_whole_iff.mpr h).uncons
      have hadv : t.advance 0 1 = .ok k :=
        (advance_eq_ok_iff (Nat.zero_le _)).mpr ⟨[c], rfl, hfirst⟩
      have hstep := hafter _ _ hrest.encodes_drop
      simp only [hadv, CasePlan.run, CaseStep.runAll, CaseStep.run_change hfirst.encodes_take, hstep,
        List.append_nil]
      rfl

theorem planAfterFirst_reportsUnpaired
    (hafter : ∀ s, ¬ Paired s → ReportsUnpaired ((after s).run .unicode l)) (h : ¬ t.Paired) :
    ReportsUnpaired ((t.planAfterFirst after).run .unicode l) := by
  simp only [planAfterFirst]
  split
  · obtain ⟨u, i, herr⟩ := CaseStep.run_change_reportsUnpaired .upper l h
    exact ⟨u, i, by simp only [CasePlan.run, CaseStep.runAll, herr]⟩
  · rename_i hlen
    cases t with
    | nil => simp at hlen
    | cons u rest =>
      rcases advance_one u rest with ⟨c, k, hfirst, hadv⟩ | ⟨k, hadv⟩
      · -- what follows the first code point holds the unpaired surrogate
        have hrest : ¬ Paired (List.drop k (u :: rest)) := by
          intro hp
          obtain ⟨ds, hds⟩ := paired_iff_encodes.mp hp
          have hwhole := hfirst.encodes_take.append hds
          rw [List.take_append_drop] at hwhole
          exact h (paired_iff_encodes.mpr ⟨_, hwhole⟩)
        obtain ⟨v, i, herr⟩ := hafter _ hrest
        refine ⟨v, i, ?_⟩
        simp only [hadv, CasePlan.run, CaseStep.runAll, CaseStep.run_change hfirst.encodes_take, herr]
      · exact ⟨u, k, by simp only [hadv, CasePlan.run, CaseStep.runAll]⟩

end Text

namespace CaseStep

/-- The steps of the code points of a text, one after the other, up to what is wrong behind them. -/
theorem runAll_eachWordSteps {l : Locale} {separators : Separators} {fault? : Option TextError}
    {cs : List CodePoint} :
    ∀ {wordStart : Bool}, (∀ c ∈ cs, c.isSurrogate = false) →
      runAll .unicode l fault? (CasePlan.eachWordSteps separators wordStart cs) =
        match fault? with
        | some e => .error e
        | none => .ok (l.eachWord separators wordStart cs) := by
  induction cs with
  | nil => intro wordStart _; cases fault? <;> rfl
  | cons c rest ih =>
    intro wordStart h
    rw [List.forall_mem_cons] at h
    have hone : Encodes [c] [c] := .one (.unit h.1)
    simp only [CasePlan.eachWordSteps, runAll, run_change hone, ih h.2]
    cases fault? <;> rfl

end CaseStep

namespace Text

variable {l : Locale} {separators : Separators} {t : Text} {cs : List CodePoint}

theorem run_planEachWord (h : Encodes t cs) :
    (t.planEachWord separators).run .unicode l = .ok (l.eachWord separators true cs) := by
  simp only [planEachWord, CasePlan.run, reading_eq_iff.mpr h]
  rw [CaseStep.runAll_eachWordSteps h.isSurrogate_eq_false]

theorem planEachWord_reportsUnpaired (h : ¬ t.Paired) :
    ReportsUnpaired ((t.planEachWord separators).run .unicode l) := by
  rcases t.reading_cases with ⟨cs, hs, -⟩ | ⟨i, u, cs, -, -, hs, hr⟩
  · exact absurd (paired_iff_encodes.mpr ⟨cs, hs⟩) h
  · refine ⟨u, i, ?_⟩
    simp only [planEachWord, CasePlan.run, hr]
    rw [CaseStep.runAll_eachWordSteps hs.encodes.isSurrogate_eq_false]

end Text
end TypedText
