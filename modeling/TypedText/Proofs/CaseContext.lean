import TypedText.Proofs.Capitalize

/-!
# TypedText.Proofs.CaseContext

What the case of a code point has to do with the code points around it. Upper case is taken one code
point at a time (`cased_upper_eq_flatMap`). Lower case looks at two contexts: a capital sigma may be
final, and in a Turkic language a combining dot may belong to an `I` before it.

* `Locale.ContextFree`: that neither context occurs. Then lower case, too, is taken one code point at a
  time (`cased_lower_eq_flatMap`).
* `Locale.mem_cased_lower`: in any context, nothing comes up that is not part of the lower-case form of
  one of the code points, except a final sigma and the `i` of a composed dot.
-/

namespace TypedText

variable {l : Locale} {target : LetterCase} {t : Text} {c d : CodePoint} {cs : List CodePoint}

namespace Unicode

theorem lowerAfter_eq_flatMap (h : capitalSigma ∉ t) :
    ∀ before, lowerAfter before t = t.flatMap lowerForm := by
  induction t with
  | nil => intro before; rfl
  | cons c rest ih =>
    intro before
    rw [List.mem_cons, not_or] at h
    rw [lowerAfter, if_neg (Ne.symm h.1), ih h.2, List.flatMap_cons]

theorem mem_lowerAfter_alone :
    ∀ {before : Bool}, d ∈ lowerAfter before t →
      d = finalSigma ∨ ∃ c ∈ t, d ∈ lowerAfter false [c] := by
  induction t with
  | nil => intro before h; cases h
  | cons c rest ih =>
    intro before h
    rw [lowerAfter, List.mem_append] at h
    rcases h with h | h
    · by_cases hsigma : c = capitalSigma
      · rw [if_pos hsigma, List.mem_singleton] at h
        split at h
        · exact .inl h
        · exact .inr ⟨c, List.mem_cons_self, by simp [lowerAfter, hsigma, h]⟩
      · rw [if_neg hsigma] at h
        exact .inr ⟨c, List.mem_cons_self, by simp [lowerAfter, hsigma, h]⟩
    · rcases ih h with h | ⟨c', hc', h⟩
      · exact .inl h
      · exact .inr ⟨c', List.mem_cons_of_mem c hc', h⟩

end Unicode

namespace Turkic

theorem composeDots_eq_self (h : ¬ [0x49, 0x307] <:+: t) : composeDots t = t := by
  fun_induction composeDots t with
  | case1 c d rest hdot ih =>
    obtain ⟨rfl, rfl⟩ : c = 0x49 ∧ d = 0x307 := ⟨CodePoint.ext hdot.1, CodePoint.ext hdot.2⟩
    exact absurd ⟨[], rest, rfl⟩ h
  | case2 c d rest hdot ih =>
    have hrest : ¬ [0x49, 0x307] <:+: d :: rest := fun hin => h (List.infix_cons hin)
    rw [ih hrest]
  | case3 t => rfl

theorem capitalSigma_not_mem_lowerCapitals (h : Unicode.capitalSigma ∉ t) :
    Unicode.capitalSigma ∉ lowerCapitals t := by
  intro hmem
  obtain ⟨c, hc, heq⟩ := List.mem_map.mp hmem
  split at heq
  · cases heq
  · split at heq
    · cases heq
    · exact h (heq ▸ hc)

end Turkic

namespace Locale

theorem cased_upper_eq_flatMap (l : Locale) (cs : List CodePoint) :
    l.cased .upper cs = cs.flatMap fun c => l.cased .upper [c] := by
  induction cs with
  | nil => exact l.cased_nil .upper
  | cons c rest ih =>
    rw [List.flatMap_cons, ← ih]
    simp only [cased, Text.upperRoot]
    rw [← List.flatMap_append]
    split <;> rfl

/-- No code point is lowered by its neighbours: there is no capital sigma, which may be final, and in
a Turkic language no `I` with a combining dot. -/
structure ContextFree (l : Locale) (cs : List CodePoint) : Prop where
  no_sigma : Unicode.capitalSigma ∉ cs
  no_dot : l.isTurkic → ¬ [0x49, 0x307] <:+: cs

theorem ContextFree.part {ds : List CodePoint} (h : l.ContextFree cs) (hds : ds <:+: cs) :
    l.ContextFree ds :=
  ⟨fun hmem => h.no_sigma (hds.mem hmem), fun ht hin => h.no_dot ht (hin.trans hds)⟩

theorem cased_lower_eq (h : l.ContextFree cs) :
    l.cased .lower cs =
      (if l.isTurkic then Turkic.lowerCapitals cs else cs).flatMap Unicode.lowerForm := by
  simp only [cased, Text.lowerRoot]
  split
  · rename_i ht
    rw [Turkic.composeDots_eq_self (h.no_dot ht)]
    exact Unicode.lowerAfter_eq_flatMap (Turkic.capitalSigma_not_mem_lowerCapitals h.no_sigma) _
  · exact Unicode.lowerAfter_eq_flatMap h.no_sigma _

theorem cased_lower_eq_flatMap (h : l.ContextFree cs) :
    l.cased .lower cs = cs.flatMap fun c => l.cased .lower [c] := by
  induction cs with
  | nil => exact l.cased_nil .lower
  | cons c rest ih =>
    have hrest := h.part (List.suffix_cons c rest).isInfix
    have hone : l.ContextFree [c] := h.part (List.prefix_append [c] rest).isInfix
    rw [List.flatMap_cons, ← ih hrest, cased_lower_eq h, cased_lower_eq hone, cased_lower_eq hrest,
      ← List.flatMap_append]
    split <;> rfl

theorem mem_cased_lower (h : d ∈ l.cased .lower cs) :
    d = Unicode.finalSigma ∨ d = 0x69 ∨ ∃ c ∈ cs, d ∈ l.cased .lower [c] := by
  simp only [cased, Text.lowerRoot] at h ⊢
  by_cases ht : l.isTurkic = true
  · rw [if_pos ht] at h
    rcases Unicode.mem_lowerAfter_alone h with hfinal | ⟨e, he, hd⟩
    · exact .inl hfinal
    · -- `e` stands for a code point of the text, or for an `I` that has lost its dot
      obtain ⟨c, hc, rfl⟩ := List.mem_map.mp he
      rcases Turkic.mem_composeDots hc with rfl | hc
      · exact .inr (.inl (List.mem_singleton.mp hd))
      · exact .inr (.inr ⟨c, hc, by rwa [if_pos ht]⟩)
  · rw [if_neg ht] at h
    rcases Unicode.mem_lowerAfter_alone h with hfinal | ⟨c, hc, hd⟩
    · exact .inl hfinal
    · exact .inr (.inr ⟨c, hc, by rwa [if_neg ht]⟩)

end Locale
end TypedText
