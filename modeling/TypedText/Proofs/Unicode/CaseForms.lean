import TypedText.CaseMapper
import TypedText.Proofs.Text.Whole

/-!
# TypedText.Proofs.Unicode.CaseForms

What a change of case makes of scalar values: scalar values again. No entry of the mapping tables
leads to a surrogate, nor does a rule of the Turkic languages or of the final sigma.

* `mem_mapped`: where the code points of a form come from, for any tables.
* `hasSurrogate_upperRoot`, `hasSurrogate_lowerRoot`: the full mappings, of any such text.
-/

namespace TypedText

namespace Unicode

/-- A shifted run maps a number to one as far from its image as the number is from its start. -/
theorem ShiftRun.exists_of_find? {n m : Nat} {runs : List ShiftRun}
    (h : ShiftRun.find? n runs = some m) :
    ∃ r ∈ runs, r.contains n = true ∧ m = r.image + (n - r.first) := by
  induction runs with
  | nil => cases h
  | cons r rest ih =>
    simp only [ShiftRun.find?] at h
    split at h
    · cases h
    · split at h
      · rename_i hr
        cases h
        exact ⟨r, List.mem_cons_self, hr, rfl⟩
      · obtain ⟨r', hr', hn⟩ := ih h
        exact ⟨r', List.mem_cons_of_mem r hr', hn⟩

/-- A code point of a form is the image of a run, part of an expansion, or the code point itself. -/
theorem mem_mapped {shifts : List ShiftRun} {expansions : List (Nat × List Nat)} {c d : CodePoint}
    (h : d ∈ mapped shifts expansions c) :
    (∃ r ∈ shifts, ∃ k ≤ r.last - r.first, d = .ofNat (r.image + k)) ∨
      (∃ p ∈ expansions, ∃ n ∈ p.2, d = .ofNat n) ∨ d = c := by
  simp only [mapped] at h
  split at h
  · rename_i m hm
    obtain ⟨r, hr, hn, rfl⟩ := ShiftRun.exists_of_find? hm
    simp only [ShiftRun.contains, Bool.and_eq_true, decide_eq_true_eq] at hn
    exact .inl ⟨r, hr, c.val - r.first, by omega, List.mem_singleton.mp h⟩
  · split at h
    · rename_i ns hns
      obtain ⟨before, after, hsplit, -⟩ := List.lookup_eq_some_iff.mp hns
      obtain ⟨n, hn, rfl⟩ := List.mem_map.mp h
      exact .inr (.inl ⟨(c.val, ns), by rw [hsplit]; simp, n, hn, rfl⟩)
    · exact .inr (.inr (List.mem_singleton.mp h))

/-- A run whose images are scalar values. -/
def ShiftRun.ToScalars (r : ShiftRun) : Prop :=
  r.image + (r.last - r.first) < 0xD800 ∨
    0xDFFF < r.image ∧ r.image + (r.last - r.first) < 0x110000

instance (r : ShiftRun) : Decidable r.ToScalars :=
  inferInstanceAs (Decidable (_ ∨ _))

theorem isSurrogate_ofNat {n : Nat} (h : n < 0xD800 ∨ 0xDFFF < n ∧ n < 0x110000) :
    (CodePoint.ofNat n).isSurrogate = false := by
  rw [Bool.eq_false_iff, ne_eq, CodePoint.isSurrogate_iff]
  simp only [CodePoint.ofNat]
  omega

theorem isSurrogate_mapped {shifts : List ShiftRun} {expansions : List (Nat × List Nat)}
    (hshifts : ∀ r ∈ shifts, r.ToScalars) (hexp : ∀ p ∈ expansions, ∀ n ∈ p.2, n < 0xD800)
    {c d : CodePoint} (hc : c.isSurrogate = false) (hd : d ∈ mapped shifts expansions c) :
    d.isSurrogate = false := by
  rcases mem_mapped hd with ⟨r, hr, k, hk, rfl⟩ | ⟨p, hp, n, hn, rfl⟩ | rfl
  · have := hshifts r hr
    exact isSurrogate_ofNat (by simp only [ShiftRun.ToScalars] at this; omega)
  · exact isSurrogate_ofNat (.inl (hexp p hp n hn))
  · exact hc

theorem isSurrogate_upperForm {c d : CodePoint} (hc : c.isSurrogate = false)
    (hd : d ∈ upperForm c) : d.isSurrogate = false :=
  isSurrogate_mapped (by decide +kernel) (by decide +kernel) hc hd

theorem isSurrogate_lowerForm {c d : CodePoint} (hc : c.isSurrogate = false)
    (hd : d ∈ lowerForm c) : d.isSurrogate = false :=
  isSurrogate_mapped (by decide +kernel) (by decide +kernel) hc hd

/-- A code point of a text in lower case is a small sigma or part of the form of one of its own. -/
theorem mem_lowerAfter {d : CodePoint} {t : Text} :
    ∀ {before : Bool}, d ∈ lowerAfter before t →
      d = finalSigma ∨ d = smallSigma ∨ ∃ c ∈ t, d ∈ lowerForm c := by
  induction t with
  | nil => intro before h; cases h
  | cons c rest ih =>
    intro before h
    simp only [lowerAfter, List.mem_append] at h
    rcases h with h | h
    · split at h
      · rw [List.mem_singleton] at h
        split at h
        · exact .inl h
        · exact .inr (.inl h)
      · exact .inr (.inr ⟨c, List.mem_cons_self, h⟩)
    · rcases ih h with h | h | ⟨c', hc', h⟩
      · exact .inl h
      · exact .inr (.inl h)
      · exact .inr (.inr ⟨c', List.mem_cons_of_mem c hc', h⟩)

end Unicode

namespace Text

theorem hasSurrogate_upperRoot {t : Text} (h : t.hasSurrogate = false) :
    t.upperRoot.hasSurrogate = false := by
  rw [hasSurrogate_eq_false_iff] at h ⊢
  intro d hd
  obtain ⟨c, hc, hd⟩ := List.mem_flatMap.mp hd
  exact Unicode.isSurrogate_upperForm (h c hc) hd

theorem hasSurrogate_lowerRoot {t : Text} (h : t.hasSurrogate = false) :
    t.lowerRoot.hasSurrogate = false := by
  rw [hasSurrogate_eq_false_iff] at h ⊢
  intro d hd
  rcases Unicode.mem_lowerAfter hd with rfl | rfl | ⟨c, hc, hd⟩
  · rfl
  · rfl
  · exact Unicode.isSurrogate_lowerForm (h c hc) hd

end Text

namespace Turkic

theorem hasSurrogate_dotCapitals {t : Text} (h : t.hasSurrogate = false) :
    Text.hasSurrogate (dotCapitals t) = false := by
  rw [Text.hasSurrogate_eq_false_iff] at h ⊢
  intro d hd
  obtain ⟨c, hc, rfl⟩ := List.mem_map.mp hd
  split
  · rfl
  · exact h c hc

theorem hasSurrogate_lowerCapitals {t : Text} (h : t.hasSurrogate = false) :
    Text.hasSurrogate (lowerCapitals t) = false := by
  rw [Text.hasSurrogate_eq_false_iff] at h ⊢
  intro d hd
  obtain ⟨c, hc, rfl⟩ := List.mem_map.mp hd
  split
  · rfl
  · split
    · rfl
    · exact h c hc

theorem mem_composeDots {d : CodePoint} {t : Text} (h : d ∈ composeDots t) : d = 0x69 ∨ d ∈ t := by
  fun_induction composeDots t with
  | case1 c e rest hdot ih =>
    rcases List.mem_cons.mp h with h | h
    · exact .inl h
    · exact (ih h).imp_right fun h => List.mem_cons_of_mem _ (List.mem_cons_of_mem _ h)
  | case2 c e rest hdot ih =>
    rcases List.mem_cons.mp h with h | h
    · exact .inr (h ▸ List.mem_cons_self)
    · exact (ih h).imp_right (List.mem_cons_of_mem _)
  | case3 t => exact .inr h

theorem hasSurrogate_composeDots {t : Text} (h : t.hasSurrogate = false) :
    Text.hasSurrogate (composeDots t) = false := by
  rw [Text.hasSurrogate_eq_false_iff] at h ⊢
  intro d hd
  rcases mem_composeDots hd with rfl | hd
  · rfl
  · exact h d hd

end Turkic
end TypedText
