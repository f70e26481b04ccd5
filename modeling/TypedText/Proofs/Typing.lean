import Mathlib.Data.List.TakeWhile
import TypedText.Proofs.Capitalization

/-!
# TypedText.Proofs.Typing

What more text cannot mend. A letter that refuses a question about case refuses it for every text that
goes on from there, since it is met before anything that is added. A word in mixed case stays one, and
a word in capitals has a second capital by then, so that it cannot turn into one with the first letter
alone.

* `Text.refuse_append`: scans that stop at a refusal.
* `Capitalization.classifyToEnd_append_of_none`, `classifyToEnd_append_ne_first`: the counts.
-/

namespace TypedText

namespace Capitalization

namespace Tally

variable {a : Alphabet} {n : Tally}

theorem count_append (cs ds : List CodePoint) :
    count a n (cs ++ ds) = count a (count a n cs) ds :=
  List.foldl_append

theorem started_one : Started ⟨1, 1⟩ :=
  ⟨Nat.le_refl 1, Nat.le_refl 1⟩

theorem Started.count (h : n.Started) (cs : List CodePoint) : (count a n cs).Started := by
  induction cs generalizing n with
  | nil => exact h
  | cons c rest ih => exact ih (h.add a c)

theorem capitals_le_add (a : Alphabet) (n : Tally) (c : CodePoint) :
    n.capitals ≤ (n.add a c).capitals := by
  simp only [add]
  split
  · exact Nat.le_succ _
  · split <;> exact Nat.le_refl _

theorem capitals_le_count (cs : List CodePoint) : n.capitals ≤ (count a n cs).capitals := by
  induction cs generalizing n with
  | nil => exact Nat.le_refl _
  | cons c rest ih => exact Nat.le_trans (capitals_le_add a n c) ih

theorem settled_of_capitalization (h : n.capitalization = .none) : n.settled = true := by
  rw [settled_iff]
  simp only [capitalization] at h
  split at h
  · cases h
  · rename_i hone
    split at h
    · cases h
    · rename_i hall
      exact ⟨hone, hall⟩

theorem capitals_ne_one_of_capitalization (h : n.capitalization = .all) : n.capitals ≠ 1 := by
  rintro hone
  rw [capitalization, if_pos hone] at h
  cases h

theorem capitalization_ne_first (h : n.capitals ≠ 1) : n.capitalization ≠ .first := by
  rw [capitalization, if_neg h]
  split <;> simp

end Tally

variable {a : Alphabet} {cs ds : List CodePoint} {separators : Separators} {wordStart : Bool}

/-- Behind the first letter there is what there was, and then what is added. -/
theorem dropWhile_append_of_letter {c : CodePoint} {rest : List CodePoint}
    (h : cs.dropWhile (!a.isLetter ·) = c :: rest) (ds : List CodePoint) :
    (cs ++ ds).dropWhile (!a.isLetter ·) = c :: (rest ++ ds) := by
  rw [List.dropWhile_append, h]
  rfl

theorem classifyToEnd_of_letter {c : CodePoint} {rest : List CodePoint}
    (h : cs.dropWhile (!a.isLetter ·) = c :: rest) :
    classifyToEnd a cs =
      if a.isUpper c then (Tally.count a ⟨1, 1⟩ rest).capitalization else .none := by
  rw [classifyToEnd, h]

theorem classifyToEnd_append {c : CodePoint} {rest : List CodePoint}
    (h : cs.dropWhile (!a.isLetter ·) = c :: rest) (ds : List CodePoint) :
    classifyToEnd a (cs ++ ds) =
      if a.isUpper c then (Tally.count a (Tally.count a ⟨1, 1⟩ rest) ds).capitalization
      else .none := by
  rw [classifyToEnd_of_letter (dropWhile_append_of_letter h ds), Tally.count_append]

theorem exists_first_letter (h : ∃ c ∈ cs, a.isLetter c = true) :
    ∃ c rest, cs.dropWhile (!a.isLetter ·) = c :: rest := by
  obtain ⟨c, hc, hletter⟩ := h
  cases hbody : cs.dropWhile (!a.isLetter ·) with
  | nil =>
    have hnone := List.dropWhile_eq_nil_iff.mp hbody c hc
    simp [hletter] at hnone
  | cons d rest => exact ⟨d, rest, rfl⟩

theorem classifyToEnd_append_of_none (hletter : ∃ c ∈ cs, a.isLetter c = true)
    (h : classifyToEnd a cs = .none) (ds : List CodePoint) :
    classifyToEnd a (cs ++ ds) = .none := by
  obtain ⟨c, rest, hbody⟩ := exists_first_letter hletter
  rw [classifyToEnd_of_letter hbody] at h
  rw [classifyToEnd_append hbody]
  split
  · rename_i hu
    rw [if_pos hu] at h
    have hsettled := Tally.settled_of_capitalization h
    exact Tally.capitalization_of_settled
      (Tally.settled_count (Tally.started_one.count rest) hsettled)
  · rfl

theorem classifyToEnd_append_ne_first (h : classifyToEnd a cs = .all) (ds : List CodePoint) :
    classifyToEnd a (cs ++ ds) ≠ .first := by
  cases hbody : cs.dropWhile (!a.isLetter ·) with
  | nil => rw [classifyToEnd, hbody] at h; cases h
  | cons c rest =>
    rw [classifyToEnd_of_letter hbody] at h
    rw [classifyToEnd_append hbody]
    split
    · rename_i hu
      rw [if_pos hu] at h
      -- not one capital and at least one are two, and there are never fewer
      have hpos := (Tally.started_one.count (a := a) rest).capitals_pos
      have hone := Tally.capitals_ne_one_of_capitalization h
      have hmore := Tally.capitals_le_count (a := a) (n := Tally.count a ⟨1, 1⟩ rest) ds
      exact Tally.capitalization_ne_first (by omega)
    · simp

theorem misfit_append (ds : List CodePoint) (h : misfit separators wordStart cs = true) :
    misfit separators wordStart (cs ++ ds) = true := by
  induction cs generalizing wordStart with
  | nil => cases h
  | cons c rest ih =>
    simp only [List.cons_append, misfit, Bool.or_eq_true] at h ⊢
    exact h.imp_right ih

theorem refuse_eq_ok_false_iff {misfits : Bool} {fault? : Option TextError} :
    refuse misfits fault? = .ok false ↔ misfits = true := by
  cases misfits with
  | true => simp [refuse, Reading.verdict]
  | false => cases fault? <;> simp [refuse, Reading.verdict]

end Capitalization

namespace Text

open Capitalization

variable {t : Text}

/-- What is read of a text that goes on starts with all of the text before, however it goes on. -/
theorem exists_reading_append (ht : t.Paired) (s : Text) :
    ∃ ds, (t ++ s).reading.1 = t.reading.1 ++ ds := by
  obtain ⟨cs, hcs⟩ := paired_iff_encodes.mp ht
  rw [reading_eq_iff.mpr hcs]
  exact ⟨_, congrArg Reading.codePoints (read_encoded (d := .forward) hcs s)⟩

/-- A refusal that comes before anything that is added stays one. -/
theorem refuse_append {misfits : List CodePoint → Bool}
    (hmisfits : ∀ cs ds, misfits cs = true → misfits (cs ++ ds) = true) (ht : t.Paired)
    (h : refuse (misfits t.reading.1) t.reading.2 = .ok false) (s : Text) :
    refuse (misfits (t ++ s).reading.1) (t ++ s).reading.2 = .ok false := by
  obtain ⟨ds, hds⟩ := exists_reading_append ht s
  rw [refuse_eq_ok_false_iff] at h ⊢
  rw [hds]
  exact hmisfits _ _ h

theorem any_append {p : CodePoint → Bool} (cs ds : List CodePoint) (h : cs.any p = true) :
    (cs ++ ds).any p = true := by
  rw [List.any_append, h, Bool.true_or]

/-- **Verdicts do not recover.** A refused question about case stays refused whatever is added, be it
malformed. Unless it is, a word that is neither capitalized nor in capitals stays so, and a word in
capitals never again has the first one alone. -/
theorem verdicts_append (ht : t.Paired) :
    (t.lettersAllUpper = .ok false → ∀ s, lettersAllUpper (t ++ s) = .ok false) ∧
    (t.lettersAllLower = .ok false → ∀ s, lettersAllLower (t ++ s) = .ok false) ∧
    (∀ separators, t.eachWordCapitalized separators = .ok false →
      ∀ s, eachWordCapitalized (t ++ s) separators = .ok false) ∧
    ((∃ cs, t.codePoints = .ok cs ∧ ∃ c ∈ cs, c.isLetter = true) → t.capitalization = .ok .none →
      ∀ s : Text, s.Paired → capitalization (t ++ s) = .ok .none) ∧
    (t.capitalization = .ok .all → ∀ s : Text, s.Paired →
      capitalization (t ++ s) = .ok .all ∨ capitalization (t ++ s) = .ok .none) := by
  refine ⟨fun h s => ?_, fun h s => ?_, fun separators h s => ?_, ?_, ?_⟩
  · exact refuse_append any_append ht h s
  · exact refuse_append any_append ht h s
  · exact refuse_append (fun cs ds => misfit_append ds) ht h s
  · rintro ⟨cs, hcs, hletter⟩ h s hs
    obtain ⟨ds, hds⟩ := paired_iff_encodes.mp hs
    rw [codePoints_eq_ok_iff] at hcs
    rw [capitalization_encoded hcs, classify_eq, Except.ok.injEq] at h
    rw [capitalization_encoded (hcs.append hds), classify_eq]
    exact congrArg Except.ok (classifyToEnd_append_of_none hletter h ds)
  · intro h s hs
    obtain ⟨cs, hcs⟩ := paired_iff_encodes.mp ht
    obtain ⟨ds, hds⟩ := paired_iff_encodes.mp hs
    rw [capitalization_encoded hcs, classify_eq, Except.ok.injEq] at h
    rw [capitalization_encoded (hcs.append hds), classify_eq]
    have hfirst := classifyToEnd_append_ne_first h ds
    cases hanswer : classifyToEnd .unicode (cs ++ ds) with
    | none => exact .inr rfl
    | first => exact absurd hanswer hfirst
    | all => exact .inl rfl

/-- A small letter stored as a pair, which half of a pair may follow, and two capitals. -/
theorem verdicts_append_half :
    (Paired [0xD801, 0xDC28] ∧ lettersAllUpper [0xD801, 0xDC28] = .ok false ∧
      lettersAllUpper [0xD801, 0xDC28, 0xD801] = .ok false) ∧
    (capitalization [0xD801, 0xDC28] = .ok .none ∧
      capitalization [0xD801, 0xDC28, 0x41] = .ok .none) ∧
    Paired [0x41, 0x42] ∧ capitalization [0x41, 0x42] = .ok .all ∧
      ∀ s : Text, s.Paired → capitalization ([0x41, 0x42] ++ s) = .ok .all ∨
        capitalization ([0x41, 0x42] ++ s) = .ok .none := by
  have hsmall : Paired [0xD801, 0xDC28] := by decide
  have hcapitals : Paired [0x41, 0x42] := by decide
  have hencodes : Encodes [0xD801, 0xDC28] [0x10428] := codePoints_eq_ok_iff.mp rfl
  have hrefused : lettersAllUpper [0xD801, 0xDC28] = .ok false :=
    (lettersAllUpper_encoded hencodes).trans (congrArg Except.ok (by decide +kernel))
  have hmixed : capitalization [0xD801, 0xDC28] = .ok .none := by
    rw [capitalization_encoded hencodes, classify_eq]
    exact congrArg Except.ok (by decide +kernel)
  have hletter : ∃ cs, codePoints [0xD801, 0xDC28] = .ok cs ∧ ∃ c ∈ cs, c.isLetter = true :=
    ⟨[0x10428], rfl, by decide +kernel⟩
  obtain ⟨hupper, -, -, hnone, -⟩ := verdicts_append hsmall
  obtain ⟨-, -, -, -, hall⟩ := verdicts_append hcapitals
  exact ⟨⟨hsmall, hrefused, hupper hrefused [0xD801]⟩,
    ⟨hmixed, hnone hletter hmixed [0x41] (by decide)⟩, hcapitals, rfl, hall rfl⟩

end Text
end TypedText
