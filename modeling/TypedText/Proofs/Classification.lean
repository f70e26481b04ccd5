import TypedText.Proofs.Typing
import TypedText.Proofs.Unicode.FixedForms

/-!
# TypedText.Proofs.Classification

What the classification of a word agrees with: the same count without an early stop, and the tests that
ask whether all letters have one case.

* `Tally.breakOff`: the tally with which the count ends, be it settled before the end or not.
* `classifyBy`: the classification with a way to count left open.
* `capitalization_breakOff`: the tally broken off decides as every longer count does. Once settled it
  stays so: a capital raises both numbers, and any other letter only that of letters.
* `capitalization_toEnd`: stopping early changes no answer, whatever counts as a letter or a capital.
* `capitalization_lettersAll`: the answers of the two tests, read off the classification.
-/

namespace TypedText
namespace Capitalization

section EarlyStop

variable {a : Alphabet} {n : Tally} {cs : List CodePoint}

namespace Tally

/-- The first settled tally that another code point follows, or else the last one. -/
def breakOff (a : Alphabet) : Tally → List CodePoint → Tally
  | n, [] => n
  | n, c :: rest => if n.settled then n else breakOff a (n.add a c) rest

theorem capitalization_breakOff (h : n.Started) (cs : List CodePoint) :
    (breakOff a n cs).capitalization = (count a n cs).capitalization := by
  induction cs generalizing n with
  | nil => rfl
  | cons c rest ih =>
    rw [breakOff]
    split
    · rename_i hs
      have hend : (count a n (c :: rest)).settled = true := settled_count h hs
      rw [capitalization_of_settled hs, capitalization_of_settled hend]
    · exact ih (h.add a c)

end Tally

/-- The classification that counts, from a first letter that is a capital on, by `loop`. -/
def classifyBy (loop : Tally → List CodePoint → Tally) (a : Alphabet) (cs : List CodePoint) :
    Capitalization :=
  match cs.dropWhile (!a.isLetter ·) with
  | [] => .none
  | c :: rest => if a.isUpper c then (loop ⟨1, 1⟩ rest).capitalization else .none

theorem classifyBy_breakOff (a : Alphabet) (cs : List CodePoint) :
    classifyBy (Tally.breakOff a) a cs = classifyBy (Tally.count a) a cs := by
  unfold classifyBy
  split
  · rfl
  · rw [Tally.capitalization_breakOff Tally.started_one]

theorem classify_eq_breakOff (a : Alphabet) (cs : List CodePoint) :
    classify a (cs, Option.none) = .ok (classifyBy (Tally.breakOff a) a cs) := by
  rw [classifyBy_breakOff]
  exact classify_eq a cs

/-- An answer given before an unpaired surrogate is met is one that no further code point would change. -/
theorem classify_before_fault {e : TextError} {v : Capitalization}
    (h : classify a (cs, some e) = .ok v) :
    v = .none ∧ ∀ ds, classifyBy (Tally.count a) a (cs ++ ds) = .none := by
  unfold classify at h
  simp only at h
  split at h
  · cases h
  · rename_i c rest hbody
    have hletter : ∃ c ∈ cs, a.isLetter c = true := by
      have hhead := List.head?_dropWhile_not (!a.isLetter ·) cs
      have hmem : c ∈ cs.dropWhile (!a.isLetter ·) := by simp [hbody]
      rw [hbody] at hhead
      exact ⟨c, (List.dropWhile_sublist _).mem hmem, by simpa using hhead⟩
    have hnone : v = .none ∧ classifyToEnd a cs = .none := by
      rw [classifyToEnd_of_letter hbody]
      cases hu : a.isUpper c with
      | false =>
        simp only [hu] at h
        cases h
        exact ⟨rfl, rfl⟩
      | true =>
        rcases Tally.scan_cases a rest Tally.started_one with ⟨hscan, hsettled⟩ | hscan
        · simp only [hu, hscan] at h
          cases h
          exact ⟨rfl, Tally.capitalization_of_settled hsettled⟩
        · simp [hu, hscan, Reading.verdict] at h
    exact ⟨hnone.1, fun ds => classifyToEnd_append_of_none hletter hnone.2 ds⟩

end EarlyStop

section Tests

variable {cs letters : List CodePoint}

theorem ofLetters_eq_all (h : ofLetters letters = .all) : ∀ c ∈ letters, c.isUpper = true := by
  unfold ofLetters at h
  simp only at h
  split at h
  · split at h
    · cases h
    · split at h
      · rename_i hcount
        exact List.countP_eq_length.mp hcount.symm
      · cases h
  · cases h

theorem ofLetters_eq_first_of_one (h : ofLetters letters = .first) (hone : letters.length = 1) :
    ∀ c ∈ letters, c.isUpper = true := by
  obtain ⟨c, rfl⟩ := List.length_eq_one_iff.mp hone
  rw [List.forall_mem_singleton]
  cases hc : c.isUpper with
  | true => rfl
  | false => simp [ofLetters, hc] at h

theorem forall_upper_iff_classifyToEnd (hletter : 0 < (cs.filter CodePoint.isLetter).length) :
    (∀ c ∈ cs.filter CodePoint.isLetter, c.isUpper = true) ↔
      classifyToEnd .unicode cs = .all ∨
        classifyToEnd .unicode cs = .first ∧ (cs.filter CodePoint.isLetter).length = 1 := by
  rw [classifyToEnd_unicode]
  generalize cs.filter CodePoint.isLetter = letters at hletter
  constructor
  · intro hall
    rw [ofLetters_of_all_capitals hall]
    match hlen : letters.length with
    | 0 => omega
    | 1 =>
      rw [ofCount]
      cases hasStrayCapital cs <;> simp
    | k + 2 => simp [ofCount]
  · intro h
    by_cases hstray : ofLetters letters = .first ∧ hasStrayCapital cs = true
    · rw [if_pos hstray] at h
      by_cases hone : letters.length = 1
      · exact ofLetters_eq_first_of_one hstray.1 hone
      · simp [hone] at h
    · rw [if_neg hstray] at h
      rcases h with hall | ⟨hfirst, hone⟩
      · exact ofLetters_eq_all hall
      · exact ofLetters_eq_first_of_one hfirst hone

theorem classifyToEnd_of_no_capital (h : ∀ c ∈ cs.filter CodePoint.isLetter, c.isUpper = false) :
    classifyToEnd .unicode cs = .none := by
  rw [classifyToEnd_unicode, ofLetters_of_no_capital h]
  simp

end Tests

end Capitalization

namespace Text

open Capitalization

/-- **Stopping early changes no answer.** Whatever counts as a letter and as a capital, a text is
classified by the tally broken off as by the one counted to the end. On a text that cannot be read to
its end, the only answer is `none`, and whatever followed what has been read, a count to the end would
give it too. -/
theorem capitalization_toEnd (t : Text) :
    (t.Paired → ∃ cs, t.codePoints = .ok cs ∧
      (∀ a, classify a t.reading = .ok (classifyBy (Tally.breakOff a) a cs) ∧
        classifyBy (Tally.breakOff a) a cs = classifyBy (Tally.count a) a cs) ∧
      t.capitalization = .ok (classifyBy (Tally.count .unicode) .unicode cs)) ∧
    ∀ a cs e, t.reading = (cs, some e) → ∀ v, classify a t.reading = .ok v →
      v = .none ∧ ∀ ds, classifyBy (Tally.count a) a (cs ++ ds) = .none := by
  constructor
  · intro ht
    obtain ⟨cs, hcs⟩ := paired_iff_encodes.mp ht
    have hread := reading_eq_iff.mpr hcs
    refine ⟨cs, codePoints_eq_ok_iff.mpr hcs, ?_, ?_⟩
    · intro a
      rw [hread]
      exact ⟨classify_eq_breakOff a cs, classifyBy_breakOff a cs⟩
    · rw [capitalization_encoded hcs, classify_eq_breakOff, classifyBy_breakOff]
  · intro a cs e hread v h
    rw [hread] at h
    exact classify_before_fault h

/-- Mixed case, settled before a pair and a last capital; and the same with half of the pair. -/
theorem capitalization_toEnd_mixed :
    (Paired [0x41, 0x62, 0x43, 0xD801, 0xDC28, 0x44] ∧
      ∃ cs, codePoints [0x41, 0x62, 0x43, 0xD801, 0xDC28, 0x44] = .ok cs ∧
        (∀ a, classify a (reading [0x41, 0x62, 0x43, 0xD801, 0xDC28, 0x44]) =
            .ok (classifyBy (Tally.breakOff a) a cs) ∧
          classifyBy (Tally.breakOff a) a cs = classifyBy (Tally.count a) a cs) ∧
        capitalization [0x41, 0x62, 0x43, 0xD801, 0xDC28, 0x44] =
          .ok (classifyBy (Tally.count .unicode) .unicode cs)) ∧
    (reading [0x41, 0x62, 0x43, 0x64, 0xD801] =
        ([0x41, 0x62, 0x43, 0x64], some (.unpaired 0xD801 4)) ∧
      classify .unicode (reading [0x41, 0x62, 0x43, 0x64, 0xD801]) = .ok .none ∧
      ∀ ds, classifyBy (Tally.count .unicode) .unicode ([0x41, 0x62, 0x43, 0x64] ++ ds) = .none) := by
  have hpaired : Paired [0x41, 0x62, 0x43, 0xD801, 0xDC28, 0x44] := by decide
  have hread : reading [0x41, 0x62, 0x43, 0x64, 0xD801] =
      ([0x41, 0x62, 0x43, 0x64], some (.unpaired 0xD801 4)) := rfl
  have hnone : classify .unicode (reading [0x41, 0x62, 0x43, 0x64, 0xD801]) = .ok .none := rfl
  exact ⟨⟨hpaired, (capitalization_toEnd _).1 hpaired⟩, hread, hnone,
    ((capitalization_toEnd _).2 .unicode _ _ hread _ hnone).2⟩

/-- **The classification and the tests agree.** In a text with a letter, all letters are in upper case
exactly if it is classified as `all`, or as `first` with no other letter. If all of them are in lower
case, it is classified as `none`. -/
theorem capitalization_lettersAll {t : Text} (ht : t.Paired) :
    ∃ cs v upper lower, t.codePoints = .ok cs ∧ t.capitalization = .ok v ∧
      t.lettersAllUpper = .ok upper ∧ t.lettersAllLower = .ok lower ∧
      ((∃ c ∈ cs, c.isLetter = true) →
        (upper = true ↔ v = .all ∨ v = .first ∧ (cs.filter CodePoint.isLetter).length = 1) ∧
        (lower = true → v = .none)) := by
  obtain ⟨cs, hcs⟩ := paired_iff_encodes.mp ht
  have hanswer : t.capitalization = .ok (classifyToEnd .unicode cs) := by
    rw [capitalization_encoded hcs, classify_eq]
  refine ⟨cs, _, _, _, codePoints_eq_ok_iff.mpr hcs, hanswer, lettersAllUpper_encoded hcs,
    lettersAllLower_encoded hcs, fun hletter => ⟨?_, fun hlower => ?_⟩⟩
  · have hpos : 0 < (cs.filter CodePoint.isLetter).length := by
      obtain ⟨c, hc, hletter⟩ := hletter
      exact List.length_pos_of_mem (List.mem_filter.mpr ⟨hc, hletter⟩)
    rw [← forall_upper_iff_classifyToEnd hpos]
    simp
  · apply classifyToEnd_of_no_capital
    intro c hc
    obtain ⟨hmem, hc⟩ := List.mem_filter.mp hc
    simp only [Bool.not_eq_true', List.any_eq_false, Bool.and_eq_true, not_and] at hlower
    have hlow : c.isLower = true := by simpa using hlower c hmem hc
    exact Unicode.isUppercase_eq_false_of_isLowercase hlow

/-- A single capital letter with a circled one behind it, and a small letter stored as a pair. -/
theorem capitalization_lettersAll_circled :
    (Paired [0x31, 0x41, 0x24B6] ∧
      ∃ cs v upper lower, codePoints [0x31, 0x41, 0x24B6] = .ok cs ∧
        capitalization [0x31, 0x41, 0x24B6] = .ok v ∧
        lettersAllUpper [0x31, 0x41, 0x24B6] = .ok upper ∧
        lettersAllLower [0x31, 0x41, 0x24B6] = .ok lower ∧
        ((∃ c ∈ cs, c.isLetter = true) →
          (upper = true ↔ v = .all ∨ v = .first ∧ (cs.filter CodePoint.isLetter).length = 1) ∧
          (lower = true → v = .none))) ∧
    capitalization [0xD801, 0xDC28] = .ok .none := by
  have hpaired : Paired [0x31, 0x41, 0x24B6] := by decide
  have hsmall : Paired [0xD801, 0xDC28] := by decide
  refine ⟨⟨hpaired, capitalization_lettersAll hpaired⟩, ?_⟩
  obtain ⟨cs, v, upper, lower, hcs, hv, -, hlower, h⟩ := capitalization_lettersAll hsmall
  obtain rfl : [0x10428] = cs := Except.ok.inj hcs
  have hletter : ∃ c ∈ ([0x10428] : List CodePoint), c.isLetter = true := by decide +kernel
  have htrue : lettersAllLower [0xD801, 0xDC28] = .ok true := by
    rw [lettersAllLower_encoded (codePoints_eq_ok_iff.mp hcs)]
    exact congrArg _ (by decide +kernel)
  obtain rfl : lower = true := Except.ok.inj (hlower.symm.trans htrue)
  rw [hv, (h hletter).2 rfl]

end Text
end TypedText
