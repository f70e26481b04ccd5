import Mathlib.Data.List.Basic
import TypedText.Proofs.CaseContext
import TypedText.Proofs.Text.Copying

/-!
# TypedText.Proofs.LowerCopy

Lower case on two ways. A copy into a buffer maps one code point after the other and keeps the first code point
of each form; a case mapper maps the whole text, with whatever forms and contexts there are. They part in two
places only. The dotted capital is the one code point whose form has another one behind the first
(`lowerForm_eq_singleton_iff`), and the capital sigma is the one whose form depends on where it stands. On texts
without these two the copy holds just what the mapper gives (`copy_eq_lowercase`).
-/

namespace TypedText

open CodePoint (toInts)

variable {l : Locale} {t : Text} {c : CodePoint}

namespace Unicode

theorem exists_mapped_eq_singleton {shifts : List ShiftRun} {expansions : List (Nat × List Nat)}
    (h : expansions.lookup c.val = none) : ∃ d, mapped shifts expansions c = [d] := by
  rw [mapped, h]
  cases ShiftRun.find? c.val shifts with
  | some n => exact ⟨.ofNat n, rfl⟩
  | none => exact ⟨c, rfl⟩

/-- Of the whole table, only the dotted capital loses something if the first code point of its form is kept
alone. -/
theorem lowerForm_eq_singleton_iff : lowerForm c = [c.toLower] ↔ c ≠ Turkic.dottedCapital := by
  constructor
  · rintro h rfl
    revert h
    decide +kernel
  · intro h
    have hval : c.val ≠ 0x130 := fun hval => h (CodePoint.ext hval)
    have hlookup : lowerExpansions.lookup c.val = none := by simpa [lowerExpansions] using hval
    obtain ⟨d, hd⟩ : ∃ d, lowerForm c = [d] := exists_mapped_eq_singleton hlookup
    rw [CodePoint.toLower, hd]
    rfl

end Unicode

namespace Text

theorem lowerRoot_eq_map (hdotted : Turkic.dottedCapital ∉ t) (hsigma : Unicode.capitalSigma ∉ t) :
    t.lowerRoot = t.map CodePoint.toLower := by
  rw [lowerRoot, Unicode.lowerAfter_eq_flatMap hsigma, List.map_eq_flatMap]
  apply List.flatMap_congr
  intro c hc
  exact Unicode.lowerForm_eq_singleton_iff.mpr fun h => hdotted (h ▸ hc)

end Text

namespace Locale

theorem isTurkic_eq_false (htr : l.language ≠ Text.ofString "tr")
    (haz : l.language ≠ Text.ofString "az") : l.isTurkic = false := by
  rw [isTurkic, beq_eq_false_iff_ne.mpr htr, beq_eq_false_iff_ne.mpr haz]
  rfl

end Locale

/-- **The two ways to lower case agree.** Take a text without unpaired surrogates, dotted capitals and capital
sigmas, and a locale that is neither Turkish nor Azerbaijani. A copy in lower case into any buffer that has a
cell for each code point puts there the code points of the text in lower case, says how many they are, and
leaves the cells behind them as they were. -/
theorem Text.copy_eq_lowercase (ht : t.Paired) (hdotted : Turkic.dottedCapital ∉ t)
    (hsigma : Unicode.capitalSigma ∉ t) (htr : l.language ≠ ofString "tr")
    (haz : l.language ≠ ofString "az") :
    ∃ n r ds, t.codePointCount = .ok n ∧ CaseMapper.unicode.lowercase l t = .ok r ∧
      r.codePoints = .ok ds ∧ ds.length = n ∧
      ∀ cells : List Int, n ≤ cells.length →
        t.copy 0 t.length true cells = ⟨.ok ds.length, toInts ds ++ cells.drop ds.length⟩ := by
  obtain ⟨cs, hcs⟩ := paired_iff_encodes.mp ht
  have hlower : l.cased .lower cs = cs.map CodePoint.toLower := by
    rw [Locale.cased, Locale.isTurkic_eq_false htr haz]
    exact lowerRoot_eq_map (fun h => hdotted (hcs.mem_of_bmp (by decide) h))
      (fun h => hsigma (hcs.mem_of_bmp (by decide) h))
  have hmapped : CaseMapper.unicode.lowercase l t = .ok (cs.map CodePoint.toLower) := by
    rw [← hlower]
    exact CaseMapper.map_encoded .lower l hcs
  have hscalars : ∀ d ∈ cs.map CodePoint.toLower, d.isSurrogate = false := by
    rw [List.forall_mem_map]
    exact fun c hc => CodePoint.isSurrogate_toLower (hcs.isSurrogate_eq_false c hc)
  refine ⟨cs.length, _, _, codePointCount_encoded hcs, hmapped, codePoints_eq_ok_iff.mpr (.self hscalars),
    List.length_map _, fun cells hsize => ?_⟩
  rw [copy_whole hcs hsize, List.length_map]
  rfl

/-- A Deseret capital as a pair, a Kelvin sign and a small final sigma, in Taroko and with a cell to spare. -/
theorem Text.copy_eq_lowercase_pair :
    (Paired [0xD801, 0xDC00, 0x212A, 0x3C2] ∧
      Turkic.dottedCapital ∉ ([0xD801, 0xDC00, 0x212A, 0x3C2] : Text) ∧
      Unicode.capitalSigma ∉ ([0xD801, 0xDC00, 0x212A, 0x3C2] : Text) ∧
      Locale.language (some (ofString "trv_TW")) ≠ ofString "tr" ∧
      Locale.language (some (ofString "trv_TW")) ≠ ofString "az") ∧
    ∃ r ds, CaseMapper.unicode.lowercase (some (ofString "trv_TW")) [0xD801, 0xDC00, 0x212A, 0x3C2] = .ok r ∧
      r.codePoints = .ok ds ∧
      copy [0xD801, 0xDC00, 0x212A, 0x3C2] 0 4 true [7, 7, 7, 7] = ⟨.ok ds.length, toInts ds ++ [7]⟩ := by
  have ht : Paired [0xD801, 0xDC00, 0x212A, 0x3C2] := by decide
  have hdotted : Turkic.dottedCapital ∉ ([0xD801, 0xDC00, 0x212A, 0x3C2] : Text) := by decide
  have hsigma : Unicode.capitalSigma ∉ ([0xD801, 0xDC00, 0x212A, 0x3C2] : Text) := by decide
  have htr : Locale.language (some (ofString "trv_TW")) ≠ ofString "tr" := by decide +kernel
  have haz : Locale.language (some (ofString "trv_TW")) ≠ ofString "az" := by decide +kernel
  obtain ⟨n, r, ds, hcount, hr, hds, hlen, hcopy⟩ := copy_eq_lowercase ht hdotted hsigma htr haz
  obtain rfl : 3 = n := Except.ok.inj hcount
  have hbuffer := hcopy [7, 7, 7, 7] (by decide)
  rw [hlen] at hbuffer
  exact ⟨⟨ht, hdotted, hsigma, htr, haz⟩, r, ds, hr, hds, by rw [hlen]; exact hbuffer⟩

end TypedText
