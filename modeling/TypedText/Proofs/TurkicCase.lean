import Mathlib.Data.List.Basic
import TypedText.Proofs.CaseContext

/-!
# TypedText.Proofs.TurkicCase

The case of Turkish and Azerbaijani texts, one code point after the other. In lower case three replacements
run over the whole text before the mapping for no language does. None of them finds anything that another
one has made, and no capital sigma stands in another context for them: what they put in the place of a
cased letter is a cased letter, and the dot that is lost with an `I` is passed over by the context anyway.

* `Unicode.lowerPlaces`: what lower case for no language puts in the place of each code point, by what
  stands to its left and to its right.
* `Turkic.onePass`: the Turkic lower-case form of a text, from left to right.
* `startsCased_replaced`: the replacements leave the context as it was.
* `lowerAfter_replaced`: the mapping behind the replacements is the one pass, by induction along the
  replacement of decomposed dotted capitals.
* `changeCase_turkic`: both cases of a text.
-/

namespace TypedText

namespace Unicode

/-- What lower case puts in the place of `c` between two stretches of a text; the one to its left is
given last code point first. -/
def lowerAt (left : Text) (c : CodePoint) (right : Text) : Text :=
  if c = capitalSigma then
    [if startsCased left && !startsCased right then finalSigma else smallSigma]
  else lowerForm c

/-- The code points of a text behind `left`, each with what lower case puts in its place. -/
def lowerPlaces (left : Text) : Text → List (CodePoint × Text)
  | [] => []
  | c :: right => (c, lowerAt left c right) :: lowerPlaces (c :: left) right

theorem map_fst_lowerPlaces (left t : Text) : (lowerPlaces left t).map Prod.fst = t := by
  induction t generalizing left with
  | nil => rfl
  | cons c right ih => rw [lowerPlaces, List.map_cons, ih]

theorem lowerAfter_eq_places (left t : Text) :
    lowerAfter (startsCased left) t = (lowerPlaces left t).flatMap Prod.snd := by
  induction t generalizing left with
  | nil => rfl
  | cons c right ih =>
    rw [lowerPlaces, List.flatMap_cons, ← ih]
    rfl

end Unicode

namespace Turkic

open Unicode

def replaceAll (old new : CodePoint) (t : Text) : Text :=
  t.map fun c => if c = old then new else c

def lowerPlace (c : CodePoint) (place : Text) : Text :=
  if c = 0x49 then [dotlessSmall]
  else if c = dottedCapital then [0x69]
  else place

/-- The Turkic lower-case form, given the code points with what stands in their places for no language. -/
def onePass : List (CodePoint × Text) → Text
  | (c, p) :: (d, q) :: rest =>
    if c = 0x49 ∧ d = 0x307 then 0x69 :: onePass rest
    else lowerPlace c p ++ onePass ((d, q) :: rest)
  | [(c, p)] => lowerPlace c p
  | [] => []

variable {c d : CodePoint} {left right t : Text}

theorem lowerCapitals_eq_replaceAll (t : Text) :
    lowerCapitals t = replaceAll 0x49 dotlessSmall (replaceAll dottedCapital 0x69 t) := by
  unfold lowerCapitals replaceAll
  rw [List.map_map]
  apply List.map_congr_left
  intro c _
  have hsmall : (0x69 : CodePoint) ≠ 0x49 := by decide
  have hval : c.val = 0x49 ↔ c = 0x49 := (@CodePoint.ext_iff c 0x49).symm
  by_cases hdotted : c = dottedCapital <;> simp [hdotted, hsmall, hval]

theorem lowerCapitals_cons (c : CodePoint) (t : Text) :
    lowerCapitals (c :: t) =
      (if c = dottedCapital then 0x69 else if c.val = 0x49 then dotlessSmall else c) ::
        lowerCapitals t :=
  rfl

theorem lowerCapitals_small (t : Text) : lowerCapitals (0x69 :: t) = 0x69 :: lowerCapitals t :=
  rfl

theorem startsCased_letter (hc : c ∈ ([0x49, 0x69, dottedCapital, dotlessSmall] : Text)) (t : Text) :
    startsCased (c :: t) = true := by
  have hletters : ∀ c ∈ ([0x49, 0x69, dottedCapital, dotlessSmall] : Text),
      isCaseIgnorable c = false ∧ isCased c = true := by
    decide
  simp [startsCased, hletters c hc]

theorem startsCased_dot (t : Text) : startsCased (0x307 :: t) = startsCased t := by
  have hdot : isCaseIgnorable 0x307 = true := by decide
  simp [startsCased, hdot]

theorem startsCased_lowerCapitals_cons (h : startsCased (lowerCapitals t) = startsCased right) :
    startsCased (lowerCapitals (c :: t)) = startsCased (c :: right) := by
  rw [lowerCapitals_cons]
  split
  · rename_i hdotted
    rw [startsCased_letter (by simp), hdotted, startsCased_letter (by simp)]
  · split
    · rename_i hcapital
      obtain rfl : c = 0x49 := CodePoint.ext hcapital
      rw [startsCased_letter (by simp), startsCased_letter (by simp)]
    · simp only [startsCased, h]

theorem startsCased_replaced (t : Text) :
    startsCased (lowerCapitals (composeDots t)) = startsCased t := by
  fun_induction composeDots t with
  | case1 c d rest hdot ih =>
    obtain rfl : c = 0x49 := CodePoint.ext hdot.1
    rw [lowerCapitals_small, startsCased_letter (by simp), startsCased_letter (by simp)]
  | case2 c d rest hdot ih => exact startsCased_lowerCapitals_cons ih
  | case3 t hshort =>
    cases t with
    | nil => rfl
    | cons c rest =>
      cases rest with
      | nil => exact startsCased_lowerCapitals_cons rfl
      | cons d rest => exact absurd rfl (hshort c d rest)

/-- A letter that a replacement gives is mapped to itself, and what is left of the text follows a cased
letter. -/
theorem lowerAfter_letter (hc : c ∈ ([0x69, dotlessSmall] : Text)) (before : Bool) (t : Text) :
    lowerAfter before (c :: t) = c :: lowerAfter true t := by
  have hforms : ∀ c ∈ ([0x69, dotlessSmall] : Text),
      c ≠ capitalSigma ∧ lowerForm c = [c] ∧ isCaseIgnorable c = false ∧ isCased c = true := by
    decide
  obtain ⟨hsigma, hform, hignorable, hcased⟩ := hforms c hc
  simp [lowerAfter, endsCased, hsigma, hform, hignorable, hcased]

/-- One code point that no dot is composed with, where the context to its right is as it was. -/
theorem lowerAfter_lowerCapitals_cons (h : startsCased (lowerCapitals t) = startsCased right) :
    lowerAfter (startsCased left) (lowerCapitals (c :: t)) =
      lowerPlace c (lowerAt left c right) ++
        lowerAfter (startsCased (c :: left)) (lowerCapitals t) := by
  rw [lowerCapitals_cons]
  by_cases hdotted : c = dottedCapital
  · have hplace : lowerPlace c (lowerAt left c right) = [0x69] := by
      rw [hdotted]
      rfl
    rw [if_pos hdotted, hplace, lowerAfter_letter (by simp), hdotted, startsCased_letter (by simp)]
    rfl
  · rw [if_neg hdotted]
    by_cases hcapital : c.val = 0x49
    · obtain rfl : c = 0x49 := CodePoint.ext hcapital
      have hplace : lowerPlace 0x49 (lowerAt left 0x49 right) = [dotlessSmall] := rfl
      rw [if_pos hcapital, hplace, lowerAfter_letter (by simp), startsCased_letter (by simp)]
      rfl
    · have hne : c ≠ 0x49 := fun heq => hcapital (congrArg CodePoint.val heq)
      have hplace : lowerPlace c (lowerAt left c right) = lowerAt left c right := by
        simp [lowerPlace, hne, hdotted]
      rw [if_neg hcapital, hplace, lowerAfter, h]
      rfl

theorem lowerAfter_replaced (left t : Text) :
    lowerAfter (startsCased left) (lowerCapitals (composeDots t)) = onePass (lowerPlaces left t) := by
  fun_induction composeDots t generalizing left with
  | case1 c d rest hdot ih =>
    obtain ⟨rfl, rfl⟩ : c = 0x49 ∧ d = 0x307 := ⟨CodePoint.ext hdot.1, CodePoint.ext hdot.2⟩
    have hcased : startsCased (0x307 :: 0x49 :: left) = true := by
      rw [startsCased_dot, startsCased_letter (by simp)]
    rw [lowerCapitals_small, lowerAfter_letter (by simp), ← hcased, ih]
    rfl
  | case2 c d rest hdot ih =>
    have hpair : ¬ (c = 0x49 ∧ d = 0x307) := by
      rintro ⟨rfl, rfl⟩
      exact hdot ⟨rfl, rfl⟩
    rw [lowerAfter_lowerCapitals_cons (startsCased_replaced (d :: rest)), ih]
    simp only [lowerPlaces, onePass, if_neg hpair]
  | case3 t hshort =>
    cases t with
    | nil => rfl
    | cons c rest =>
      cases rest with
      | nil =>
        have hend : startsCased (lowerCapitals []) = startsCased [] := rfl
        rw [lowerAfter_lowerCapitals_cons hend]
        exact List.append_nil _
      | cons d rest => exact absurd rfl (hshort c d rest)

theorem upperRoot_dotCapitals (t : Text) :
    (dotCapitals t).upperRoot =
      t.flatMap fun c => if c = 0x69 then [dottedCapital] else upperForm c := by
  have hdotted : upperForm dottedCapital = [dottedCapital] := by decide
  rw [dotCapitals, Text.upperRoot, List.flatMap_map]
  apply List.flatMap_congr
  intro c _
  by_cases hsmall : c.val = 0x69
  · rw [if_pos hsmall, if_pos (CodePoint.ext hsmall), hdotted]
  · have hne : c ≠ 0x69 := fun heq => hsmall (congrArg CodePoint.val heq)
    rw [if_neg hsmall, if_neg hne]

end Turkic

namespace Text

open Unicode Turkic

/-- **The Turkic cases take one pass.** In lower case the text is read from left to right: an `I` with a
dot behind it is `i`, and the dot goes with it; any other `I` loses its dot, `İ` is `i`, and all else is
what lower case for no language puts in its place. In upper case `i` keeps its dot, and all else is what
it is for no language, each code point on its own. -/
theorem changeCase_turkic {l : Locale} {t : Text} (ht : t.Paired) (hl : l.isTurkic = true) :
    ∃ n r, t.joinPairs = .ok n ∧
      ((lowerPlaces [] n).map Prod.fst = n ∧
        CaseMapper.unicode.lowercase none n = .ok ((lowerPlaces [] n).flatMap Prod.snd)) ∧
      (CaseMapper.unicode.lowercase l t = .ok r ∧
        r = lowerRoot (replaceAll 0x49 dotlessSmall (replaceAll dottedCapital 0x69 (composeDots n))) ∧
        r = onePass (lowerPlaces [] n)) ∧
      CaseMapper.unicode.uppercase none n = .ok (n.flatMap upperForm) ∧
      CaseMapper.unicode.uppercase l t =
        .ok (n.flatMap fun c => if c = 0x69 then [dottedCapital] else upperForm c) := by
  obtain ⟨cs, hcs⟩ := paired_iff_encodes.mp ht
  have hself : Encodes cs cs := .self hcs.isSurrogate_eq_false
  have hroot : Locale.isTurkic none = false := by decide
  have hlower : l.cased .lower cs = lowerRoot (lowerCapitals (composeDots cs)) := by
    rw [Locale.cased, if_pos hl]
  refine ⟨cs, _, codePoints_eq_ok_iff.mpr hcs, ⟨map_fst_lowerPlaces [] cs, ?_⟩,
    ⟨CaseMapper.map_encoded .lower l hcs, ?_, ?_⟩, ?_, ?_⟩
  · have hmap := CaseMapper.map_encoded .lower none hself
    rw [Locale.cased, hroot] at hmap
    rw [← lowerAfter_eq_places]
    exact hmap
  · rw [hlower, lowerCapitals_eq_replaceAll]
  · rw [hlower]
    exact lowerAfter_replaced [] cs
  · have hmap := CaseMapper.map_encoded .upper none hself
    rw [Locale.cased, hroot] at hmap
    exact hmap
  · have hmap := CaseMapper.map_encoded .upper l hcs
    rw [Locale.cased, if_pos hl, upperRoot_dotCapitals] at hmap
    exact hmap

/-- A capital sigma between a decomposed and a composed dotted capital, a pair, and one that is final
behind an `I`; in Azerbaijani. -/
theorem changeCase_turkic_sigma :
    (Paired [0x49, 0x307, 0x3A3, 0x130, 0xD801, 0xDC00, 0x20, 0x49, 0x3A3] ∧
      Locale.isTurkic (some (ofString "az-Latn")) = true) ∧
    ∃ n r, joinPairs [0x49, 0x307, 0x3A3, 0x130, 0xD801, 0xDC00, 0x20, 0x49, 0x3A3] = .ok n ∧
      ((lowerPlaces [] n).map Prod.fst = n ∧
        CaseMapper.unicode.lowercase none n = .ok ((lowerPlaces [] n).flatMap Prod.snd)) ∧
      (CaseMapper.unicode.lowercase (some (ofString "az-Latn"))
          [0x49, 0x307, 0x3A3, 0x130, 0xD801, 0xDC00, 0x20, 0x49, 0x3A3] = .ok r ∧
        r = lowerRoot (replaceAll 0x49 dotlessSmall (replaceAll dottedCapital 0x69 (composeDots n))) ∧
        r = onePass (lowerPlaces [] n)) ∧
      CaseMapper.unicode.uppercase none n = .ok (n.flatMap upperForm) ∧
      CaseMapper.unicode.uppercase (some (ofString "az-Latn"))
          [0x49, 0x307, 0x3A3, 0x130, 0xD801, 0xDC00, 0x20, 0x49, 0x3A3] =
        .ok (n.flatMap fun c => if c = 0x69 then [dottedCapital] else upperForm c) :=
  have hpaired : Paired [0x49, 0x307, 0x3A3, 0x130, 0xD801, 0xDC00, 0x20, 0x49, 0x3A3] := by decide
  have hturkic : Locale.isTurkic (some (ofString "az-Latn")) = true := by decide +kernel
  ⟨⟨hpaired, hturkic⟩, changeCase_turkic hpaired hturkic⟩

end Text
end TypedText
