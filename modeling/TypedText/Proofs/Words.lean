import TypedText.Proofs.CaseContext
import TypedText.Proofs.Representation
import TypedText.Proofs.Separators

/-!
# TypedText.Proofs.Words

Words, as separators cut them out of a text, and what capitalizing each of them has to do with
capitalizing the whole text.

* `Text.words`: the text cut behind every separator, a pair being one code point.
* `CutWords`: that words are cut behind every separator and nowhere else.
* `capitalizeEachWord_words`: where no code point is lowered by its context, capitalizing each word is
  capitalizing the words one by one.
-/

namespace TypedText

namespace Text

/-- Puts units before some words: as a word of their own if they end one, otherwise as the start of the
first word. -/
def attach (us : Text) (ends : Bool) : List Text → List Text
  | [] => [us]
  | w :: ws => if ends then us :: w :: ws else (us ++ w) :: ws

/-- The text cut behind every code point that is a separator; an unpaired surrogate is taken as it
is. -/
def words (separators : Separators) : Text → List Text
  | [] => []
  | [u] => [[u]]
  | u :: v :: rest =>
    match CodePoint.join? u v with
    | some c => attach [u, v] (decide ((c.val : Int) ∈ separators)) (words separators rest)
    | none => attach [u] (decide ((u.val : Int) ∈ separators)) (words separators (v :: rest))

variable {separators : Separators} {us t : Text} {c : CodePoint}

theorem flatten_attach (us : Text) (ends : Bool) (ws : List Text) :
    (attach us ends ws).flatten = us ++ ws.flatten := by
  cases ws with
  | nil => rfl
  | cons w ws => cases ends <;> simp [attach]

theorem words_stored (h : Stores us c) (t : Text) :
    words separators (us ++ t) =
      attach us (decide ((c.val : Int) ∈ separators)) (words separators t) := by
  cases h with
  | unit hc =>
    cases t with
    | nil => rfl
    | cons v rest =>
      have hjoin : CodePoint.join? c v = none := by
        refine Option.eq_none_iff_forall_ne_some.mpr fun d hd => ?_
        obtain ⟨-, rfl, -⟩ := CodePoint.join?_eq_some_iff.mp hd
        rw [CodePoint.isSurrogate_high] at hc
        cases hc
      simp only [List.cons_append, List.nil_append, words, hjoin]
  | pair hc =>
    have hjoin := CodePoint.join?_eq_some_iff.mpr ⟨hc, rfl, rfl⟩
    simp only [List.cons_append, List.nil_append, words, hjoin]

end Text

/-- Words that are cut behind every separator and nowhere else: no word holds a separator before its
last code point, and each word but the last one ends with a separator. -/
inductive CutWords (separators : Separators) : List Text → Prop where
  | nil : CutWords separators []
  | last {w : Text} {cs : List CodePoint} {c : CodePoint} :
      Encodes w (cs ++ [c]) → (∀ d ∈ cs, (d.val : Int) ∉ separators) → CutWords separators [w]
  | cons {w : Text} {ws : List Text} {cs : List CodePoint} {c : CodePoint} :
      Encodes w (cs ++ [c]) → (∀ d ∈ cs, (d.val : Int) ∉ separators) →
      (c.val : Int) ∈ separators → CutWords separators ws → CutWords separators (w :: ws)

namespace CutWords

variable {l : Locale} {separators : Separators} {us t : Text} {ws : List Text} {c : CodePoint}
  {cs : List CodePoint}

theorem attach (hu : Stores us c) (h : CutWords separators ws) :
    CutWords separators (Text.attach us (decide ((c.val : Int) ∈ separators)) ws) := by
  have hone : Encodes us ([] ++ [c]) := .one hu
  by_cases hc : (c.val : Int) ∈ separators
  · cases h with
    | nil => exact .last hone (by simp)
    | last hw hcs => simpa [Text.attach, hc] using .cons hone (by simp) hc (.last hw hcs)
    | cons hw hcs hd hws => simpa [Text.attach, hc] using .cons hone (by simp) hc (.cons hw hcs hd hws)
  · cases h with
    | nil => exact .last hone (by simp)
    | last hw hcs =>
      simpa [Text.attach, hc] using .last (.cons hu hw) (List.forall_mem_cons.mpr ⟨hc, hcs⟩)
    | cons hw hcs hd hws =>
      simpa [Text.attach, hc] using
        .cons (.cons hu hw) (List.forall_mem_cons.mpr ⟨hc, hcs⟩) hd hws

end CutWords

theorem Text.words_encoded (separators : Separators) {t : Text} {cs : List CodePoint}
    (h : Encodes t cs) :
    CutWords separators (t.words separators) ∧ (t.words separators).flatten = t := by
  induction h with
  | nil => exact ⟨.nil, rfl⟩
  | cons hu _ ih =>
    rw [words_stored hu, flatten_attach, ih.2]
    exact ⟨.attach hu ih.1, rfl⟩

namespace Locale

variable {l : Locale} {separators : Separators} {c : CodePoint} {cs rest : List CodePoint}

theorem eachWord_inside (hcs : ∀ d ∈ cs, separators.contains d.val = false) :
    l.eachWord separators false (cs ++ c :: rest) =
      (cs ++ [c]).flatMap (fun d => l.cased .lower [d]) ++
        l.eachWord separators (separators.contains c.val) rest := by
  induction cs with
  | nil => simp [eachWord]
  | cons d ds ih =>
    rw [List.forall_mem_cons] at hcs
    simp only [List.cons_append, eachWord, hcs.1, ih hcs.2, List.flatMap_cons, List.append_assoc]
    rfl

theorem eachWord_word (hcs : ∀ d ∈ cs, separators.contains d.val = false)
    (hfree : l.ContextFree (cs ++ [c])) :
    l.eachWord separators true (cs ++ c :: rest) =
      l.firstUpper (l.cased .lower) (cs ++ [c]) ++
        l.eachWord separators (separators.contains c.val) rest := by
  cases cs with
  | nil => simp [eachWord, firstUpper, cased_nil]
  | cons d ds =>
    rw [List.forall_mem_cons] at hcs
    have htail := hfree.part (List.suffix_cons d (ds ++ [c])).isInfix
    simp only [List.cons_append, eachWord, firstUpper, hcs.1, eachWord_inside hcs.2,
      cased_lower_eq_flatMap htail, List.append_assoc, if_true]

end Locale

/-- Capitalizing words one by one, by induction on the cut, gives what the walk over all their code
points gives. -/
theorem CutWords.capitalize {l : Locale} {separators : Separators} {ws : List Text}
    (hsorted : separators.Ascending) (h : CutWords separators ws) :
    ∀ {cs : List CodePoint}, Encodes ws.flatten cs → l.ContextFree cs →
      ∃ rs : List Text, ws.map (Text.capitalizeFirstLowerRest · l) = rs.map .ok ∧
        rs.flatten = l.eachWord separators true cs := by
  induction h with
  | nil =>
    intro cs hcs _
    exact ⟨[], rfl, by rw [hcs.unique .nil]; rfl⟩
  | @last w ds c hw hds =>
    intro cs hcs hfree
    have hw' : Encodes [w].flatten (ds ++ [c]) := by simpa using hw
    rw [hcs.unique hw'] at hfree ⊢
    refine ⟨[_], by simp [Text.capitalizeFirstLowerRest_encoded hw]; rfl, ?_⟩
    have houtside := fun d hd => Separators.contains_eq_false (hds d hd)
    rw [Locale.eachWord_word houtside hfree]
    simp [Locale.eachWord]
  | @cons w ws ds c hw hds hc hws ih =>
    intro cs hcs hfree
    obtain ⟨es, rfl, hes⟩ := hw.of_append hcs
    obtain ⟨rs, hrs, hflat⟩ := ih hes (hfree.part (List.suffix_append _ es).isInfix)
    refine ⟨l.firstUpper (l.cased .lower) (ds ++ [c]) :: rs, ?_, ?_⟩
    · simp only [List.map_cons, Text.capitalizeFirstLowerRest_encoded hw, hrs]
    · have hword := hfree.part (List.prefix_append (ds ++ [c]) es).isInfix
      have hend : separators.contains c.val = true := (Separators.contains_iff_mem hsorted).mpr hc
      have houtside := fun d hd => Separators.contains_eq_false (hds d hd)
      rw [List.append_assoc, List.singleton_append, Locale.eachWord_word houtside hword, hend,
        List.flatten_cons, hflat]

/-- **Each word on its own.** The words of a text are cut behind every separator, and put together
they are the text. Capitalizing each word of the text puts together what capitalizing the first code
point of each of them, with the rest in lower case, gives, if no code point is lowered by its context.
-/
theorem Text.capitalizeEachWord_words {l : Locale} {separators : Separators} {t : Text}
    (ht : t.Paired) (hsorted : separators.Ascending) :
    (CutWords separators (t.words separators) ∧ (t.words separators).flatten = t) ∧
      (Unicode.capitalSigma ∉ t → (l.isTurkic → ¬ [0x49, 0x307] <:+: t) →
        ∃ rs : List Text, (t.words separators).map (capitalizeFirstLowerRest · l) = rs.map .ok ∧
          t.capitalizeEachWord separators l = .ok rs.flatten) := by
  obtain ⟨cs, hcs⟩ := paired_iff_encodes.mp ht
  obtain ⟨hcut, hflat⟩ := words_encoded separators hcs
  refine ⟨⟨hcut, hflat⟩, fun hsigma hdot => ?_⟩
  have hfree : l.ContextFree cs :=
    ⟨fun hmem => hsigma (hcs.mem_of_bmp (by decide) hmem),
      fun hl hin => hdot hl (hcs.infix_of_bmp (by decide) hin)⟩
  rw [← hflat] at hcs
  obtain ⟨rs, hrs, hrs'⟩ := hcut.capitalize hsorted hcs hfree
  rw [hflat] at hcs
  exact ⟨rs, hrs, by rw [hrs']; exact run_planEachWord hcs⟩

/-- Two words in Turkish, the second one of a pair and a final `I`. -/
theorem Text.capitalizeEachWord_words_turkic :
    (Paired [0x49, 0x49, 0x20, 0xD801, 0xDC00, 0x49] ∧ Separators.Ascending [0x20] ∧
      Unicode.capitalSigma ∉ ([0x49, 0x49, 0x20, 0xD801, 0xDC00, 0x49] : Text) ∧
      ¬ [0x49, 0x307] <:+: ([0x49, 0x49, 0x20, 0xD801, 0xDC00, 0x49] : Text)) ∧
    (CutWords [0x20] (words [0x20] [0x49, 0x49, 0x20, 0xD801, 0xDC00, 0x49]) ∧
      (words [0x20] [0x49, 0x49, 0x20, 0xD801, 0xDC00, 0x49]).flatten =
        [0x49, 0x49, 0x20, 0xD801, 0xDC00, 0x49]) ∧
    ∃ rs : List Text,
      (words [0x20] [0x49, 0x49, 0x20, 0xD801, 0xDC00, 0x49]).map
          (capitalizeFirstLowerRest · (some (ofString "tr"))) = rs.map .ok ∧
        capitalizeEachWord [0x49, 0x49, 0x20, 0xD801, 0xDC00, 0x49] [0x20]
          (some (ofString "tr")) = .ok rs.flatten :=
  ⟨⟨by decide, by decide, by decide, by decide⟩,
    (capitalizeEachWord_words (l := some (ofString "tr")) (by decide) (by decide)).1,
    (capitalizeEachWord_words (by decide) (by decide)).2 (by decide) (fun _ => by decide)⟩

end TypedText
