import Mathlib.Data.List.Sort
import TypedText.Suggestions

/-!
# TypedText.Proofs.Suggestions

Suggestions without repetitions. The texts met so far only grow, and what is kept besides them is what is
kept anyway without those texts (`firstsBesides_eq_filter`); so the first text is kept, and of the others
all that are not the same (`withoutRepeats_cons`). The order of first occurrences follows from this, as
does what becomes of two lists one after the other (`withoutRepeats_by_first`).

* `Suggestions.FirstOccurrences`: the texts of a list, each once, in the order in which they occur first.
-/

namespace TypedText
namespace Suggestions

variable {t : Text} {kept texts : List Text}

/-- Texts kept of a list: no text twice, all texts of the list and no others, and those first that occur
first in the list. -/
structure FirstOccurrences (kept texts : List Text) : Prop where
  nodup : kept.Nodup
  mem_iff : ∀ t, t ∈ kept ↔ t ∈ texts
  order : kept.Pairwise fun s t => texts.idxOf s < texts.idxOf t

/-! ## What is kept -/

/-- By induction on the texts, for all that may have been met before them. -/
theorem firstsBesides_eq_filter (seen texts : List Text) :
    firstsBesides seen texts = (withoutRepeats texts).filter fun t => !seen.contains t := by
  rw [withoutRepeats]
  induction texts generalizing seen with
  | nil => rfl
  | cons t rest ih =>
    have hfirst : firstsBesides [] (t :: rest) = t :: firstsBesides [t] rest := by
      rw [firstsBesides, if_neg (by simp)]
    rw [hfirst, ih [t], firstsBesides]
    split
    · rename_i hseen
      rw [List.filter_cons_of_neg (by simpa using hseen), List.filter_filter, ih]
      refine List.filter_congr fun s _ => ?_
      by_cases hs : s = t
      · subst hs
        simpa using hseen
      · simp [hs]
    · rename_i hnew
      rw [List.filter_cons_of_pos (by simpa using hnew), List.filter_filter, ih]
      refine congrArg (t :: ·) (List.filter_congr fun s _ => ?_)
      simp [Bool.and_comm]

theorem withoutRepeats_cons (t : Text) (rest : List Text) :
    withoutRepeats (t :: rest) = t :: (withoutRepeats rest).filter (· ≠ t) := by
  rw [withoutRepeats, firstsBesides, if_neg (by simp), firstsBesides_eq_filter]
  refine congrArg (t :: ·) (List.filter_congr fun s _ => ?_)
  simp

theorem mem_withoutRepeats : t ∈ withoutRepeats texts ↔ t ∈ texts := by
  induction texts with
  | nil => exact Iff.rfl
  | cons s rest ih =>
    rw [withoutRepeats_cons, List.mem_cons, List.mem_cons, List.mem_filter, ih]
    by_cases h : t = s <;> simp [h]

theorem nodup_withoutRepeats (texts : List Text) : (withoutRepeats texts).Nodup := by
  induction texts with
  | nil => exact List.nodup_nil
  | cons t rest ih =>
    rw [withoutRepeats_cons]
    exact List.nodup_cons.mpr ⟨by simp, ih.filter _⟩

/-- Behind the first text, an index is one more than it was, and the text itself comes first. -/
theorem pairwise_idxOf_withoutRepeats (texts : List Text) :
    (withoutRepeats texts).Pairwise fun s t => texts.idxOf s < texts.idxOf t := by
  induction texts with
  | nil => exact List.Pairwise.nil
  | cons t rest ih =>
    have hbehind : ∀ s ∈ (withoutRepeats rest).filter (· ≠ t),
        (t :: rest).idxOf s = rest.idxOf s + 1 := by
      intro s hs
      have hne : s ≠ t := by simpa using (List.mem_filter.mp hs).2
      exact List.idxOf_cons_ne rest hne.symm
    rw [withoutRepeats_cons]
    refine List.pairwise_cons.mpr ⟨fun s hs => ?_, ?_⟩
    · rw [List.idxOf_cons_self, hbehind s hs]
      exact Nat.succ_pos _
    · refine (ih.filter _).imp_of_mem fun {s u} hs hu hlt => ?_
      rw [hbehind s hs, hbehind u hu]
      exact Nat.succ_lt_succ hlt

theorem firstOccurrences_withoutRepeats (texts : List Text) :
    FirstOccurrences (withoutRepeats texts) texts where
  nodup := nodup_withoutRepeats texts
  mem_iff _ := mem_withoutRepeats
  order := pairwise_idxOf_withoutRepeats texts

/-- What is kept and in which order leaves no choice. -/
theorem FirstOccurrences.eq (h : FirstOccurrences kept texts) : kept = withoutRepeats texts := by
  have : Std.Irrefl fun s t => texts.idxOf s < texts.idxOf t := ⟨fun _ => Nat.lt_irrefl _⟩
  have : Std.Antisymm fun s t => texts.idxOf s < texts.idxOf t :=
    ⟨fun _ _ hlt hgt => absurd hgt (Nat.lt_asymm hlt)⟩
  refine h.order.eq_of_mem_iff (pairwise_idxOf_withoutRepeats texts) fun t => ?_
  rw [h.mem_iff, mem_withoutRepeats]

/-! ## Once more, and one list after another -/

theorem withoutRepeats_of_nodup (h : texts.Nodup) : withoutRepeats texts = texts := by
  induction texts with
  | nil => rfl
  | cons t rest ih =>
    obtain ⟨hnew, hrest⟩ := List.nodup_cons.mp h
    rw [withoutRepeats_cons, ih hrest, List.filter_eq_self.mpr]
    intro s hs
    simpa using fun heq : s = t => hnew (heq ▸ hs)

theorem withoutRepeats_append (texts more : List Text) :
    withoutRepeats (texts ++ more) =
      withoutRepeats texts ++ (withoutRepeats more).filter fun t => t ∉ texts := by
  induction texts with
  | nil =>
    have hnil : withoutRepeats [] = [] := rfl
    simp [hnil]
  | cons t rest ih =>
    have hbesides : ((withoutRepeats more).filter fun s => s ∉ rest).filter (· ≠ t) =
        (withoutRepeats more).filter fun s => s ∉ t :: rest := by
      rw [List.filter_filter]
      refine List.filter_congr fun s _ => ?_
      simp
    rw [List.cons_append, withoutRepeats_cons, ih, withoutRepeats_cons, List.filter_append, hbesides,
      List.cons_append]

/-- **First occurrences.** What is kept of a list is the one list that has no text twice, has the texts of
the list and no others, and has them in the order in which they occur first. From it nothing is dropped
any more; and of two lists one after the other, it keeps what it keeps of the first, and then what it
keeps of the second besides the texts of the first. -/
theorem withoutRepeats_by_first (texts : List Text) :
    (∀ kept, FirstOccurrences kept texts ↔ kept = withoutRepeats texts) ∧
      withoutRepeats (withoutRepeats texts) = withoutRepeats texts ∧
      ∀ more, withoutRepeats (texts ++ more) =
        withoutRepeats texts ++ (withoutRepeats more).filter fun t => t ∉ texts := by
  refine ⟨fun kept => ⟨FirstOccurrences.eq, ?_⟩, ?_, withoutRepeats_append texts⟩
  · rintro rfl
    exact firstOccurrences_withoutRepeats texts
  · exact withoutRepeats_of_nodup (nodup_withoutRepeats texts)

/-- The first occurrences, not the last: these would come the other way round. -/
example : withoutRepeats [[0x62], [0x61], [0x62], [], [0x61]] = [[0x62], [0x61], []] := by
  decide

end Suggestions
end TypedText
