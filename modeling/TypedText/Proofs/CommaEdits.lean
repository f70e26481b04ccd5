import Mathlib.Data.List.Forall2
import Mathlib.Data.List.Nodup
import TypedText.Proofs.CommaValues

/-!
# TypedText.Proofs.CommaEdits

A kept comma list does what a list of its values does. An edit of the one stands for an edit of the other
(`Realizes`), and after any edits the text is still the values joined by commas (`keeps_applyAll`).

* `Keeps`: the text is the values of a list joined by commas; this is what every edit restores
  (`keeps_apply`).
* `Edit.onValues`: what an edit does to a list of values.
* `applyAll_realizes`: any run of edits, from no text at all.
-/

namespace TypedText
namespace CommaList

/-- The kept text is the values joined by commas. -/
structure Keeps (l : CommaList) (xs : List Text) : Prop where
  proper : ∀ x ∈ xs, IsValue x
  text : l.getD [] = Text.intercalate [comma] xs

namespace Edit

def onValues (xs : List Text) : Edit (List Text) → List Text
  | append x => if x ∈ xs then xs else xs ++ [x]
  | remove x => xs.filter (· ≠ x)
  | join tail => xs ++ tail
  | prejoin head => head ++ xs

def onValuesAll (xs : List Text) (edits : List (Edit (List Text))) : List Text :=
  edits.foldl onValues xs

/-- Another list is joined on, at either end. -/
def joins {α : Type} : Edit α → Bool
  | append _ => false
  | remove _ => false
  | join _ => true
  | prejoin _ => true

/-- The edit of a kept list stands for the edit of a list of values: it adds or removes the same value, or
joins a kept list for the values that this one keeps. -/
inductive Realizes : Edit CommaList → Edit (List Text) → Prop where
  | append {x : Text} : IsValue x → Realizes (.append x) (.append x)
  | remove {x : Text} : IsValue x → Realizes (.remove x) (.remove x)
  | join {tail : CommaList} {ys : List Text} : Keeps tail ys → Realizes (.join tail) (.join ys)
  | prejoin {head : CommaList} {ys : List Text} :
      Keeps head ys → Realizes (.prejoin head) (.prejoin ys)

end Edit

variable {l head tail : CommaList} {x v : Text} {xs ys : List Text}

theorem keeps_nil : Keeps none [] where
  proper := by simp
  text := rfl

theorem ne_singleton_nil (h : ∀ x ∈ xs, IsValue x) : xs ≠ [[]] := by
  rintro rfl
  exact (h [] List.mem_cons_self).1 rfl

theorem Keeps.parts (h : Keeps l xs) : l.parts = xs := by
  rw [← parts_some_getD, h.text]
  exact parts_intercalate (fun x hx => (h.proper x hx).2) (ne_singleton_nil h.proper)

theorem keeps_of_parts (hproper : ∀ x ∈ xs, IsValue x) (h : l.parts = xs) : Keeps l xs where
  proper := hproper
  text := by rw [← h, intercalate_parts]

theorem Keeps.values (h : Keeps l xs) : l.values = xs := by
  rw [values_eq, h.parts, List.rdropWhile_eq_self_iff]
  -- no part is empty, so none is dropped at the end
  intro hne
  have hlast := (h.proper _ (List.getLast_mem hne)).1
  simpa using hlast

theorem Keeps.contains_iff (h : Keeps l xs) : l.contains v = true ↔ v ∈ xs := by
  rw [CommaList.contains_iff, h.values]

theorem Keeps.append (h : Keeps l xs) (hx : IsValue x) :
    Keeps (some (l.append x)) (if x ∈ xs then xs else xs ++ [x]) := by
  apply keeps_of_parts
  · intro y hy
    split at hy
    · exact h.proper y hy
    · rcases List.mem_append.mp hy with hy | hy
      · exact h.proper y hy
      · exact List.mem_singleton.mp hy ▸ hx
  · rw [parts_append hx, h.parts]

theorem Keeps.remove (h : Keeps l xs) (x : Text) :
    Keeps (some (l.remove x)) (xs.filter (· ≠ x)) where
  proper y hy := h.proper y (List.mem_of_mem_filter hy)
  text := by
    rw [Option.getD_some, CommaList.remove]
    split
    · rw [h.values]
    · rename_i hout
      rw [h.text, ← h.values, filter_values hout]

theorem Keeps.join (hhead : Keeps head xs) (htail : Keeps tail ys) :
    Keeps (some (CommaList.join head tail)) (xs ++ ys) := by
  apply keeps_of_parts
  · intro x hx
    rcases List.mem_append.mp hx with hx | hx
    · exact hhead.proper x hx
    · exact htail.proper x hx
  · rw [parts_join, hhead.parts, htail.parts]

namespace Edit

variable {e : Edit CommaList} {e' : Edit (List Text)} {edits : List (Edit CommaList)}
  {edits' : List (Edit (List Text))}

theorem keeps_apply (h : Keeps l xs) (he : Realizes e e') : Keeps (e.apply l) (e'.onValues xs) := by
  cases he with
  | append hx => exact h.append hx
  | remove hx => exact h.remove _
  | join htail => exact h.join htail
  | prejoin hhead => exact hhead.join h

theorem keeps_applyAll (he : List.Forall₂ Realizes edits edits') :
    ∀ {l : CommaList} {xs : List Text}, Keeps l xs →
      Keeps (applyAll l edits) (onValuesAll xs edits') := by
  induction he with
  | nil => intro l xs h; exact h
  | cons hstep _ ih => intro l xs h; exact ih (keeps_apply h hstep)

theorem nodup_onValues (hxs : xs.Nodup) (he : Realizes e e') (hjoins : e.joins = false) :
    (e'.onValues xs).Nodup := by
  cases he with
  | @append x _ =>
    rw [onValues]
    split
    · exact hxs
    · rename_i hout
      rw [← List.concat_eq_append]
      exact List.Nodup.concat hout hxs
  | remove _ => exact hxs.filter _
  | join _ => cases hjoins
  | prejoin _ => cases hjoins

theorem nodup_onValuesAll (he : List.Forall₂ Realizes edits edits') :
    ∀ {xs : List Text}, xs.Nodup → (∀ e ∈ edits, e.joins = false) →
      (onValuesAll xs edits').Nodup := by
  induction he with
  | nil => intro xs hxs _; exact hxs
  | cons hstep _ ih =>
    intro xs hxs hjoins
    rw [List.forall_mem_cons] at hjoins
    exact ih (nodup_onValues hxs hstep hjoins.1) hjoins.2

/-- **A comma list refines a list.** Start without a text and make any edits, each with values and kept
lists in it. The text `l` they lead to is the values joined by commas that the same edits of a list lead
to, and it holds exactly these values. If nothing is joined on, no value occurs twice. -/
theorem applyAll_realizes (he : List.Forall₂ Realizes edits edits') (hl : applyAll none edits = l)
    (hxs : onValuesAll [] edits' = xs) :
    Keeps l xs ∧ (∀ v, l.contains v = true ↔ v ∈ xs) ∧
      ((∀ e ∈ edits, e.joins = false) → xs.Nodup) := by
  have hkeeps : Keeps l xs := by
    rw [← hl, ← hxs]
    exact keeps_applyAll he keeps_nil
  refine ⟨hkeeps, fun v => hkeeps.contains_iff, fun hjoins => ?_⟩
  rw [← hxs]
  exact nodup_onValuesAll he List.nodup_nil hjoins

/-- `a`, `b` and `a` again, then `c,a` joined on behind and nothing before, then every `a` removed; and a
run that joins nothing. -/
theorem applyAll_realizes_joined :
    (List.Forall₂ Realizes
        [.append [0x61], .append [0x62], .append [0x61], .join (some [0x63, comma, 0x61]),
          .prejoin (some []), .remove [0x61]]
        [.append [0x61], .append [0x62], .append [0x61], .join [[0x63], [0x61]], .prejoin [],
          .remove [0x61]] ∧
      Keeps (some [0x62, comma, 0x63]) [[0x62], [0x63]] ∧
      ∀ v, contains (some [0x62, comma, 0x63]) v = true ↔ v ∈ ([[0x62], [0x63]] : List Text)) ∧
    (∀ e ∈ [Edit.append [0x61], .append [0x62], .remove [0x61], .append [0x62]],
        Edit.joins (α := CommaList) e = false) ∧
      List.Nodup ([[0x62]] : List Text) :=
  have hab : IsValue [0x61] ∧ IsValue [0x62] := by decide
  have htail : Keeps (some [0x63, comma, 0x61]) [[0x63], [0x61]] := ⟨by decide, rfl⟩
  have hhead : Keeps (some []) [] := ⟨by decide, rfl⟩
  have hjoined : List.Forall₂ Realizes
      [.append [0x61], .append [0x62], .append [0x61], .join (some [0x63, comma, 0x61]),
        .prejoin (some []), .remove [0x61]]
      [.append [0x61], .append [0x62], .append [0x61], .join [[0x63], [0x61]], .prejoin [],
        .remove [0x61]] :=
    .cons (.append hab.1) <| .cons (.append hab.2) <| .cons (.append hab.1) <| .cons (.join htail) <|
      .cons (.prejoin hhead) <| .cons (.remove hab.1) .nil
  have hplain : List.Forall₂ Realizes
      [.append [0x61], .append [0x62], .remove [0x61], .append [0x62]]
      [.append [0x61], .append [0x62], .remove [0x61], .append [0x62]] :=
    .cons (.append hab.1) <| .cons (.append hab.2) <| .cons (.remove hab.1) <|
      .cons (.append hab.2) .nil
  have hjoins : ∀ e ∈ [Edit.append [0x61], .append [0x62], .remove [0x61], .append [0x62]],
      Edit.joins (α := CommaList) e = false := by
    decide
  have hkeeps : Keeps (some [0x62, comma, 0x63]) [[0x62], [0x63]] ∧ _ :=
    applyAll_realizes hjoined (by decide) (by decide)
  ⟨⟨hjoined, hkeeps.1, hkeeps.2.1⟩, hjoins, (applyAll_realizes hplain rfl (by decide)).2.2 hjoins⟩

end Edit
end CommaList
end TypedText
