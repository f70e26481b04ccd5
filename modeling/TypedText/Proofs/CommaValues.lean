import Mathlib.Data.List.DropRight
import TypedText.CommaList

/-!
# TypedText.Proofs.CommaValues

What a kept comma list holds after a change. The text is cut into parts between its commas, and the
values are the parts without the empty ones at the end, so an empty part is a value only while another
value stands behind it.

* `Text.splitOn_eq`, `Text.intercalate_eq`: cutting and joining are the list operations of these names.
* `parts_join`, `parts_append`, `values_remove`: the parts, or the values, after each change.
* `nil_mem_values_iff`: which parts make the empty text a value.
* `contains_change`: what is held after each change, the empty text included.
-/

namespace TypedText

namespace Text

theorem splitOn_eq (separator : CodePoint) (t : Text) :
    splitOn separator t = List.splitOn separator t := by
  induction t with
  | nil => rfl
  | cons c rest ih =>
    rw [splitOn, ih, List.splitOn_cons_eq_if_modifyHead]
    by_cases hc : c = separator
    · simp [hc]
    · simp only [hc, beq_iff_eq, if_false]
      cases h : List.splitOn separator rest with
      | nil => exact absurd h (List.splitOn_ne_nil separator rest)
      | cons part parts => rfl

theorem intercalate_eq (separator : Text) (parts : List Text) :
    intercalate separator parts = List.intercalate separator parts := by
  induction parts with
  | nil => rfl
  | cons part rest ih =>
    cases rest with
    | nil => simp [intercalate]
    | cons next rest => rw [intercalate, ih, List.intercalate_cons_cons]; simp

theorem intercalate_concat {separator : Text} {front : List Text} (hne : front ≠ []) (part : Text) :
    intercalate separator (front ++ [part]) = intercalate separator front ++ separator ++ part := by
  induction front with
  | nil => exact absurd rfl hne
  | cons first rest ih =>
    cases rest with
    | nil => rfl
    | cons next rest =>
      have hrest := ih (by simp)
      simp only [List.cons_append] at hrest
      simp only [List.cons_append, intercalate, hrest, List.append_assoc]

theorem not_mem_of_mem_splitOn {separator : CodePoint} {t part : Text}
    (h : part ∈ splitOn separator t) : separator ∉ part := by
  rw [splitOn_eq] at h
  induction t generalizing part with
  | nil => simp_all
  | cons c rest ih =>
    rw [List.splitOn_cons_eq_if_modifyHead] at h
    by_cases hc : c = separator
    · simp only [hc, beq_self_eq_true, if_true, List.mem_cons] at h
      rcases h with rfl | h
      · exact List.not_mem_nil
      · exact ih h
    · simp only [hc, beq_iff_eq, if_false] at h
      cases hrest : List.splitOn separator rest with
      | nil => exact absurd hrest (List.splitOn_ne_nil separator rest)
      | cons first parts =>
        rw [hrest] at h ih
        simp only [List.modifyHead_cons, List.mem_cons] at h
        rcases h with rfl | h
        · have hfirst : separator ∉ first := ih List.mem_cons_self
          simp [Ne.symm hc, hfirst]
        · exact ih (List.mem_cons_of_mem first h)

end Text

section Trailing

variable {α : Type} {p : α → Bool} {a w x : α} {l m : List α}

theorem mem_rdropWhile_of_not (ha : ¬ p a = true) : a ∈ l.rdropWhile p ↔ a ∈ l := by
  induction l using List.reverseRecOn with
  | nil => simp
  | append_singleton l x ih =>
    by_cases hx : p x = true
    · have hne : a ≠ x := fun h => ha (h ▸ hx)
      rw [List.rdropWhile_concat_pos p l x hx, ih]
      simp [hne]
    · rw [List.rdropWhile_concat_neg p l x hx]

theorem pair_sublist_concat : [a, w].Sublist (l ++ [x]) ↔ [a, w].Sublist l ∨ w = x ∧ a ∈ l := by
  have hl : [a, w].reverse.Sublist l.reverse ↔ [a, w].Sublist l := List.reverse_sublist
  have hcons : [w, a].Sublist (x :: l.reverse) ↔
      [w, a].Sublist l.reverse ∨ w = x ∧ [a].Sublist l.reverse := List.cons_sublist_cons'
  rw [← List.reverse_sublist, ← hl, List.reverse_append]
  simpa using hcons

/-- What would be dropped at the end stays exactly if something that stays comes behind it. -/
theorem mem_rdropWhile_iff (ha : p a = true) :
    a ∈ l.rdropWhile p ↔ ∃ w, ¬ p w = true ∧ [a, w].Sublist l := by
  -- from the end, where things are dropped
  induction l using List.reverseRecOn with
  | nil => simp
  | append_singleton l x ih =>
    by_cases hx : p x = true
    · have hne : ∀ w, ¬ p w = true → w ≠ x := fun w hw h => hw (h ▸ hx)
      rw [List.rdropWhile_concat_pos p l x hx, ih]
      constructor
      · rintro ⟨w, hw, hsub⟩
        exact ⟨w, hw, pair_sublist_concat.mpr (.inl hsub)⟩
      · rintro ⟨w, hw, hsub⟩
        exact ⟨w, hw, (pair_sublist_concat.mp hsub).resolve_right fun h => hne w hw h.1⟩
    · have hne : a ≠ x := fun h => hx (h ▸ ha)
      rw [List.rdropWhile_concat_neg p l x hx]
      constructor
      · intro hmem
        have hl : a ∈ l := by simpa [hne] using hmem
        exact ⟨x, hx, pair_sublist_concat.mpr (.inr ⟨rfl, hl⟩)⟩
      · rintro ⟨w, -, hsub⟩
        exact hsub.subset List.mem_cons_self

theorem rdropWhile_append :
    (l ++ m).rdropWhile p = if m.rdropWhile p = [] then l.rdropWhile p else l ++ m.rdropWhile p := by
  rw [List.rdropWhile, List.reverse_append, List.dropWhile_append]
  simp only [List.rdropWhile, List.reverse_eq_nil_iff, List.isEmpty_iff]
  split
  · rfl
  · simp

end Trailing

namespace CommaList

/-- A text that a comma list can hold for good: not empty and without a comma. -/
def IsValue (x : Text) : Prop :=
  x ≠ [] ∧ comma ∉ x

instance (x : Text) : Decidable (IsValue x) :=
  inferInstanceAs (Decidable (_ ∧ _))

/-- The texts between the commas; no text has no parts. -/
def parts (l : CommaList) : List Text :=
  if l.getD [] = [] then [] else Text.splitOn comma (l.getD [])

/-- The text ends in a comma, and with that in an empty part. -/
def OpenEnded (l : CommaList) : Prop :=
  [comma] <:+ l.getD []

variable {l head tail : CommaList} {x v : Text} {xs : List Text}

theorem contains_iff : l.contains v = true ↔ v ∈ l.values :=
  List.contains_iff_mem

theorem values_eq (l : CommaList) : l.values = l.parts.rdropWhile List.isEmpty := by
  cases l with
  | none => rfl
  | some t =>
    cases t with
    | nil => rfl
    | cons c rest => rfl

theorem mem_values_iff (hv : v ≠ []) : v ∈ l.values ↔ v ∈ l.parts := by
  rw [values_eq]
  exact mem_rdropWhile_of_not (by simpa using hv)

theorem nil_mem_values_iff : [] ∈ l.values ↔ ∃ w, w ≠ [] ∧ [[], w].Sublist l.parts := by
  rw [values_eq, mem_rdropWhile_iff rfl]
  simp

theorem comma_not_mem_of_mem_parts (h : x ∈ l.parts) : comma ∉ x := by
  rw [parts] at h
  split at h
  · cases h
  · exact Text.not_mem_of_mem_splitOn h

theorem intercalate_parts (l : CommaList) : Text.intercalate [comma] l.parts = l.getD [] := by
  rw [parts]
  split
  · rename_i h
    rw [h, Text.intercalate]
  · rw [Text.intercalate_eq, Text.splitOn_eq, List.intercalate_splitOn]

theorem parts_intercalate (h : ∀ x ∈ xs, comma ∉ x) (hne : xs ≠ [[]]) :
    parts (some (Text.intercalate [comma] xs)) = xs := by
  cases xs with
  | nil => rfl
  | cons x rest =>
    have hcut : Text.splitOn comma (Text.intercalate [comma] (x :: rest)) = x :: rest := by
      rw [Text.splitOn_eq, Text.intercalate_eq, List.splitOn_intercalate comma h (by simp)]
    have htext : Text.intercalate [comma] (x :: rest) ≠ [] := by
      intro h
      rw [h] at hcut
      exact hne hcut.symm
    simp only [parts, Option.getD_some, if_neg htext, hcut]

theorem parts_join (head tail : CommaList) :
    parts (some (join head tail)) = head.parts ++ tail.parts := by
  by_cases hhead : head.getD [] = []
  · simp [parts, join, hhead]
  · by_cases htail : tail.getD [] = []
    · simp [parts, join, hhead, htail]
    · have htext : join head tail = head.getD [] ++ comma :: tail.getD [] := by
        simp [join, hhead, htail]
      simp [parts, htext, hhead, htail, Text.splitOn_eq, List.splitOn_append_cons_self]

theorem parts_value (hx : IsValue x) : parts (some x) = [x] := by
  have hcomma : ∀ y ∈ [x], comma ∉ y := by simpa using hx.2
  exact parts_intercalate hcomma (by simpa using hx.1)

@[simp] theorem parts_some_getD (l : CommaList) : parts (some (l.getD [])) = l.parts :=
  rfl

theorem append_eq (hx : x ≠ []) :
    l.append x = if l.contains x then l.getD [] else join l (some x) := by
  by_cases hl : l.getD [] = []
  · have hout : l.contains x = false := by
      rw [Bool.eq_false_iff, ne_eq, contains_iff, mem_values_iff hx, parts, if_pos hl]
      exact List.not_mem_nil
    simp [append, join, hl, hout]
  · simp [append, join, hl, hx]

theorem parts_append (hx : IsValue x) :
    parts (some (l.append x)) = if x ∈ l.parts then l.parts else l.parts ++ [x] := by
  have hin : l.contains x = true ↔ x ∈ l.parts := by rw [contains_iff, mem_values_iff hx.1]
  rw [append_eq hx.1]
  by_cases h : x ∈ l.parts
  · rw [if_pos (hin.mpr h), if_pos h, parts_some_getD]
  · rw [if_neg (mt hin.mp h), if_neg h, parts_join, parts_value hx]

theorem values_append (hx : IsValue x) (hout : x ∉ l.parts) :
    values (some (l.append x)) = l.parts ++ [x] := by
  have hlast : ¬ List.isEmpty x = true := by simpa using hx.1
  rw [values_eq, parts_append hx, if_neg hout, List.rdropWhile_concat_neg _ _ x hlast]

theorem values_intercalate (h : ∀ x ∈ xs, comma ∉ x) :
    values (some (Text.intercalate [comma] xs)) = xs.rdropWhile List.isEmpty := by
  by_cases hne : xs = [[]]
  · rw [hne]
    rfl
  · rw [values_eq, parts_intercalate h hne]

theorem values_join (head tail : CommaList) :
    values (some (join head tail)) =
      if tail.values = [] then head.values else head.parts ++ tail.values := by
  rw [values_eq, parts_join, rdropWhile_append, ← values_eq, ← values_eq]

theorem filter_ne_eq_self (hout : x ∉ xs) : xs.filter (· ≠ x) = xs := by
  rw [List.filter_eq_self]
  intro y hy
  have hne : y ≠ x := by
    rintro rfl
    exact hout hy
  exact decide_eq_true hne

theorem filter_values (hout : ¬ l.contains x = true) : l.values.filter (· ≠ x) = l.values :=
  filter_ne_eq_self (mt contains_iff.mpr hout)

theorem values_remove (l : CommaList) (x : Text) :
    values (some (l.remove x)) = (l.values.filter (· ≠ x)).rdropWhile List.isEmpty := by
  rw [remove]
  split
  · apply values_intercalate
    intro y hy
    have hmem : y ∈ l.parts.rdropWhile List.isEmpty := by
      rw [← values_eq]
      exact List.mem_of_mem_filter hy
    exact comma_not_mem_of_mem_parts ((List.rdropWhile_prefix _ _).subset hmem)
  · rename_i hout
    rw [filter_values hout, values_eq, values_eq, parts_some_getD, List.rdropWhile_idempotent]

theorem parts_ne_singleton_nil (l : CommaList) : l.parts ≠ [[]] := by
  intro h
  have htext : [] = l.getD [] := by
    rw [← intercalate_parts l, h]
    rfl
  rw [parts, if_pos htext.symm] at h
  cases h

theorem nil_mem_parts_of_openEnded (h : l.OpenEnded) : [] ∈ l.parts := by
  obtain ⟨s, hs⟩ := h
  have hcut := List.splitOn_append_cons_self (a := comma) s []
  rw [hs] at hcut
  have htext : l.getD [] ≠ [] := by simp [← hs]
  rw [parts, if_neg htext, Text.splitOn_eq, hcut]
  simp

/-- An empty part is a value, unless only the end of the text stands behind it. -/
theorem nil_mem_parts_iff : [] ∈ l.parts ↔ [] ∈ l.values ∨ l.OpenEnded := by
  constructor
  · intro h
    rcases List.eq_nil_or_concat l.parts with hnil | ⟨front, last, hparts⟩
    · rw [hnil] at h
      cases h
    · rw [List.concat_eq_append] at hparts
      -- the last part is empty exactly if the text ends in a comma
      by_cases hlast : last = []
      · rw [hlast] at hparts
        have hfront : front ≠ [] := fun hfront => parts_ne_singleton_nil l (by rw [hparts, hfront]; rfl)
        have htext := intercalate_parts l
        rw [hparts, Text.intercalate_concat hfront, List.append_nil] at htext
        exact .inr ⟨_, htext⟩
      · have hfront : [] ∈ front := by
          rw [hparts] at h
          simpa [Ne.symm hlast] using h
        rw [nil_mem_values_iff, hparts]
        exact .inl ⟨last, hlast, pair_sublist_concat.mpr (.inr ⟨rfl, hfront⟩)⟩
  · rintro (h | h)
    · obtain ⟨w, -, hsub⟩ := nil_mem_values_iff.mp h
      exact hsub.subset List.mem_cons_self
    · exact nil_mem_parts_of_openEnded h

section Membership

theorem mem_values_join (hv : v ≠ []) :
    v ∈ values (some (join head tail)) ↔ v ∈ head.values ∨ v ∈ tail.values := by
  rw [mem_values_iff hv, mem_values_iff hv, mem_values_iff hv, parts_join, List.mem_append]

theorem nil_mem_values_join :
    [] ∈ values (some (join head tail)) ↔
      [] ∈ head.values ∨ [] ∈ tail.values ∨ head.OpenEnded ∧ tail.values ≠ [] := by
  rw [values_join]
  by_cases h : tail.values = []
  · simp [h]
  · rw [if_neg h, List.mem_append, nil_mem_parts_iff]
    simp only [h, ne_eq, not_false_eq_true, and_true, or_assoc]
    rw [or_comm (a := head.OpenEnded)]

theorem mem_values_append (hx : IsValue x) (hv : v ≠ []) :
    v ∈ values (some (l.append x)) ↔ v = x ∨ v ∈ l.values := by
  rw [mem_values_iff hv, mem_values_iff hv, parts_append hx]
  split
  · rename_i hin
    exact ⟨.inr, fun h => h.elim (fun h => h ▸ hin) id⟩
  · rw [List.mem_append, List.mem_singleton, or_comm]

theorem nil_mem_values_append (hx : IsValue x) :
    [] ∈ values (some (l.append x)) ↔ [] ∈ l.values ∨ l.OpenEnded ∧ x ∉ l.values := by
  rw [mem_values_iff hx.1]
  by_cases hin : x ∈ l.parts
  · rw [values_eq (some _), parts_append hx, if_pos hin, ← values_eq]
    simp [hin]
  · rw [values_append hx hin, List.mem_append, nil_mem_parts_iff]
    simp [hin, Ne.symm hx.1]

theorem mem_values_remove (hv : v ≠ []) :
    v ∈ values (some (l.remove x)) ↔ v ≠ x ∧ v ∈ l.values := by
  rw [values_remove, mem_rdropWhile_of_not (by simpa using hv), List.mem_filter]
  simp [and_comm]

theorem nil_mem_values_remove (hx : x ≠ []) :
    [] ∈ values (some (l.remove x)) ↔ ∃ w, w ≠ [] ∧ w ≠ x ∧ [[], w].Sublist l.values := by
  rw [values_remove, mem_rdropWhile_iff rfl]
  constructor
  · rintro ⟨w, hw, hsub⟩
    have hne : w ≠ x := by
      have hmem := hsub.subset (List.mem_cons_of_mem [] List.mem_cons_self)
      simpa using List.of_mem_filter hmem
    exact ⟨w, by simpa using hw, hne, hsub.trans List.filter_sublist⟩
  · rintro ⟨w, hw, hne, hsub⟩
    have hkept := hsub.filter (fun y => decide (y ≠ x))
    have hboth : [[], w].filter (fun y => decide (y ≠ x)) = [[], w] := by simp [hne, Ne.symm hx]
    rw [hboth] at hkept
    exact ⟨w, by simpa using hw, hkept⟩

end Membership

/-- **What a change leaves.** A text that is not empty is held after a change exactly if the change adds
it, or it was held before and is not what the change removes. The empty text is held while another value
stands behind an empty part: adding behind a list that ends in a comma makes it a value, and removing the
last value behind it ends that. -/
theorem contains_change (hx : IsValue x) (l head tail : CommaList) :
    (∀ v : Text, v ≠ [] →
      (contains (some (l.append x)) v = true ↔ v = x ∨ l.contains v = true) ∧
      (contains (some (l.remove x)) v = true ↔ v ≠ x ∧ l.contains v = true) ∧
      (contains (some (join head tail)) v = true ↔
        head.contains v = true ∨ tail.contains v = true)) ∧
    (contains (some (l.append x)) [] = true ↔
      l.contains [] = true ∨ l.OpenEnded ∧ ¬ l.contains x = true) ∧
    (contains (some (l.remove x)) [] = true ↔
      ∃ w, w ≠ [] ∧ w ≠ x ∧ [[], w].Sublist l.values) ∧
    (contains (some (join head tail)) [] = true ↔
      head.contains [] = true ∨ tail.contains [] = true ∨ head.OpenEnded ∧ tail.values ≠ []) := by
  simp only [contains_iff]
  refine ⟨fun v hv => ⟨?_, ?_, ?_⟩, ?_, ?_, ?_⟩
  · exact mem_values_append hx hv
  · exact mem_values_remove hv
  · exact mem_values_join hv
  · exact nil_mem_values_append hx
  · exact nil_mem_values_remove hx.1
  · exact nil_mem_values_join

/-- Behind `a,` the value `x` is added, and it is removed again from `,x,b`. -/
theorem contains_change_open_ended :
    (IsValue [0x78] ∧ ([0x61] : Text) ≠ []) ∧
    ((contains (some (append (some [0x61, comma]) [0x78])) [0x61] = true ↔
        ([0x61] : Text) = [0x78] ∨ contains (some [0x61, comma]) [0x61] = true) ∧
      (contains (some (remove (some [0x61, comma]) [0x78])) [0x61] = true ↔
        ([0x61] : Text) ≠ [0x78] ∧ contains (some [0x61, comma]) [0x61] = true) ∧
      (contains (some (join (some [0x61, comma]) (some [0x78]))) [0x61] = true ↔
        contains (some [0x61, comma]) [0x61] = true ∨ contains (some [0x78]) [0x61] = true)) ∧
    (contains (some (append (some [0x61, comma]) [0x78])) [] = true ↔
      contains (some [0x61, comma]) [] = true ∨
        OpenEnded (some [0x61, comma]) ∧ ¬ contains (some [0x61, comma]) [0x78] = true) ∧
    (contains (some (remove (some [comma, 0x78, comma, 0x62]) [0x78])) [] = true ↔
      ∃ w, w ≠ [] ∧ w ≠ [0x78] ∧ [[], w].Sublist (values (some [comma, 0x78, comma, 0x62]))) ∧
    (contains (some (join (some [0x61, comma]) (some [0x78]))) [] = true ↔
      contains (some [0x61, comma]) [] = true ∨ contains (some [0x78]) [] = true ∨
        OpenEnded (some [0x61, comma]) ∧ values (some [0x78]) ≠ []) :=
  have hx : IsValue [0x78] := by decide
  have hv : ([0x61] : Text) ≠ [] := by decide
  have behind := contains_change hx (some [0x61, comma]) (some [0x61, comma]) (some [0x78])
  have within := contains_change hx (some [comma, 0x78, comma, 0x62]) none none
  ⟨⟨hx, hv⟩, behind.1 _ hv, behind.2.1, within.2.2.1, behind.2.2.2⟩

/-- The empty text is not held in `a,`, but it is behind an `x` that is added, or joined on. It is held in
`,x`, but not once the `x` has been removed. -/
theorem contains_nil_of_change :
    ¬ (contains (some (append (some [0x61, comma]) [0x78])) [] = true ↔
        ([] : Text) = [0x78] ∨ contains (some [0x61, comma]) [] = true) ∧
    ¬ (contains (some (remove (some [comma, 0x78]) [0x78])) [] = true ↔
        ([] : Text) ≠ [0x78] ∧ contains (some [comma, 0x78]) [] = true) ∧
    ¬ (contains (some (join (some [0x61, comma]) (some [0x78]))) [] = true ↔
        contains (some [0x61, comma]) [] = true ∨ contains (some [0x78]) [] = true) := by
  decide

end CommaList
end TypedText
