import TypedText.Proofs.CommaValues

/-!
# TypedText.Proofs.CommaRemovals

Taking values out of a kept comma list. What has been added is taken out again without a trace
(`remove_append`), wherever the commas of the text stand. Of several removals, each joins the values that
are left and with that drops other empty ones at the end, so their order may show in the text; it does not
show in the values (`values_removeAll`).

* `removeAll`: one removal after the other.
* `rdropWhile_filter_rdropWhile`: empty values at the end that are dropped before a removal are dropped
  after it anyway.
* `remove_inverse_and_order`: both facts, for any kept text.
-/

namespace TypedText

theorem rdropWhile_filter_rdropWhile {α : Type} (p q : α → Bool) (l : List α) :
    ((l.rdropWhile p).filter q).rdropWhile p = (l.filter q).rdropWhile p := by
  -- from the end, where things are dropped
  induction l using List.reverseRecOn with
  | nil => simp
  | append_singleton l x ih =>
    by_cases hx : p x = true
    · rw [List.rdropWhile_concat_pos p l x hx, ih, List.filter_append, rdropWhile_append]
      have hdropped : ([x].filter q).rdropWhile p = [] := by
        rw [List.rdropWhile_eq_nil_iff]
        intro y hy
        rwa [List.mem_singleton.mp (List.mem_of_mem_filter hy)]
      rw [if_pos hdropped]
    · rw [List.rdropWhile_concat_neg p l x hx]

namespace CommaList

def removeAll (l : CommaList) (xs : List Text) : CommaList :=
  Edit.applyAll l (xs.map .remove)

variable {l : CommaList} {x : Text} {xs ys : List Text}

theorem removeAll_cons (l : CommaList) (x : Text) (xs : List Text) :
    l.removeAll (x :: xs) = removeAll (some (l.remove x)) xs :=
  rfl

theorem rdropWhile_values (l : CommaList) : l.values.rdropWhile List.isEmpty = l.values := by
  rw [values_eq, List.rdropWhile_idempotent]

/-- Any removals leave the values that none of them is for, without the empty ones at the end. -/
theorem values_removeAll (l : CommaList) (xs : List Text) :
    (l.removeAll xs).values = (l.values.filter (· ∉ xs)).rdropWhile List.isEmpty := by
  induction xs generalizing l with
  | nil =>
    simp only [List.not_mem_nil, not_false_eq_true, decide_true, List.filter_true, rdropWhile_values]
    rfl
  | cons x xs ih =>
    rw [removeAll_cons, ih, values_remove, rdropWhile_filter_rdropWhile, List.filter_filter]
    simp only [List.mem_cons, not_or, ne_eq, ← Bool.decide_and, and_comm]

theorem values_removeAll_congr (h : ∀ v, v ∈ xs ↔ v ∈ ys) :
    (l.removeAll xs).values = (l.removeAll ys).values := by
  simp only [values_removeAll, h]

theorem contains_removeAll_eq_false (h : x ∈ xs) : (l.removeAll xs).contains x = false := by
  rw [Bool.eq_false_iff, ne_eq, contains_iff, values_removeAll]
  intro hmem
  have hkept := List.of_mem_filter ((List.rdropWhile_prefix _ _).subset hmem)
  exact of_decide_eq_true hkept h

/-- A value that has been added stands last, so that no empty part is dropped, and what is left without it
are all the parts there were. -/
theorem remove_append (hx : IsValue x) (hout : l.contains x = false) :
    remove (some (l.append x)) x = l.getD [] := by
  have hparts : x ∉ l.parts := by
    rw [← mem_values_iff hx.1, ← contains_iff, hout]
    exact Bool.false_ne_true
  have hin : contains (some (l.append x)) x = true := by
    rw [contains_iff, values_append hx hparts]
    exact List.mem_append_right _ (List.mem_singleton_self x)
  rw [remove, if_pos hin, values_append hx hparts, List.filter_append,
    filter_ne_eq_self hparts, List.filter_singleton]
  simp [intercalate_parts]

/-- **Removals.** Removing a value that has been added to a text that did not hold it gives the text back
as it was. Two removals can be made in either order: the same values are held after them, and neither of
the two that have been removed. -/
theorem remove_inverse_and_order (l : CommaList) :
    (∀ x, IsValue x → l.contains x = false → remove (some (l.append x)) x = l.getD []) ∧
    ∀ x y v,
      contains (some (remove (some (l.remove x)) y)) v =
        contains (some (remove (some (l.remove y)) x)) v ∧
      (v = x ∨ v = y →
        contains (some (remove (some (l.remove x)) y)) v = false ∧
        contains (some (remove (some (l.remove y)) x)) v = false) := by
  refine ⟨fun x hx hout => remove_append hx hout, fun x y v => ⟨?_, fun hv => ?_⟩⟩
  · have hsame : (l.removeAll [x, y]).values = (l.removeAll [y, x]).values :=
      values_removeAll_congr (by simp [or_comm])
    exact congrArg (·.contains v) hsame
  · have hxy : (l.removeAll [x, y]).contains v = false :=
      contains_removeAll_eq_false (by simpa using hv)
    have hyx : (l.removeAll [y, x]).contains v = false :=
      contains_removeAll_eq_false (by simpa [or_comm] using hv)
    exact ⟨hxy, hyx⟩

/-- An `x` behind a text of commas only, and the removals of `a` and of the empty text from `,a,,b`. -/
theorem remove_inverse_and_order_commas :
    (IsValue [0x78] ∧ contains (some [comma, comma]) [0x78] = false) ∧
    remove (some (append (some [comma, comma]) [0x78])) [0x78] = [comma, comma] ∧
    contains (some (remove (some (remove (some [comma, 0x61, comma, comma, 0x62]) [0x61])) [])) [] =
      false ∧
    contains (some (remove (some (remove (some [comma, 0x61, comma, comma, 0x62]) [])) [0x61])) [] =
      false :=
  have hx : IsValue [0x78] := by decide
  have hout : contains (some [comma, comma]) [0x78] = false := by decide
  have hboth := ((remove_inverse_and_order (some [comma, 0x61, comma, comma, 0x62])).2 [0x61] [] []).2
    (.inr rfl)
  ⟨⟨hx, hout⟩, (remove_inverse_and_order (some [comma, comma])).1 _ hx hout, hboth.1, hboth.2⟩

end CommaList
end TypedText
