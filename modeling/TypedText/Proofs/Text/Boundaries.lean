import TypedText.Proofs.Text.Cuts
import TypedText.Proofs.Text.Moves

/-!
# TypedText.Proofs.Text.Boundaries

Going to a code point by its number. In a text without unpaired surrogates the code points start at increasing
indexes, the *boundaries*, and every way of looking at such an index finds what the list of code points has
there. All other indexes lie inside a pair, where nothing starts or ends.

* `Text.boundary`: the index of a code point, by its number.
* `spans_boundary`, `spans_between`, `spans_code_point`: what a text stores before, behind and between
  boundaries.
* `Text.RandomAccess`: indexes and moves agree with the list of code points.
* `InsidePair.offset`: no move starts between the halves of a pair.
-/

namespace TypedText
namespace Text

/-- The index at which the code point number `k` starts, counted from zero. -/
def boundary (t : Text) (k : Nat) : Nat :=
  match t.advance 0 k with
  | .ok i => i
  | .error _ => t.length

section Boundary

variable {t : Text} {cs : List CodePoint} {c : CodePoint} {j k : Nat}

theorem boundary_of_spans {i : Nat} (h : Spans t 0 i cs) : t.boundary cs.length = i := by
  have hadvance : t.advance 0 cs.length = .ok i :=
    (advance_eq_ok_iff (Nat.zero_le _)).mpr ⟨cs, rfl, h⟩
  rw [boundary, hadvance]

theorem spans_boundary (h : Encodes t cs) (hk : k ≤ cs.length) :
    Spans t 0 (t.boundary k) (cs.take k) ∧ Spans t (t.boundary k) t.length (cs.drop k) := by
  have hspans := spans_whole_iff.mpr h
  rw [← List.take_append_drop k cs] at hspans
  obtain ⟨i, hbefore, hbehind⟩ := hspans.split
  have hi := boundary_of_spans hbefore
  rw [List.length_take, Nat.min_eq_left hk] at hi
  rw [hi]
  exact ⟨hbefore, hbehind⟩

theorem spans_between (h : Encodes t cs) (hjk : j ≤ k) (hk : k ≤ cs.length) :
    Spans t (t.boundary j) (t.boundary k) ((cs.drop j).take (k - j)) := by
  have hj := (spans_boundary h (Nat.le_trans hjk hk)).2
  have hlen : (cs.drop j).length - (cs.drop k).length = k - j := by
    simp only [List.length_drop]
    omega
  rw [← hlen]
  exact hj.of_common_stop (spans_boundary h hk).2 (by simp only [List.length_drop]; omega)

theorem boundary_lt (h : Encodes t cs) (hjk : j < k) (hk : k ≤ cs.length) :
    t.boundary j < t.boundary k := by
  have hspans := spans_between h (Nat.le_of_lt hjk) hk
  cases hds : (cs.drop j).take (k - j) with
  | nil =>
    have hlen := congrArg List.length hds
    simp only [List.length_take, List.length_drop, List.length_nil] at hlen
    omega
  | cons c ds =>
    rw [hds] at hspans
    exact hspans.lt

theorem spans_code_point (h : Encodes t cs) (hc : cs[k]? = some c) :
    Spans t (t.boundary k) (t.boundary (k + 1)) [c] := by
  obtain ⟨hk, rfl⟩ := List.getElem?_eq_some_iff.mp hc
  have hspans := spans_between h (Nat.le_add_right k 1) hk
  rw [List.drop_eq_getElem_cons hk, Nat.add_sub_cancel_left] at hspans
  exact hspans

theorem offset_boundary (h : Encodes t cs) (hk : k ≤ cs.length) :
    t.offset 0 k = .ok (t.boundary k) ∧
      t.offset t.length ((k : Int) - cs.length) = .ok (t.boundary k) := by
  obtain ⟨hbefore, hbehind⟩ := spans_boundary h hk
  constructor
  · refine offset_eq_ok_iff.mpr (.inl ⟨_, hbefore, ?_⟩)
    rw [List.length_take, Nat.min_eq_left hk]
  · refine offset_eq_ok_iff.mpr (.inr ⟨_, hbehind, ?_⟩)
    rw [List.length_drop]
    omega

theorem offset_boundary_pastEnd {d : Int} (h : Encodes t cs) (hk : k ≤ cs.length)
    (hd : (cs.length : Int) - k < d) : t.offset (t.boundary k) d = .error .pastEnd := by
  have hbehind := (spans_boundary h hk).2
  have hrange : 0 ≤ (t.boundary k : Int) ∧ (t.boundary k : Int) ≤ t.length := by
    have := hbehind.le
    omega
  have hforward : 0 ≤ d := by omega
  simp only [offset, if_pos hrange, if_pos hforward, Int.toNat_natCast]
  exact advance_pastEnd hbehind (by rw [List.length_drop]; omega)

theorem offset_boundary_pastStart {d : Int} (h : Encodes t cs) (hk : k ≤ cs.length)
    (hd : d < -(k : Int)) : t.offset (t.boundary k) d = .error .pastStart := by
  have hbefore := (spans_boundary h hk).1
  have hrange : 0 ≤ (t.boundary k : Int) ∧ (t.boundary k : Int) ≤ t.length := by
    have := hbefore.le_length
    omega
  have hback : ¬ 0 ≤ d := by omega
  simp only [offset, if_pos hrange, if_neg hback, Int.toNat_natCast]
  exact retreat_pastStart hbefore (by rw [List.length_take]; omega)

/-- Every index is a boundary, or lies inside a pair. -/
theorem boundary_or_insidePair {i : Nat} (h : Encodes t cs) (hi : i ≤ t.length) :
    (∃ k ≤ cs.length, t.boundary k = i) ∨ t.InsidePair i := by
  rcases (spans_whole_iff.mpr h).cut_cases (Nat.zero_le i) hi with
    ⟨ds, es, rfl, hds, -⟩ | ⟨-, -, hinside⟩
  · exact .inl ⟨ds.length, by simp, boundary_of_spans hds⟩
  · exact .inr hinside

end Boundary

namespace InsidePair

variable {t : Text} {i : Nat}

theorem exists_low (h : t.InsidePair i) : ∃ u rest, t.drop i = u :: rest ∧ u.isLow := by
  obtain ⟨-, -, hlow⟩ := h
  obtain ⟨u, hu, hlow⟩ := (Option.any_eq_true _ _).mp hlow
  obtain ⟨hi, rfl⟩ := List.getElem?_eq_some_iff.mp hu
  exact ⟨_, _, List.drop_eq_getElem_cons hi, hlow⟩

theorem exists_high (h : t.InsidePair i) : ∃ u rest, (t.take i).reverse = u :: rest ∧ u.isHigh := by
  obtain ⟨hpos, hhigh, -⟩ := h
  obtain ⟨u, hu, hhigh⟩ := (Option.any_eq_true _ _).mp hhigh
  obtain ⟨hi, rfl⟩ := List.getElem?_eq_some_iff.mp hu
  refine ⟨_, (t.take (i - 1)).reverse, ?_, hhigh⟩
  rw [← List.reverse_concat, List.take_append_getElem, Nat.sub_add_cancel hpos]

theorem lt_length (h : t.InsidePair i) : i < t.length := by
  obtain ⟨u, rest, hdrop, -⟩ := h.exists_low
  have hlen := congrArg List.length hdrop
  simp only [List.length_drop, List.length_cons] at hlen
  omega

theorem codePointAt (h : t.InsidePair i) : ReportsUnpaired (t.codePointAt i) := by
  obtain ⟨u, rest, hdrop, hlow⟩ := h.exists_low
  have hrange : 0 ≤ (i : Int) ∧ (i : Int) < t.length := by
    have := h.lt_length
    omega
  refine ⟨u, i, ?_⟩
  simp only [Text.codePointAt, if_pos hrange, Int.toNat_natCast, hdrop, split?_forward_low hlow]

theorem codePointBefore (h : t.InsidePair i) : ReportsUnpaired (t.codePointBefore i) := by
  obtain ⟨u, rest, htake, hhigh⟩ := h.exists_high
  have hrange : 0 < (i : Int) ∧ (i : Int) ≤ t.length := by
    have := h.lt_length
    have := h.1
    omega
  refine ⟨u, i - 1, ?_⟩
  simp only [Text.codePointBefore, if_pos hrange, Int.toNat_natCast, htake,
    split?_backward_high hhigh]

/-- The walk does not get past the first unit it meets, whichever way it goes. -/
theorem offset {d : Int} (h : t.InsidePair i) (hd : d ≠ 0) : ReportsUnpaired (t.offset i d) := by
  have hrange : 0 ≤ (i : Int) ∧ (i : Int) ≤ t.length := by
    have := h.lt_length
    omega
  by_cases hforward : 0 ≤ d
  · obtain ⟨u, rest, hdrop, hlow⟩ := h.exists_low
    obtain ⟨n, hn⟩ : ∃ n, d.toNat = n + 1 := ⟨d.toNat - 1, by omega⟩
    refine ⟨u, t.length - (rest.length + 1), ?_⟩
    simp only [Text.offset, if_pos hrange, if_pos hforward, Int.toNat_natCast, hn, advance, hdrop,
      skip, split?_forward_low hlow]
  · obtain ⟨u, rest, htake, hhigh⟩ := h.exists_high
    obtain ⟨n, hn⟩ : ∃ n, d.natAbs = n + 1 := ⟨d.natAbs - 1, by omega⟩
    refine ⟨u, rest.length, ?_⟩
    simp only [Text.offset, if_pos hrange, if_neg hforward, Int.toNat_natCast, hn, retreat, htake,
      skip, split?_backward_high hhigh]

end InsidePair

/-- The code points of a text are found at its boundaries, by looking forward or backward and by moves from
either end; no move leads past the ends, and from no other index is there any move at all. -/
structure RandomAccess (t : Text) (cs : List CodePoint) : Prop where
  count : t.codePointCount = .ok cs.length
  forward : ∀ k ≤ cs.length, t.offset 0 k = .ok (t.boundary k)
  backward : ∀ k ≤ cs.length, t.offset t.length ((k : Int) - cs.length) = .ok (t.boundary k)
  first : t.boundary 0 = 0
  last : t.boundary cs.length = t.length
  increasing : ∀ j k, j < k → k ≤ cs.length → t.boundary j < t.boundary k
  codePoint : ∀ k c, cs[k]? = some c →
    t.codePointAt (t.boundary k) = .ok c ∧ t.codePointBefore (t.boundary (k + 1)) = .ok c
  pastEnd : ∀ k ≤ cs.length, ∀ d : Int, (cs.length : Int) - k < d →
    t.offset (t.boundary k) d = .error .pastEnd
  pastStart : ∀ k ≤ cs.length, ∀ d : Int, d < -(k : Int) →
    t.offset (t.boundary k) d = .error .pastStart
  between : ∀ i, 0 < i → i < t.length → (∀ k ≤ cs.length, t.boundary k ≠ i) →
    t.InsidePair i ∧ ReportsUnpaired (t.codePointAt i) ∧ ReportsUnpaired (t.codePointBefore i) ∧
      ∀ d : Int, d ≠ 0 → ReportsUnpaired (t.offset i d)

/-- **Random access agrees with the list of code points** in every text without unpaired surrogates. -/
theorem randomAccess_of_paired {t : Text} (h : t.Paired) :
    ∃ cs, t.toCodePoints 0 t.length = .ok cs ∧ t.RandomAccess cs := by
  obtain ⟨cs, hcs⟩ := paired_iff_encodes.mp h
  have hwhole := spans_whole_iff.mpr hcs
  refine ⟨cs, toCodePoints_of_spans hwhole, ?_⟩
  constructor
  case count => exact codePointCount_encoded hcs
  case forward => exact fun k hk => (offset_boundary hcs hk).1
  case backward => exact fun k hk => (offset_boundary hcs hk).2
  case first => exact boundary_of_spans (.nil (Nat.zero_le _))
  case last => exact boundary_of_spans hwhole
  case increasing => exact fun j k hjk hk => boundary_lt hcs hjk hk
  case codePoint =>
    intro k c hc
    have hspans := spans_code_point hcs hc
    exact ⟨codePointAt_eq_ok_iff.mpr ⟨_, hspans⟩, codePointBefore_eq_ok_iff.mpr ⟨_, hspans⟩⟩
  case pastEnd => exact fun k hk d hd => offset_boundary_pastEnd hcs hk hd
  case pastStart => exact fun k hk d hd => offset_boundary_pastStart hcs hk hd
  case between =>
    intro i _ hlt hother
    rcases boundary_or_insidePair hcs (Nat.le_of_lt hlt) with ⟨k, hk, hki⟩ | hinside
    · exact absurd hki (hother k hk)
    · exact ⟨hinside, hinside.codePointAt, hinside.codePointBefore, fun d hd => hinside.offset hd⟩

/-- Three code points in four units: the boundaries are 0, 1, 3 and 4, and 2 is inside the pair. -/
theorem randomAccess_of_paired_emoji :
    Paired [0x61, 0xD83D, 0xDE00, 0x62] ∧
      RandomAccess [0x61, 0xD83D, 0xDE00, 0x62] [0x61, 0x1F600, 0x62] := by
  have hpaired : Paired [0x61, 0xD83D, 0xDE00, 0x62] := by decide
  obtain ⟨cs, hcs, haccess⟩ := randomAccess_of_paired hpaired
  cases hcs
  exact ⟨hpaired, haccess⟩

end Text
end TypedText
