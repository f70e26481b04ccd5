import TypedText.Proofs.Text.Encoding
import TypedText.Text.Position

/-!
# TypedText.Proofs.Text.Spans

Stretches of a text between two indexes. `Spans t i j cs` says that the units from `i` up to `j` store
`cs`; it is what every operation on indexes computes with.

* `codePointAt_eq_ok_iff`, `codePointBefore_eq_ok_iff`: the stretches of one code point.
* `advance_eq_ok_iff`, `retreat_eq_ok_iff`: the stretches of a number of code points.
* `advance_pastEnd`, `retreat_pastStart`: moves by more code points than there are.
* `Spans.trans`, `Spans.split`: neighbouring stretches are one, and a stretch can be cut between
  any two of its code points.
* `Spans.stop_unique`, `Spans.start_unique`: one end and the number of code points fix the other end.
-/

namespace TypedText

namespace Text

theorem slice_append_slice {t : Text} {i j k : Nat} (hij : i ≤ j) (hjk : j ≤ k) :
    t.slice i j ++ t.slice j k = t.slice i k := by
  have hk : k - i = (j - i) + (k - j) := by omega
  have hj : i + (j - i) = j := by omega
  simp only [slice]
  rw [hk, List.take_add, List.drop_drop, hj]

theorem drop_eq_slice_append {t : Text} {i j : Nat} (hij : i ≤ j) :
    t.drop i = t.slice i j ++ t.drop j := by
  have hj : i + (j - i) = j := by omega
  have h := List.take_append_drop (j - i) (t.drop i)
  rw [List.drop_drop, hj] at h
  exact h.symm

theorem take_eq_append_slice {t : Text} {i j : Nat} (hij : i ≤ j) :
    t.take j = t.take i ++ t.slice i j := by
  have hj : j = i + (j - i) := by omega
  rw [slice, ← List.take_add, ← hj]

theorem length_slice {t : Text} {i j : Nat} (hj : j ≤ t.length) :
    (t.slice i j).length = j - i := by
  simp only [slice, List.length_take, List.length_drop]; omega

@[simp] theorem slice_whole (t : Text) : t.slice 0 t.length = t := by
  simp [slice]

theorem getElem?_slice {t : Text} {i j k : Nat} (h : i + k < j) : (t.slice i j)[k]? = t[i + k]? := by
  have hk : k < j - i := by omega
  simp [slice, hk]

theorem slice_cut {t s s' : Text} {i k : Nat} (hik : i ≤ k) (hk : k ≤ t.length)
    (h : t.slice i k = s ++ s') :
    i + s.length ≤ k ∧ t.slice i (i + s.length) = s ∧ t.slice (i + s.length) k = s' := by
  have hlen := length_slice hk (i := i)
  rw [h, List.length_append] at hlen
  refine ⟨by omega, ?_, ?_⟩
  · have hmin : min s.length (k - i) = s.length := by omega
    rw [slice, Nat.add_sub_cancel_left, ← hmin, ← List.take_take, ← slice, h, List.take_left]
  · rw [slice, ← List.drop_drop, Nat.sub_add_eq, ← List.drop_take, ← slice, h, List.drop_left]

end Text

/-- The units of `t` from index `i` up to index `j` store the scalar values `cs`. -/
structure Spans (t : Text) (i j : Nat) (cs : List CodePoint) : Prop where
  le : i ≤ j
  le_length : j ≤ t.length
  encodes : Encodes (t.slice i j) cs

namespace Spans

variable {t : Text} {i j k : Nat} {cs ds : List CodePoint} {c : CodePoint}

theorem trans (h : Spans t i j cs) (h' : Spans t j k ds) : Spans t i k (cs ++ ds) := by
  refine ⟨Nat.le_trans h.le h'.le, h'.le_length, ?_⟩
  rw [← Text.slice_append_slice h.le h'.le]
  exact h.encodes.append h'.encodes

theorem of_drop {s rest : Text} (h : t.drop i = s ++ rest) (hi : i ≤ t.length)
    (hs : Encodes s cs) : Spans t i (i + s.length) cs := by
  have hl := congrArg List.length h
  rw [List.length_drop, List.length_append] at hl
  refine ⟨by omega, by omega, ?_⟩
  rwa [Text.slice, h, Nat.add_sub_cancel_left, List.take_left']
  rfl

/-- The last units before `j`, listed backward as a walk back meets them. -/
theorem of_take {s rest : Text} (h : (t.take j).reverse = s.reverse ++ rest) (hj : j ≤ t.length)
    (hs : Encodes s cs) :
    Spans t rest.length j cs ∧ (t.take rest.length).reverse = rest := by
  have htake : t.take j = rest.reverse ++ s := by
    rw [← List.reverse_reverse (t.take j), h, List.reverse_append, List.reverse_reverse]
  have hl := congrArg List.length htake
  rw [List.length_take, Nat.min_eq_left hj, List.length_append, List.length_reverse] at hl
  have hslice : t.slice rest.length j = s := by
    rw [Text.slice, ← List.drop_take, htake, ← List.length_reverse, List.drop_left]
  have hrest : t.take rest.length = rest.reverse := by
    have hmin : min rest.length j = rest.length := by omega
    rw [← hmin, ← List.take_take, htake, ← List.length_reverse, List.take_left]
  exact ⟨⟨by omega, hj, by rwa [hslice]⟩, by rw [hrest, List.reverse_reverse]⟩

theorem split (h : Spans t i k (cs ++ ds)) : ∃ j, Spans t i j cs ∧ Spans t j k ds := by
  obtain ⟨s, s', hslice, hs, hs'⟩ := h.encodes.split
  obtain ⟨hle, hcut, hcut'⟩ := Text.slice_cut h.le h.le_length hslice
  refine ⟨i + s.length, ⟨by omega, Nat.le_trans hle h.le_length, ?_⟩, ⟨hle, h.le_length, ?_⟩⟩
  · rwa [hcut]
  · rwa [hcut']

theorem uncons (h : Spans t i k (c :: cs)) : ∃ j, Spans t i j [c] ∧ Spans t j k cs :=
  split (show Spans t i k ([c] ++ cs) from h)

theorem encodes_take (h : Spans t 0 j cs) : Encodes (t.take j) cs := by
  have := h.encodes
  rwa [Text.slice, List.drop_zero, Nat.sub_zero] at this

theorem encodes_drop (h : Spans t i t.length cs) : Encodes (t.drop i) cs := by
  have := h.encodes
  rwa [Text.slice, List.take_of_length_le (Nat.le_of_eq List.length_drop)] at this

theorem eq_of_nil (h : Spans t i j []) : i = j := by
  have hl := Text.length_slice h.le_length (i := i)
  have hle := h.le
  cases he : t.slice i j with
  | nil => rw [he] at hl; simp at hl; omega
  | cons u s =>
    have henc := h.encodes
    rw [he] at henc
    generalize hs : u :: s = s' at henc
    cases henc
    cases hs

theorem nil (h : i ≤ t.length) : Spans t i i [] :=
  ⟨Nat.le_refl i, h, by simpa [Text.slice] using Encodes.nil⟩

theorem skip_drop (h : Spans t i j cs) :
    Text.skip .forward cs.length (t.drop i) = (0, t.drop j) := by
  have := Text.skip_encoded (d := .forward) h.encodes 0 (t.drop j)
  rw [Direction.order_forward, ← Text.drop_eq_slice_append h.le] at this
  simpa [Text.skip] using this

theorem skip_take (h : Spans t i j cs) :
    Text.skip .backward cs.length (t.take j).reverse = (0, (t.take i).reverse) := by
  have := Text.skip_encoded (d := .backward) h.encodes 0 (t.take i).reverse
  rw [Direction.order_backward, ← List.reverse_append, ← Text.take_eq_append_slice h.le] at this
  simpa [Text.skip] using this

end Spans

namespace Text

variable {t : Text} {i j n : Nat} {c : CodePoint}

theorem advance_eq_ok_iff (hi : i ≤ t.length) :
    t.advance i n = .ok j ↔ ∃ cs, cs.length = n ∧ Spans t i j cs := by
  constructor
  · intro h
    obtain ⟨s, cs, hs, he, hlen, -⟩ := skip_spec .forward n (t.drop i)
    simp only [advance] at h
    split at h
    · rename_i rest hskip
      cases h
      simp only [hskip, Direction.order_forward] at hs hlen
      have hspans := Spans.of_drop hs hi he
      have hj : i + s.length = t.length - rest.length := by
        have hl := congrArg List.length hs
        rw [List.length_drop, List.length_append] at hl
        omega
      rw [hj] at hspans
      exact ⟨cs, hlen, hspans⟩
    · cases h
    · cases h
  · rintro ⟨cs, rfl, h⟩
    have hj := h.le_length
    simp only [advance, h.skip_drop, List.length_drop]
    congr 1
    omega

theorem retreat_eq_ok_iff (hj : j ≤ t.length) :
    t.retreat j n = .ok i ↔ ∃ cs, cs.length = n ∧ Spans t i j cs := by
  constructor
  · intro h
    obtain ⟨s, cs, hs, he, hlen, -⟩ := skip_spec .backward n (t.take j).reverse
    simp only [retreat] at h
    split at h
    · rename_i rest hskip
      cases h
      rw [hskip] at hs hlen
      exact ⟨cs, hlen, (Spans.of_take hs hj he).1⟩
    · cases h
    · cases h
  · rintro ⟨cs, rfl, h⟩
    have hi := Nat.le_trans h.le h.le_length
    simp [retreat, h.skip_take, hi]

theorem advance_pastEnd {cs : List CodePoint} (h : Spans t i t.length cs) (hn : cs.length < n) :
    t.advance i n = .error .pastEnd := by
  -- the walk passes all code points, and then stands at the end with some still to go
  obtain ⟨m, rfl⟩ : ∃ m, n = cs.length + (m + 1) := ⟨n - cs.length - 1, by omega⟩
  have hskip := skip_encoded (d := .forward) h.encodes_drop (m + 1) []
  rw [Direction.order_forward, List.append_nil] at hskip
  rw [advance, hskip]
  rfl

theorem retreat_pastStart {cs : List CodePoint} (h : Spans t 0 j cs) (hn : cs.length < n) :
    t.retreat j n = .error .pastStart := by
  obtain ⟨m, rfl⟩ : ∃ m, n = cs.length + (m + 1) := ⟨n - cs.length - 1, by omega⟩
  have hskip := skip_encoded (d := .backward) h.encodes_take (m + 1) []
  rw [Direction.order_backward, List.append_nil] at hskip
  rw [retreat, hskip]
  rfl

/-- A move by one code point from the start of a text finds one, or is stopped by an unpaired
surrogate. -/
theorem advance_one (u : CodePoint) (rest : Text) :
    (∃ c k, Spans (u :: rest) 0 k [c] ∧ advance (u :: rest) 0 1 = .ok k) ∨
      ∃ k, advance (u :: rest) 0 1 = .error (.unpaired u k) := by
  cases h : split? .forward (u :: rest) with
  | none =>
    refine .inr ⟨(u :: rest).length - (rest.length + 1), ?_⟩
    simp only [advance, skip, List.drop_zero, h]
  | some p =>
    obtain ⟨c, rest'⟩ := p
    obtain ⟨us, hu, hus⟩ := split?_eq_some_iff.mp h
    have hspans : Spans (u :: rest) 0 (0 + us.length) [c] :=
      Spans.of_drop hus (Nat.zero_le _) (.one hu)
    exact .inl ⟨c, _, hspans, (advance_eq_ok_iff (Nat.zero_le _)).mpr ⟨[c], rfl, hspans⟩⟩

theorem codePointAt_eq_ok_iff : t.codePointAt i = .ok c ↔ ∃ j, Spans t i j [c] := by
  constructor
  · intro h
    simp only [codePointAt, Int.toNat_natCast] at h
    split at h
    · rename_i hi
      split at h
      · cases h
      · rename_i u rest hd
        split at h
        · rename_i c' rest' hsplit
          cases h
          obtain ⟨us, hu, hus⟩ := split?_eq_some_iff.mp hsplit
          exact ⟨_, Spans.of_drop (hd.trans hus) (by omega) (.one hu)⟩
        · cases h
    · cases h
  · rintro ⟨j, h⟩
    have hu := h.encodes.stores_of_one
    have hd : t.drop i = t.slice i j ++ t.drop j := drop_eq_slice_append h.le
    have hlen := length_slice h.le_length (i := i)
    have hpos := hu.length_pos
    have hj := h.le_length
    have hrange : 0 ≤ (i : Int) ∧ (i : Int) < t.length := by omega
    have hsplit := split?_eq_some_iff (d := .forward).mpr ⟨_, hu, hd⟩
    simp only [codePointAt, Int.toNat_natCast, if_pos hrange]
    cases hdrop : t.drop i with
    | nil => rw [hdrop] at hsplit; cases hsplit
    | cons u rest => rw [hdrop] at hsplit; simp only [hsplit]

theorem codePointBefore_eq_ok_iff : t.codePointBefore j = .ok c ↔ ∃ i, Spans t i j [c] := by
  constructor
  · intro h
    simp only [codePointBefore, Int.toNat_natCast] at h
    split at h
    · rename_i hj
      split at h
      · cases h
      · rename_i u rest ht
        split at h
        · rename_i c' rest' hsplit
          cases h
          obtain ⟨us, hu, hus⟩ := split?_eq_some_iff.mp hsplit
          exact ⟨_, (Spans.of_take (ht.trans hus) (by omega) (.one hu)).1⟩
        · cases h
    · cases h
  · rintro ⟨i, h⟩
    have hu := h.encodes.stores_of_one
    have ht : (t.take j).reverse = (t.slice i j).reverse ++ (t.take i).reverse := by
      rw [take_eq_append_slice h.le, List.reverse_append]
    have hlen := length_slice h.le_length (i := i)
    have hpos := hu.length_pos
    have hj := h.le_length
    have hrange : 0 < (j : Int) ∧ (j : Int) ≤ t.length := by omega
    have hsplit := split?_eq_some_iff (d := .backward).mpr ⟨_, hu, ht⟩
    simp only [codePointBefore, Int.toNat_natCast, if_pos hrange]
    cases hrev : (t.take j).reverse with
    | nil => rw [hrev] at hsplit; cases hsplit
    | cons u rest => rw [hrev] at hsplit; simp only [hsplit]

/-- A move by a number of code points, forward or backward, ends where a stretch of as many code
points does that starts, or ends, at the given index. -/
theorem offset_eq_ok_iff {n : Int} :
    t.offset i n = .ok j ↔
      (∃ cs, Spans t i j cs ∧ n = cs.length) ∨ (∃ cs, Spans t j i cs ∧ n = -cs.length) := by
  constructor
  · intro h
    simp only [offset, Int.toNat_natCast] at h
    split at h
    · rename_i hi
      split at h
      · obtain ⟨cs, hlen, hs⟩ := (advance_eq_ok_iff (by omega)).mp h
        exact .inl ⟨cs, hs, by omega⟩
      · obtain ⟨cs, hlen, hs⟩ := (retreat_eq_ok_iff (by omega)).mp h
        exact .inr ⟨cs, hs, by omega⟩
    · cases h
  · have forward : ∀ cs, Spans t i j cs → t.offset i cs.length = .ok j := by
      intro cs hs
      have hi : 0 ≤ (i : Int) ∧ (i : Int) ≤ t.length := by
        have := hs.le; have := hs.le_length; omega
      have hn : 0 ≤ (cs.length : Int) := by omega
      simp only [offset, Int.toNat_natCast, if_pos hi, if_pos hn]
      exact (advance_eq_ok_iff (by omega)).mpr ⟨cs, rfl, hs⟩
    rintro (⟨cs, hs, rfl⟩ | ⟨cs, hs, rfl⟩)
    · exact forward cs hs
    · cases cs with
      | nil =>
        have hij := hs.eq_of_nil
        subst hij
        exact forward [] hs
      | cons c cs =>
        have hi : 0 ≤ (i : Int) ∧ (i : Int) ≤ t.length := by have := hs.le_length; omega
        have hn : ¬ 0 ≤ -((c :: cs).length : Int) := by simp only [List.length_cons]; omega
        have habs : (-((c :: cs).length : Int)).natAbs = (c :: cs).length := by omega
        simp only [offset, Int.toNat_natCast, if_pos hi, if_neg hn, habs]
        exact (retreat_eq_ok_iff (by omega)).mpr ⟨c :: cs, rfl, hs⟩

end Text

namespace Spans

variable {t : Text} {i i' j j' : Nat} {cs ds : List CodePoint}

theorem stop_unique (h : Spans t i j cs) (h' : Spans t i j' ds) (hlen : cs.length = ds.length) :
    j = j' := by
  have hi := Nat.le_trans h.le h.le_length
  have hj := (Text.advance_eq_ok_iff hi).mpr ⟨cs, rfl, h⟩
  have hj' := (Text.advance_eq_ok_iff hi).mpr ⟨ds, hlen.symm, h'⟩
  rw [hj] at hj'
  cases hj'
  rfl

theorem start_unique (h : Spans t i j cs) (h' : Spans t i' j ds) (hlen : cs.length = ds.length) :
    i = i' := by
  have hi := (Text.retreat_eq_ok_iff h.le_length).mpr ⟨cs, rfl, h⟩
  have hi' := (Text.retreat_eq_ok_iff h.le_length).mpr ⟨ds, hlen.symm, h'⟩
  rw [hi] at hi'
  cases hi'
  rfl

theorem unique (h : Spans t i j cs) (h' : Spans t i j ds) : cs = ds :=
  h.encodes.unique h'.encodes

end Spans

end TypedText
