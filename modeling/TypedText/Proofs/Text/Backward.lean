import TypedText.Proofs.Text.Whole

/-!
# TypedText.Proofs.Text.Backward

A text read from its end. The reading gets down to the last unpaired surrogate and stops there, whatever
stands before it.

* `split?_reverse_eq_some_iff`, `read_reverse_append`: the last code point, and the last few of them, without
  the units in reverse.
* `Spans.unpaired_iff_front`: the code points behind an index have no part in what is unpaired before it.
* `unpaired_iff_stuck`: a unit ends no code point exactly if it is unpaired.
* `read_backward_cases`: a backward reading reads the whole text, or what follows its last unpaired
  surrogate.
-/

namespace TypedText

namespace Spans

variable {t : Text} {start mid stop i : Nat} {cs : List CodePoint}

theorem lowAt_start (h : Spans t mid stop cs) (hlt : mid < stop) : t.lowAt mid = false := by
  cases cs with
  | nil =>
    have hmid := h.eq_of_nil
    omega
  | cons c cs =>
    obtain ⟨k, hc, -⟩ := h.uncons
    rcases hc.units_of_one with ⟨-, -, hlow⟩ | ⟨-, -, hlow, -⟩
    · exact hlow
    · exact hlow

theorem unpaired_iff_front (h : Spans t mid stop cs) (hm : start ≤ mid) :
    t.Unpaired start stop i ↔ t.Unpaired start mid i := by
  have hle := h.le
  constructor
  · rintro ⟨hstart, hstop, hunit⟩
    have hi : i < mid := by
      refine Nat.lt_of_not_le fun hmid => h.not_unpaired (i := i) ⟨hmid, hstop, ?_⟩
      exact hunit.imp_right fun hlow => ⟨hlow.1, fun hhigh => hlow.2 ⟨by omega, hhigh.2⟩⟩
    exact ⟨hstart, hi, hunit.imp_left fun hhigh => ⟨hhigh.1, fun hlow => hhigh.2 ⟨by omega, hlow.2⟩⟩⟩
  · rintro ⟨hstart, hi, hunit⟩
    refine ⟨hstart, by omega, hunit.imp_left fun hhigh => ⟨hhigh.1, ?_⟩⟩
    rintro ⟨hnext, hlow⟩
    by_cases hmid : i + 1 < mid
    · exact hhigh.2 ⟨hmid, hlow⟩
    · have hmid' : i + 1 = mid := by omega
      rw [hmid', h.lowAt_start (by omega)] at hlow
      cases hlow

end Spans

namespace Text

variable {t x s : Text} {c u : CodePoint} {cs : List CodePoint} {i : Nat}

theorem split?_reverse_eq_some_iff :
    split? .backward t.reverse = some (c, x.reverse) ↔ ∃ us, Stores us c ∧ t = x ++ us := by
  rw [split?_eq_some_iff]
  refine exists_congr fun us => and_congr_right fun _ => ?_
  rw [Direction.order_backward, ← List.reverse_append, List.reverse_inj]

theorem exists_of_split?_reverse {p : CodePoint × Text} (h : split? .backward t.reverse = some p) :
    ∃ x us c, t = x ++ us ∧ Stores us c := by
  obtain ⟨c, rest⟩ := p
  rw [← List.reverse_reverse rest] at h
  obtain ⟨us, hus, ht⟩ := split?_reverse_eq_some_iff.mp h
  exact ⟨rest.reverse, us, c, ht, hus⟩

theorem read_reverse_append (x : Text) (hs : Encodes s cs) :
    read .backward (x ++ s).reverse =
      ⟨cs.reverse ++ (read .backward x.reverse).codePoints, (read .backward x.reverse).unread⟩ := by
  rw [List.reverse_append]
  exact read_encoded (d := .backward) hs x.reverse

/-- The last unpaired surrogate of a text. -/
def LastUnpaired (t : Text) (i : Nat) : Prop :=
  t.Unpaired 0 t.length i ∧ ∀ j, t.Unpaired 0 t.length j → j ≤ i

theorem spans_append (x : Text) (hs : Encodes s cs) :
    Spans (x ++ s) x.length (x ++ s).length cs := by
  have hdrop : (x ++ s).drop x.length = s ++ [] := by simp
  have hspans := Spans.of_drop hdrop (by simp) hs
  rwa [← List.length_append] at hspans

theorem unpaired_append_iff (x : Text) (hs : Encodes s cs) :
    (x ++ s).Unpaired 0 (x ++ s).length i ↔ (x ++ s).Unpaired 0 x.length i :=
  (spans_append x hs).unpaired_iff_front (Nat.zero_le _)

theorem unpaired_of_stuck_backward (h : split? .backward (u :: x.reverse) = none) :
    (x ++ u :: s).Unpaired 0 (x.length + 1) x.length := by
  have hu : (x ++ u :: s)[x.length]? = some u := by simp
  refine ⟨Nat.zero_le _, Nat.lt_succ_self _, ?_⟩
  rw [highAt_eq hu, lowAt_eq hu]
  cases hsur : u.isSurrogate with
  | false => rw [split?_scalar hsur] at h; cases h
  | true =>
    rcases CodePoint.isSurrogate_iff_high_or_low.mp hsur with hhigh | hlow
    · exact .inl ⟨hhigh, fun hnext => Nat.lt_irrefl _ hnext.1⟩
    · refine .inr ⟨hlow, ?_⟩
      rintro ⟨hpos, hhigh⟩
      -- the unit before would be the other half of a pair
      cases hx : x.reverse with
      | nil => simp_all
      | cons v y =>
        have hv : (x ++ u :: s)[x.length - 1]? = some v := by
          rw [List.getElem?_append_left (by omega), ← List.getLast?_eq_getElem?,
            ← List.head?_reverse, hx, List.head?_cons]
        rw [highAt_eq hv] at hhigh
        rw [hx] at h
        simp [split?_surrogate hsur, Direction.join?, CodePoint.join?, hhigh, hlow] at h

/-- A unit ends no code point exactly if it is unpaired. -/
theorem unpaired_iff_stuck (x : Text) (u : CodePoint) (hs : Encodes s cs) :
    (x ++ u :: s).Unpaired 0 (x ++ u :: s).length x.length ↔
      split? .backward (u :: x.reverse) = none := by
  constructor
  · intro hi
    have hrev : u :: x.reverse = (x ++ [u]).reverse := by simp
    rw [hrev]
    cases h : split? .backward (x ++ [u]).reverse with
    | none => rfl
    | some p =>
      obtain ⟨y, us, c, hend, hus⟩ := exists_of_split?_reverse h
      have ht : x ++ u :: s = y ++ (us ++ s) := by
        rw [← List.append_assoc, ← hend]
        simp
      rw [ht, unpaired_append_iff _ (.cons hus hs)] at hi
      have hlt := hi.2.1
      have hlen := congrArg List.length hend
      have hpos := hus.length_pos
      simp only [List.length_append, List.length_singleton] at hlen
      omega
  · intro h
    have ht : x ++ u :: s = (x ++ [u]) ++ s := by simp
    have hunpaired := unpaired_of_stuck_backward (s := s) h
    rw [ht] at hunpaired ⊢
    rw [unpaired_append_iff _ hs, List.length_append, List.length_singleton]
    exact hunpaired

/-- A backward reading reads the whole text, or all that follows the last unpaired surrogate. -/
theorem read_backward_cases (t : Text) :
    (∃ cs, Encodes t cs ∧ read .backward t.reverse = ⟨cs.reverse, []⟩) ∨
      ∃ x u s cs, t = x ++ u :: s ∧ Encodes s cs ∧ t.LastUnpaired x.length ∧
        read .backward t.reverse = ⟨cs.reverse, u :: x.reverse⟩ := by
  obtain ⟨s, hs, he, hstuck⟩ := read_spec .backward t.reverse
  generalize read .backward t.reverse = r at hs he hstuck
  obtain ⟨bs, unread⟩ := r
  simp only [Direction.order_backward] at hs he hstuck
  have ht : t = unread.reverse ++ s := by
    rw [← List.reverse_reverse t, hs, List.reverse_append, List.reverse_reverse]
  cases unread with
  | nil =>
    simp only [List.reverse_nil, List.nil_append] at ht
    subst ht
    exact .inl ⟨bs.reverse, he, by rw [List.reverse_reverse]⟩
  | cons u rest =>
    have ht' : t = rest.reverse ++ u :: s := by simpa using ht
    refine .inr ⟨rest.reverse, u, s, bs.reverse, ht', he, ?_, by simp⟩
    rw [ht']
    constructor
    · rw [unpaired_iff_stuck _ u he, List.reverse_reverse]
      exact hstuck
    · intro j hj
      have hsplit : rest.reverse ++ u :: s = (rest.reverse ++ [u]) ++ s := by simp
      rw [hsplit, unpaired_append_iff _ he] at hj
      have hlt := hj.2.1
      simp at hlt ⊢
      omega

end Text
end TypedText
