import TypedText.Proofs.Text.Shortcuts

/-!
# TypedText.Proofs.Text.Cuts

Cutting a range in two. An index of a range that can be read lies between two of its code points, or it lies
between the halves of a pair (`Spans.cut_cases`); in the one case the code points of both parts are those of
the range, and in the other neither part can be read.

* `Text.InsidePair`: the indexes where a text cannot be cut.
* `toCodePoints_eq_ok_iff`: the ranges that can be read, and as what.
* `toCodePoints_cut`: the code points of a range and of its two parts.
-/

namespace TypedText
namespace Text

/-- The units before and behind the index are the halves of a pair. -/
def InsidePair (t : Text) (i : Nat) : Prop :=
  0 < i ∧ t.highAt (i - 1) ∧ t.lowAt i

instance (t : Text) (i : Nat) : Decidable (t.InsidePair i) :=
  inferInstanceAs (Decidable (_ ∧ _ ∧ _))

namespace InsidePair

variable {t : Text} {start mid stop : Nat}

theorem unpaired_before (h : t.InsidePair mid) (hstart : start < mid) :
    t.Unpaired start mid (mid - 1) := by
  refine ⟨by omega, by omega, .inl ⟨h.2.1, ?_⟩⟩
  rintro ⟨hlt, -⟩
  omega

theorem unpaired_behind (h : t.InsidePair mid) (hstop : mid < stop) : t.Unpaired mid stop mid := by
  refine ⟨Nat.le_refl mid, hstop, .inr ⟨h.2.2, ?_⟩⟩
  rintro ⟨hlt, -⟩
  exact Nat.lt_irrefl mid hlt

end InsidePair
end Text

namespace Spans

variable {t : Text} {start mid stop : Nat} {cs ds : List CodePoint}

/-- By induction on the code points: the index lies in the first of them or behind it. -/
theorem cut_cases (h : Spans t start stop cs) (hstart : start ≤ mid) (hstop : mid ≤ stop) :
    (∃ ds es, cs = ds ++ es ∧ Spans t start mid ds ∧ Spans t mid stop es) ∨
      start < mid ∧ mid < stop ∧ t.InsidePair mid := by
  induction cs generalizing start with
  | nil =>
    have hnil := h.eq_of_nil
    have hmid : mid = start := by omega
    subst hmid
    exact .inl ⟨[], [], rfl, .nil (Nat.le_trans h.le h.le_length), h⟩
  | cons c cs ih =>
    obtain ⟨k, hc, hcs⟩ := h.uncons
    have hk := hcs.le
    by_cases hmid : k ≤ mid
    · rcases ih hcs hmid with ⟨ds, es, rfl, hds, hes⟩ | ⟨hlt, hinside⟩
      · exact .inl ⟨c :: ds, es, rfl, hc.trans hds, hes⟩
      · exact .inr ⟨Nat.lt_of_le_of_lt hc.le hlt, hinside⟩
    · rcases Nat.eq_or_lt_of_le hstart with rfl | hlt
      · exact .inl ⟨[], c :: cs, rfl, .nil (Nat.le_trans h.le h.le_length), h⟩
      · -- a code point that the index is in has two units
        rcases hc.units_of_one with ⟨rfl, -⟩ | ⟨rfl, hhigh, -, hlow, -⟩
        · omega
        · have hmid' : mid = start + 1 := by omega
          subst hmid'
          exact .inr ⟨hlt, by omega, by omega, hhigh, hlow⟩

theorem not_insidePair (h : Spans t start mid cs) (h' : Spans t mid stop ds) (hlt : start < stop) :
    ¬ t.InsidePair mid := by
  intro hinside
  have hle := h.le
  by_cases hmid : start < mid
  · exact h.not_unpaired (hinside.unpaired_before hmid)
  · exact h'.not_unpaired (hinside.unpaired_behind (by omega))

end Spans

namespace Text

variable {t : Text} {start mid stop : Nat} {cs : List CodePoint}

theorem toCodePoints_of_spans (h : Spans t start stop cs) : t.toCodePoints start stop = .ok cs := by
  rw [toCodePoints_of_le h.le h.le_length, exhaust_of_spans h]

theorem toCodePoints_cases (hle : start ≤ stop) (hlen : stop ≤ t.length) :
    (∃ cs, Spans t start stop cs ∧ t.toCodePoints start stop = .ok cs) ∨
      ((∃ i, t.Unpaired start stop i) ∧ ReportsUnpaired (t.toCodePoints start stop)) := by
  rw [toCodePoints_of_le hle hlen]
  rcases readRange_cases hle hlen with ⟨cs, hcs, -⟩ | ⟨i, u, cs, hi, -, -, hread⟩
  · exact .inl ⟨cs, hcs, exhaust_of_spans hcs⟩
  · exact .inr ⟨⟨i, hi.1⟩, u, i, by rw [exhaust, hread]⟩

theorem toCodePoints_eq_ok_iff (hle : start ≤ stop) (hlen : stop ≤ t.length) :
    t.toCodePoints start stop = .ok cs ↔ Spans t start stop cs := by
  rcases toCodePoints_cases hle hlen with ⟨ds, hds, hok⟩ | ⟨⟨i, hi⟩, u, j, herr⟩
  · rw [hok, Except.ok.injEq]
    exact ⟨fun h => h ▸ hds, fun h => hds.unique h⟩
  · rw [herr]
    constructor
    · intro h
      cases h
    · intro h
      exact absurd hi h.not_unpaired

theorem toCodePoints_reportsUnpaired_iff (hle : start ≤ stop) (hlen : stop ≤ t.length) :
    ReportsUnpaired (t.toCodePoints start stop) ↔ ∃ i, t.Unpaired start stop i := by
  rcases toCodePoints_cases hle hlen with ⟨cs, hcs, hok⟩ | ⟨hi, herr⟩
  · rw [hok]
    constructor
    · rintro ⟨u, i, h⟩
      cases h
    · rintro ⟨i, hi⟩
      exact absurd hi hcs.not_unpaired
  · exact ⟨fun _ => hi, fun _ => herr⟩

/-- **Cutting a range.** If both parts can be read, so can the range, as what they are read as one after the
other. A range that can be read is cut between two of its code points, and then so can both parts, or inside
a pair, and then neither can. Inside a pair lie only indexes of a range with something in it. -/
theorem toCodePoints_cut :
    (∀ (t : Text) (start mid stop : Nat), start ≤ mid → mid ≤ stop → stop ≤ t.length →
      (∀ ds es, t.toCodePoints start mid = .ok ds → t.toCodePoints mid stop = .ok es →
        t.toCodePoints start stop = .ok (ds ++ es)) ∧
      ∀ cs, t.toCodePoints start stop = .ok cs →
        ((∃ ds es, cs = ds ++ es ∧ t.toCodePoints start mid = .ok ds ∧
            t.toCodePoints mid stop = .ok es) ∨
          ReportsUnpaired (t.toCodePoints start mid) ∧
            ReportsUnpaired (t.toCodePoints mid stop)) ∧
        (ReportsUnpaired (t.toCodePoints start mid) ∧ ReportsUnpaired (t.toCodePoints mid stop) ↔
          start < stop ∧ t.InsidePair mid)) ∧
    ∀ s t : Text, s.Paired → t.Paired →
      ∃ m n, s.codePointCount = .ok m ∧ t.codePointCount = .ok n ∧
        codePointCount (s ++ t) = .ok (m + n) := by
  refine ⟨fun t start mid stop hstart hstop hlen => ⟨?_, ?_⟩, ?_⟩
  · intro ds es hds hes
    have hds' := (toCodePoints_eq_ok_iff hstart (by omega)).mp hds
    have hes' := (toCodePoints_eq_ok_iff hstop hlen).mp hes
    exact toCodePoints_of_spans (hds'.trans hes')
  · intro cs hcs
    have hspans := (toCodePoints_eq_ok_iff (by omega) hlen).mp hcs
    rw [toCodePoints_reportsUnpaired_iff hstart (by omega), toCodePoints_reportsUnpaired_iff hstop hlen]
    rcases hspans.cut_cases hstart hstop with ⟨ds, es, rfl, hds, hes⟩ | ⟨hlt, hlt', hinside⟩
    · refine ⟨.inl ⟨ds, es, rfl, toCodePoints_of_spans hds, toCodePoints_of_spans hes⟩, ?_, ?_⟩
      · rintro ⟨⟨i, hi⟩, -⟩
        exact absurd hi hds.not_unpaired
      · rintro ⟨hlt, hinside⟩
        exact absurd hinside (hds.not_insidePair hes hlt)
    · have hunpaired := And.intro (Exists.intro _ (hinside.unpaired_before hlt))
        (Exists.intro _ (hinside.unpaired_behind hlt'))
      exact ⟨.inr hunpaired, fun _ => ⟨Nat.lt_trans hlt hlt', hinside⟩, fun _ => hunpaired⟩
  · intro s t hs ht
    obtain ⟨ds, hds⟩ := paired_iff_encodes.mp hs
    obtain ⟨es, hes⟩ := paired_iff_encodes.mp ht
    have hcount := codePointCount_encoded (hds.append hes)
    rw [List.length_append] at hcount
    exact ⟨_, _, codePointCount_encoded hds, codePointCount_encoded hes, hcount⟩

/-- A pair cut in two, the same text cut behind it, and its length from the lengths of these parts. -/
theorem toCodePoints_cut_halves :
    toCodePoints [0x61, 0xD83D, 0xDE00, 0x62] 0 4 = .ok [0x61, 0x1F600, 0x62] ∧
    (ReportsUnpaired (toCodePoints [0x61, 0xD83D, 0xDE00, 0x62] 0 2) ∧
      ReportsUnpaired (toCodePoints [0x61, 0xD83D, 0xDE00, 0x62] 2 4)) ∧
    toCodePoints [0x61, 0xD83D, 0xDE00, 0x62] 0 4 = .ok ([0x61, 0x1F600] ++ [0x62]) ∧
    ∃ m n, codePointCount [0x61, 0xD83D, 0xDE00] = .ok m ∧ codePointCount [0x62] = .ok n ∧
      codePointCount ([0x61, 0xD83D, 0xDE00] ++ [0x62]) = .ok (m + n) := by
  obtain ⟨hranges, hcounts⟩ := toCodePoints_cut
  have hcut := hranges [0x61, 0xD83D, 0xDE00, 0x62] 0 2 4 (by decide) (by decide) (by decide)
  have hbehind := hranges [0x61, 0xD83D, 0xDE00, 0x62] 0 3 4 (by decide) (by decide) (by decide)
  refine ⟨rfl, ?_, hbehind.1 _ _ rfl rfl, hcounts _ _ (by decide) (by decide)⟩
  exact (hcut.2 [0x61, 0x1F600, 0x62] rfl).2.mpr (by decide)

/-- Inside a pair, a range with nothing in it can be read all the same, and so can both its parts. -/
theorem toCodePoints_cut_nothing :
    InsidePair [0xD83D, 0xDE00] 1 ∧ toCodePoints [0xD83D, 0xDE00] 1 1 = .ok [] ∧
      ¬ ReportsUnpaired (toCodePoints [0xD83D, 0xDE00] 1 1) := by
  refine ⟨by decide, rfl, ?_⟩
  rintro ⟨u, i, h⟩
  cases h

end Text
end TypedText
