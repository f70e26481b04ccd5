import TypedText.Proofs.Text.Spans
import TypedText.Text.CodePoints

/-!
# TypedText.Proofs.Text.Unpaired

Unpaired surrogates, said of the units and their neighbours alone, and what reading does about them.

* `Text.Unpaired`: a surrogate of a range that is not half of a pair inside the range.
* `Text.ReadsUpTo`: the code points of a range before the first of them.
* `Text.store`: the text of a list of scalar values, each in a form chosen for it.
* `Spans.unpaired_iff`: no unit of an encoding is unpaired, and what precedes an index between two
  code points has no part in what is unpaired behind it.
* `readRange_spec`: a range without unpaired surrogates encodes exactly what is read from it, and
  otherwise reading stops at the first unpaired one.
-/

namespace TypedText

namespace Text

def highAt (t : Text) (i : Nat) : Bool :=
  t[i]?.any CodePoint.isHigh

def lowAt (t : Text) (i : Nat) : Bool :=
  t[i]?.any CodePoint.isLow

theorem highAt_eq {t : Text} {i : Nat} {u : CodePoint} (h : t[i]? = some u) :
    t.highAt i = u.isHigh := by
  rw [highAt, h, Option.any_some]

theorem lowAt_eq {t : Text} {i : Nat} {u : CodePoint} (h : t[i]? = some u) :
    t.lowAt i = u.isLow := by
  rw [lowAt, h, Option.any_some]

/-- The unit at index `i` of the range from `start` up to `stop` is a high surrogate that no low one
follows directly inside the range, or a low one that no high one precedes directly inside it. -/
def Unpaired (t : Text) (start stop i : Nat) : Prop :=
  start ≤ i ∧ i < stop ∧
    (t.highAt i ∧ ¬ (i + 1 < stop ∧ t.lowAt (i + 1)) ∨
      t.lowAt i ∧ ¬ (start < i ∧ t.highAt (i - 1)))

instance (t : Text) (start stop i : Nat) : Decidable (t.Unpaired start stop i) :=
  inferInstanceAs (Decidable (_ ∧ _ ∧ _))

/-- Every surrogate unit of the text is half of a pair. -/
def Paired (t : Text) : Prop :=
  ∀ i, ¬ t.Unpaired 0 t.length i

theorem paired_iff_forall_lt {t : Text} :
    t.Paired ↔ ∀ i < t.length, ¬ t.Unpaired 0 t.length i :=
  ⟨fun h i _ => h i, fun h i hi => h i hi.2.1 hi⟩

instance (t : Text) : Decidable t.Paired :=
  decidable_of_iff _ paired_iff_forall_lt.symm

/-- The first unpaired surrogate of a range. -/
def FirstUnpaired (t : Text) (start stop i : Nat) : Prop :=
  t.Unpaired start stop i ∧ ∀ j < i, ¬ t.Unpaired start stop j

/-- The units of a range up to index `i` store `cs`, and at `i` is the first unpaired surrogate of the range or,
if there is none, its end. -/
structure ReadsUpTo (t : Text) (start stop i : Nat) (cs : List CodePoint) : Prop where
  spans : Spans t start i cs
  paired : ∀ j < i, ¬ t.Unpaired start stop j
  ends : i = stop ∨ t.Unpaired start stop i

theorem FirstUnpaired.readsUpTo {t : Text} {start stop i : Nat} {cs : List CodePoint}
    (h : t.FirstUnpaired start stop i) (hcs : Spans t start i cs) : t.ReadsUpTo start stop i cs :=
  ⟨hcs, h.2, .inr h.1⟩

end Text

namespace Spans

variable {t : Text} {start mid stop i j : Nat} {c : CodePoint} {cs : List CodePoint}

theorem units_of_one (h : Spans t i j [c]) :
    (j = i + 1 ∧ t.highAt i = false ∧ t.lowAt i = false) ∨
      (j = i + 2 ∧ t.highAt i ∧ t.lowAt i = false ∧ t.lowAt (i + 1) ∧ t.highAt (i + 1) = false) := by
  have hu := h.encodes.stores_of_one
  have hlen := Text.length_slice h.le_length (i := i)
  have hle := h.le
  have hget : ∀ k, i + k < j → t[i + k]? = (t.slice i j)[k]? :=
    fun k hk => (Text.getElem?_slice hk).symm
  generalize t.slice i j = us at hu hlen hget
  cases hu with
  | unit hc =>
    have hj : j = i + 1 := by simp at hlen; omega
    have h0 : t[i]? = some c := hget 0 (by omega)
    obtain ⟨hhigh, hlow⟩ := CodePoint.isSurrogate_eq_false_iff.mp hc
    refine .inl ⟨hj, ?_, ?_⟩
    · rw [Text.highAt_eq h0, hhigh]
    · rw [Text.lowAt_eq h0, hlow]
  | pair hc =>
    have hj : j = i + 2 := by simp at hlen; omega
    have h0 : t[i]? = some c.high := hget 0 (by omega)
    have h1 : t[i + 1]? = some c.low := hget 1 (by omega)
    have hlow := CodePoint.isLow_eq_false_of_isHigh (CodePoint.isHigh_high c)
    have hhigh := CodePoint.isHigh_eq_false_of_isLow (CodePoint.isLow_low c)
    refine .inr ⟨hj, ?_, ?_, ?_, ?_⟩
    · rw [Text.highAt_eq h0, CodePoint.isHigh_high]
    · rw [Text.lowAt_eq h0, hlow]
    · rw [Text.lowAt_eq h1, CodePoint.isLow_low]
    · rw [Text.highAt_eq h1, hhigh]

theorem unpaired_iff_of_one (h : Spans t start mid [c]) (hm : mid ≤ stop) :
    t.Unpaired start stop i ↔ t.Unpaired mid stop i := by
  rcases h.units_of_one with ⟨rfl, hhigh, hlow⟩ | ⟨rfl, hhigh, hlow, hlow', hhigh'⟩
  · simp only [Text.Unpaired]
    rcases Nat.lt_trichotomy i start with hi | rfl | hi
    · simp only [show ¬ start ≤ i by omega, show ¬ start + 1 ≤ i by omega, false_and]
    · simp [hhigh, hlow]
    · rcases Nat.lt_or_ge (start + 1) i with hi' | hi'
      · simp only [show start ≤ i by omega, show start + 1 ≤ i by omega, hi, hi']
      · have hi'' : i = start + 1 := by omega
        subst hi''
        simp [hhigh]
  · simp only [Text.Unpaired]
    rcases Nat.lt_trichotomy i start with hi | rfl | hi
    · simp only [show ¬ start ≤ i by omega, show ¬ start + 2 ≤ i by omega, false_and]
    · have hstop : i + 1 < stop := by omega
      simp [hhigh, hlow, hlow', hstop]
    · rcases Nat.lt_trichotomy i (start + 2) with hi' | rfl | hi'
      · have hi'' : i = start + 1 := by omega
        subst hi''
        simp [hhigh, hhigh']
      · simp [hhigh']
      · simp only [show start ≤ i by omega, show start + 2 ≤ i by omega, hi, hi']

/-- By induction on the code points of the stretch: taking them off one by one at the front neither
pairs nor unpairs a unit behind them. -/
theorem unpaired_iff (h : Spans t start mid cs) (hm : mid ≤ stop) :
    t.Unpaired start stop i ↔ t.Unpaired mid stop i := by
  induction cs generalizing start with
  | nil =>
    have hstart := h.eq_of_nil
    subst hstart
    rfl
  | cons c cs ih =>
    obtain ⟨k, hc, hcs⟩ := h.uncons
    have hk := hcs.le
    rw [hc.unpaired_iff_of_one (by omega), ih hcs]

theorem not_unpaired (h : Spans t start stop cs) : ¬ t.Unpaired start stop i := by
  intro hi
  have hi' := (h.unpaired_iff (Nat.le_refl stop)).mp hi
  have := hi'.1
  have := hi'.2.1
  omega

theorem readsUpTo (h : Spans t start stop cs) : t.ReadsUpTo start stop stop cs :=
  ⟨h, fun _ _ => h.not_unpaired, .inl rfl⟩

end Spans

namespace Text

variable {t : Text} {start mid stop i : Nat}

theorem unpaired_of_stuck {u : CodePoint} {rest : Text} (hlen : stop ≤ t.length)
    (hs : t.slice mid stop = u :: rest) (hstuck : split? .forward (u :: rest) = none) :
    t[mid]? = some u ∧ t.Unpaired mid stop mid := by
  have hl := length_slice hlen (i := mid)
  rw [hs, List.length_cons] at hl
  have hget : ∀ k, mid + k < stop → t[mid + k]? = (u :: rest)[k]? := by
    intro k hk
    rw [← hs, getElem?_slice hk]
  have hu : t[mid]? = some u := hget 0 (by omega)
  refine ⟨hu, Nat.le_refl mid, by omega, ?_⟩
  rw [highAt_eq hu, lowAt_eq hu]
  cases hsur : u.isSurrogate with
  | false => rw [split?_scalar hsur] at hstuck; cases hstuck
  | true =>
    rcases CodePoint.isSurrogate_iff_high_or_low.mp hsur with hhigh | hlow
    · refine .inl ⟨hhigh, ?_⟩
      rintro ⟨hnext, hlow⟩
      cases rest with
      | nil => simp at hl; omega
      | cons v rest =>
        have hv : t[mid + 1]? = some v := hget 1 hnext
        rw [lowAt_eq hv] at hlow
        simp [split?_surrogate hsur, Direction.join?, CodePoint.join?, hhigh, hlow] at hstuck
    · exact .inr ⟨hlow, fun h => Nat.lt_irrefl mid h.1⟩

theorem readRange_eq (hle : start ≤ stop) (hlen : stop ≤ t.length) :
    t.readRange start stop =
      .ok ((read .forward (t.slice start stop)).codePoints,
        (read .forward (t.slice start stop)).faultForward? stop) := by
  have hvalid : t.validRange start stop = true := by simp [validRange]; omega
  simp [readRange, hvalid]

/-- A range is read to its end, or up to the first surrogate that is unpaired in it. -/
theorem readRange_cases (hle : start ≤ stop) (hlen : stop ≤ t.length) :
    (∃ cs, Spans t start stop cs ∧ t.readRange start stop = .ok (cs, none)) ∨
      ∃ i u cs, t.FirstUnpaired start stop i ∧ t[i]? = some u ∧ Spans t start i cs ∧
        t.readRange start stop = .ok (cs, some (.unpaired u i)) := by
  rw [readRange_eq hle hlen]
  obtain ⟨s, hs, he, hstuck⟩ := read_spec .forward (t.slice start stop)
  generalize read .forward (t.slice start stop) = r at hs he hstuck
  obtain ⟨hmid, hcut, hcut'⟩ := slice_cut hle hlen hs
  simp only [Direction.order_forward] at hs he hmid hcut hcut'
  have hspans : Spans t start (start + s.length) r.codePoints :=
    ⟨Nat.le_add_right .., Nat.le_trans hmid hlen, by rwa [hcut]⟩
  have hl := length_slice hlen (i := start + s.length)
  rw [hcut'] at hl
  cases hun : r.unread with
  | nil =>
    rw [hun, List.length_nil] at hl
    have hstop : start + s.length = stop := by omega
    rw [hstop] at hspans
    exact .inl ⟨_, hspans, by simp [Reading.faultForward?, hun]⟩
  | cons u rest =>
    rw [hun] at hcut' hstuck hl
    rw [List.length_cons] at hl
    obtain ⟨hu, hunp⟩ := unpaired_of_stuck hlen hcut' hstuck
    have hi : stop - (rest.length + 1) = start + s.length := by omega
    refine .inr ⟨_, u, _, ⟨(hspans.unpaired_iff hmid).mpr hunp, ?_⟩, hu, hspans, ?_⟩
    · intro j hj hj'
      have := ((hspans.unpaired_iff hmid).mp hj').1
      omega
    · simp [Reading.faultForward?, hun, hi]

/-- What is read are the code points before the first unpaired surrogate, and the fault tells whether there is
one. -/
theorem exists_readsUpTo (hle : start ≤ stop) (hlen : stop ≤ t.length) :
    ∃ i cs fault?, t.ReadsUpTo start stop i cs ∧ t.readRange start stop = .ok (cs, fault?) ∧
      (fault? = none ∧ (¬ ∃ j, t.Unpaired start stop j) ∨
        (∃ u j, fault? = some (.unpaired u j)) ∧ ∃ j, t.Unpaired start stop j) := by
  rcases readRange_cases hle hlen with ⟨cs, hcs, hread⟩ | ⟨i, u, cs, hi, -, hcs, hread⟩
  · refine ⟨stop, cs, none, hcs.readsUpTo, hread, .inl ⟨rfl, ?_⟩⟩
    rintro ⟨j, hj⟩
    exact hcs.not_unpaired hj
  · exact ⟨i, cs, _, hi.readsUpTo hcs, hread, .inr ⟨⟨u, i, rfl⟩, i, hi.1⟩⟩

theorem readRange_eq_ok_iff {cs : List CodePoint} :
    t.readRange start stop = .ok (cs, none) ↔ Spans t start stop cs := by
  constructor
  · intro h
    have hvalid : t.validRange start stop = true := by
      simp only [readRange] at h
      split at h
      · assumption
      · cases h
    simp [validRange] at hvalid
    rcases readRange_cases hvalid.1 hvalid.2 with ⟨ds, hs, hr⟩ | ⟨i, u, ds, -, -, -, hr⟩
    · rw [hr] at h; cases h; exact hs
    · rw [hr] at h; cases h
  · intro h
    rcases readRange_cases h.le h.le_length with ⟨ds, hs, hr⟩ | ⟨i, u, ds, hi, -, -, -⟩
    · rw [hr, h.unique hs]
    · exact absurd hi.1 h.not_unpaired

/-- **Reading a range.** It goes to the end exactly if the range holds no unpaired surrogate, and
then gives the one list of scalar values that the range encodes. Otherwise it reports the first
unpaired unit, after giving what the units before that one encode. Whatever forms are chosen for
scalar values, reading the text of them gives them back. -/
theorem readRange_spec :
    (∀ (t : Text) (start stop : Nat), start ≤ stop → stop ≤ t.length →
      ((∃ cs, t.readRange start stop = .ok (cs, none)) ↔ ∀ i, ¬ t.Unpaired start stop i) ∧
      (∀ cs, t.readRange start stop = .ok (cs, none) ↔ Encodes (t.slice start stop) cs) ∧
      ((∃ i, t.Unpaired start stop i) →
        ∃ i u cs, t.FirstUnpaired start stop i ∧ t[i]? = some u ∧ Encodes (t.slice start i) cs ∧
          t.readRange start stop = .ok (cs, some (.unpaired u i)))) ∧
    ∀ items : List (CodePoint × Form), (∀ p ∈ items, p.1.isSurrogate = false) →
      (store items).readRange 0 (store items).length = .ok (items.map Prod.fst, none) := by
  refine ⟨fun t start stop hle hlen => ⟨⟨?_, ?_⟩, ?_, ?_⟩, ?_⟩
  · rintro ⟨cs, h⟩ i
    exact (readRange_eq_ok_iff.mp h).not_unpaired
  · intro h
    rcases readRange_cases hle hlen with ⟨cs, -, hr⟩ | ⟨i, u, cs, hi, -, -, -⟩
    · exact ⟨cs, hr⟩
    · exact absurd hi.1 (h i)
  · intro cs
    rw [readRange_eq_ok_iff]
    exact ⟨fun h => h.encodes, fun h => ⟨hle, hlen, h⟩⟩
  · rintro ⟨i, hi⟩
    rcases readRange_cases hle hlen with ⟨cs, hs, -⟩ | ⟨j, u, cs, hj, hu, hs, hr⟩
    · exact absurd hi hs.not_unpaired
    · exact ⟨j, u, cs, hj, hu, hs.encodes, hr⟩
  · intro items hs
    have henc := Encodes.iff_store.mpr ⟨items, hs, rfl, rfl⟩
    refine readRange_eq_ok_iff.mpr ⟨Nat.zero_le _, Nat.le_refl _, ?_⟩
    rwa [slice_whole]

/-- A range that cuts the second of two pairs, and the same pairs as they may be chosen. -/
theorem readRange_spec_cut_pair :
    (∃ i u cs, FirstUnpaired [0x61, 0xD83D, 0xDE00, 0xD83D, 0xDE00] 1 4 i ∧
      ([0x61, 0xD83D, 0xDE00, 0xD83D, 0xDE00] : Text)[i]? = some u ∧
      Encodes (slice [0x61, 0xD83D, 0xDE00, 0xD83D, 0xDE00] 1 i) cs ∧
      readRange [0x61, 0xD83D, 0xDE00, 0xD83D, 0xDE00] 1 4 = .ok (cs, some (.unpaired u i))) ∧
    readRange (store [(0x61, .pair), (0x1F600, .pair), (0x1F600, .unit)]) 0
        (store [(0x61, .pair), (0x1F600, .pair), (0x1F600, .unit)]).length =
      .ok ([0x61, 0x1F600, 0x1F600], none) :=
  ⟨(readRange_spec.1 [0x61, 0xD83D, 0xDE00, 0xD83D, 0xDE00] 1 4 (by decide) (by decide)).2.2
      ⟨3, by decide⟩,
    readRange_spec.2 [(0x61, .pair), (0x1F600, .pair), (0x1F600, .unit)] (by decide)⟩

end Text
end TypedText
