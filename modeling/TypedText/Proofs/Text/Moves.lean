import TypedText.Proofs.Text.Whole

/-!
# TypedText.Proofs.Text.Moves

Moving through a text by code points, forward and backward.

* `offset_add`: two moves one after the other are one move by the sum, whatever their directions, and
  the opposite of a move undoes it.
* `Text.readBack`: reading backward by single moves from an index to the start of the text.
* `readBack_eq_read`: these single moves are the backward reading of the units before the index, with
  the same fault where they cannot go on.
* `readBack_reverse`: backward and forward reading accept the same texts, and give the same code
  points in opposite order.
-/

namespace TypedText

namespace Spans

variable {t : Text} {i j k : Nat} {cs ds : List CodePoint} {c : CodePoint}

theorem lt (h : Spans t i j (c :: cs)) : i < j := by
  obtain ⟨k, hc, hcs⟩ := h.uncons
  have := hcs.le
  rcases hc.units_of_one with ⟨rfl, -⟩ | ⟨rfl, -⟩ <;> omega

theorem of_common_stop (h : Spans t i j cs) (h' : Spans t k j ds) (hlen : ds.length ≤ cs.length) :
    Spans t i k (cs.take (cs.length - ds.length)) := by
  rw [← List.take_append_drop (cs.length - ds.length) cs] at h
  obtain ⟨k', hfirst, hlast⟩ := h.split
  have hk : k' = k := hlast.start_unique h' (by rw [List.length_drop]; omega)
  rwa [hk] at hfirst

theorem of_common_start (h : Spans t i j cs) (h' : Spans t i k ds) (hlen : ds.length ≤ cs.length) :
    Spans t k j (cs.drop ds.length) := by
  rw [← List.take_append_drop ds.length cs] at h
  obtain ⟨k', hfirst, hlast⟩ := h.split
  have hk : k' = k := hfirst.stop_unique h' (by rw [List.length_take]; omega)
  rwa [hk] at hlast

end Spans

namespace Text

variable {t : Text} {i j k : Nat}

theorem offset_neg {n : Int} (h : t.offset i n = .ok j) : t.offset j (-n) = .ok i := by
  rw [offset_eq_ok_iff] at h ⊢
  rcases h with ⟨cs, hs, rfl⟩ | ⟨cs, hs, rfl⟩
  · exact .inr ⟨cs, hs, rfl⟩
  · exact .inl ⟨cs, hs, Int.neg_neg _⟩

/-- **Moves add up.** Two moves are one move by the sum of their counts, and moving back as far as
one has moved leads to the index one came from. -/
theorem offset_add {a : Int} (h : t.offset i a = .ok j) :
    (∀ (b : Int) (k : Nat), t.offset j b = .ok k → t.offset i (a + b) = .ok k) ∧
      t.offset j (-a) = .ok i := by
  refine ⟨?_, offset_neg h⟩
  intro b k h'
  rw [offset_eq_ok_iff] at h h' ⊢
  rcases h with ⟨cs, hs, rfl⟩ | ⟨cs, hs, rfl⟩ <;> rcases h' with ⟨ds, hs', rfl⟩ | ⟨ds, hs', rfl⟩
  · -- forward, then further on
    exact .inl ⟨cs ++ ds, hs.trans hs', by rw [List.length_append]; omega⟩
  · -- forward, then back: both stretches end at `j`
    rcases Nat.le_total ds.length cs.length with hlen | hlen
    · exact .inl ⟨_, hs.of_common_stop hs' hlen, by rw [List.length_take]; omega⟩
    · exact .inr ⟨_, hs'.of_common_stop hs hlen, by rw [List.length_take]; omega⟩
  · -- back, then forward: both stretches start at `j`
    rcases Nat.le_total ds.length cs.length with hlen | hlen
    · exact .inr ⟨_, hs.of_common_start hs' hlen, by rw [List.length_drop]; omega⟩
    · exact .inl ⟨_, hs'.of_common_start hs hlen, by rw [List.length_drop]; omega⟩
  · -- back, then further back
    exact .inr ⟨ds ++ cs, hs'.trans hs, by rw [List.length_append]; omega⟩

/-- Three code points on and two back, in a text that starts and ends with an unpaired surrogate. -/
theorem offset_add_malformed :
    (offset [0xDE00, 0x61, 0xD83D, 0xDE00, 0x62, 0xD83D] 1 3 = .ok 5 ∧
      offset [0xDE00, 0x61, 0xD83D, 0xDE00, 0x62, 0xD83D] 5 (-2) = .ok 2) ∧
    offset [0xDE00, 0x61, 0xD83D, 0xDE00, 0x62, 0xD83D] 1 (3 + -2) = .ok 2 ∧
    offset [0xDE00, 0x61, 0xD83D, 0xDE00, 0x62, 0xD83D] 5 (-3) = .ok 1 :=
  ⟨⟨rfl, rfl⟩, (offset_add rfl).1 (-2) 2 rfl, (offset_add rfl).2⟩

theorem offset_back_lt (h : t.offset i (-1) = .ok j) : j < i := by
  rcases offset_eq_ok_iff.mp h with ⟨cs, hs, hlen⟩ | ⟨cs, hs, hlen⟩
  · omega
  · cases cs with
    | nil => simp at hlen
    | cons c cs => exact hs.lt

/-- The code points before an index, read one at a time back to the start of the text, and what
stopped the reading if it did not get there. -/
def readBack (t : Text) (i : Nat) : List CodePoint × Option TextError :=
  if i = 0 then ([], none)
  else
    match t.codePointBefore i with
    | .error e => ([], some e)
    | .ok c =>
      match _h : t.offset i (-1) with
      | .error e => ([c], some e)
      | .ok j => (c :: (readBack t j).1, (readBack t j).2)
termination_by i
decreasing_by all_goals exact offset_back_lt _h

theorem readBack_zero (t : Text) : t.readBack 0 = ([], none) := by
  rw [readBack, if_pos rfl]

theorem readBack_step {c : CodePoint} (h : Spans t j i [c]) :
    t.readBack i = (c :: (t.readBack j).1, (t.readBack j).2) := by
  have hi : i ≠ 0 := by have := h.lt; omega
  have hoff : t.offset i (-1) = .ok j := offset_eq_ok_iff.mpr (.inr ⟨[c], h, rfl⟩)
  rw [readBack, if_neg hi, codePointBefore_eq_ok_iff.mpr ⟨j, h⟩]
  dsimp only
  split
  · rename_i e he; rw [hoff] at he; cases he
  · rename_i j' hj; rw [hoff] at hj; cases hj; rfl

theorem readBack_stuck {u : CodePoint} {rest : Text} (hi : i ≤ t.length)
    (hrev : (t.take i).reverse = u :: rest) (hstuck : split? .backward (u :: rest) = none) :
    t.readBack i = ([], some (.unpaired u rest.length)) := by
  have hlen := congrArg List.length hrev
  rw [List.length_reverse, List.length_take, Nat.min_eq_left hi, List.length_cons] at hlen
  have hi0 : i ≠ 0 := by omega
  have hrange : 0 < (i : Int) ∧ (i : Int) ≤ t.length := by omega
  have hindex : i - 1 = rest.length := by omega
  have hbefore : t.codePointBefore i = .error (.unpaired u rest.length) := by
    simp only [codePointBefore, if_pos hrange, Int.toNat_natCast, hrev, hstuck, hindex]
  rw [readBack, if_neg hi0, hbefore]

/-- Single moves back to the start are the backward reading of the units before the index, by
induction on the index. -/
theorem readBack_eq_read (t : Text) (i : Nat) (hi : i ≤ t.length) :
    t.readBack i =
      ((read .backward (t.take i).reverse).codePoints,
        (read .backward (t.take i).reverse).faultBackward?) := by
  induction i using Nat.strongRecOn with
  | _ i ih =>
    cases hsplit : split? .backward (t.take i).reverse with
    | none =>
      rw [read_stuck hsplit]
      cases hrev : (t.take i).reverse with
      | nil =>
        have hlen := congrArg List.length hrev
        rw [List.length_reverse, List.length_take, Nat.min_eq_left hi, List.length_nil] at hlen
        rw [hlen, readBack_zero]
        rfl
      | cons u rest =>
        rw [hrev] at hsplit
        rw [readBack_stuck hi hrev hsplit]
        rfl
    | some p =>
      obtain ⟨c, rest⟩ := p
      obtain ⟨us, hu, hus⟩ := split?_eq_some_iff.mp hsplit
      obtain ⟨hspans, hrest⟩ := Spans.of_take hus hi (.one hu)
      have hle : rest.length ≤ t.length := Nat.le_trans hspans.le hi
      rw [readBack_step hspans, read_step hsplit, ih _ hspans.lt hle, hrest]
      rfl

/-- **Backward is forward reversed.** Reading backward from the end gets to the start of the text
exactly if reading forward gets to its end, and what it gives is the reverse. -/
theorem readBack_reverse (t : Text) :
    ((t.readBack t.length).2 = none ↔ ∃ cs, t.readRange 0 t.length = .ok (cs, none)) ∧
      ∀ cs, t.readBack t.length = (cs.reverse, none) ↔ t.readRange 0 t.length = .ok (cs, none) := by
  have hback : ∀ cs, t.readBack t.length = (cs.reverse, none) ↔ Encodes t cs := by
    intro cs
    rw [readBack_eq_read t t.length (Nat.le_refl _), List.take_length, ← read_backward_eq_iff]
    cases read .backward t.reverse with
    | mk bs unread => cases unread <;> simp [Reading.faultBackward?]
  have hforward : ∀ cs, t.readRange 0 t.length = .ok (cs, none) ↔ Encodes t cs := by
    intro cs
    rw [readRange_whole, Except.ok.injEq, reading_eq_iff]
  refine ⟨⟨fun h => ?_, ?_⟩, fun cs => (hback cs).trans (hforward cs).symm⟩
  · refine ⟨(t.readBack t.length).1.reverse, (hforward _).mpr ((hback _).mp ?_)⟩
    rw [List.reverse_reverse, ← h]
  · rintro ⟨cs, h⟩
    rw [(hback cs).mpr ((hforward cs).mp h)]

end Text
end TypedText
