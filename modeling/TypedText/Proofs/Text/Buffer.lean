import TypedText.Proofs.Text.Numbers
import TypedText.Proofs.Unicode.CaseForms
import TypedText.Text.Buffer

/-!
# TypedText.Proofs.Text.Buffer

A buffer stays readable, whatever has been copied into it. A copy writes scalar values over the first cells
and leaves the others as they are, also when it fails midway, so no history puts anything else into a
buffer that has been filled with zeros (`readable_applyAll`). Nothing marks the end of what has been copied:
behind it the older cells can be read, up to the next zero.

* `overwrite_eq`, `copy_eq`: what a copy does to the cells.
* `Readable`: the size of the buffer and what its cells hold, which every step keeps (`readable_apply`).
* `readsAs_of_scalars`: what is read from such cells.
* `copies_readable`: any history, and what can be read right after another copy.
-/

namespace TypedText

namespace CodePoint

def copied (lower : Bool) (c : CodePoint) : CodePoint :=
  if lower then c.toLower else c

theorem isSurrogate_toLower {c : CodePoint} (hc : c.isSurrogate = false) :
    c.toLower.isSurrogate = false := by
  rw [toLower]
  cases h : Unicode.lowerForm c with
  | nil => exact hc
  | cons d rest =>
    have hd : d ∈ Unicode.lowerForm c := by simp [h]
    exact Unicode.isSurrogate_lowerForm hc hd

theorem isSurrogate_copied {lower : Bool} {c : CodePoint} (hc : c.isSurrogate = false) :
    (c.copied lower).isSurrogate = false := by
  cases lower with
  | false => exact hc
  | true => exact isSurrogate_toLower hc

end CodePoint

namespace Text

variable {t : Text} {start stop : Int} {lower : Bool} {cells numbers : List Int} {cs : List CodePoint}
  {fault? : Option TextError}

theorem overwrite_eq (numbers cells : List Int) :
    overwrite numbers cells = numbers.take cells.length ++ cells.drop numbers.length := by
  induction numbers generalizing cells with
  | nil => simp [overwrite]
  | cons n rest ih =>
    cases cells with
    | nil => simp [overwrite]
    | cons cell cells => simp [overwrite, ih]

theorem length_overwrite (numbers cells : List Int) :
    (overwrite numbers cells).length = cells.length := by
  rw [overwrite_eq, List.length_append, List.length_take, List.length_drop]
  omega

theorem readRange_scalars (h : t.readRange start stop = .ok (cs, fault?)) :
    ∀ c ∈ cs, c.isSurrogate = false := by
  rw [readRange] at h
  split at h
  · cases h
    obtain ⟨s, -, hencodes, -⟩ := read_spec .forward (t.slice start.toNat stop.toNat)
    exact hencodes.isSurrogate_eq_false
  · cases h

theorem buffer_copy (h : t.readRange start stop = .ok (cs, fault?)) :
    (t.copy start stop lower cells).buffer =
      overwrite (CodePoint.toInts (cs.map (CodePoint.copied lower))) cells := by
  have hnumbers : (cs.map fun c => if lower then (c.toLower.val : Int) else (c.val : Int)) =
      CodePoint.toInts (cs.map (CodePoint.copied lower)) := by
    rw [CodePoint.toInts, List.map_map]
    cases lower <;> rfl
  simp only [copy, h, hnumbers]

theorem buffer_copy_cases :
    (t.copy start stop lower cells).buffer = cells ∨
      ∃ cs fault?, t.readRange start stop = .ok (cs, fault?) ∧
        (t.copy start stop lower cells).buffer =
          overwrite (CodePoint.toInts (cs.map (CodePoint.copied lower))) cells := by
  cases h : t.readRange start stop with
  | error e => exact .inl (by simp only [copy, h])
  | ok r => exact .inr ⟨r.1, r.2, rfl, buffer_copy h⟩

/-- A copy succeeds on a range that can be read to its end and has no more code points than there are
cells. -/
theorem outcome_copy_eq_ok_iff {n : Nat} :
    (t.copy start stop lower cells).outcome = .ok n ↔
      ∃ cs, t.readRange start stop = .ok (cs, none) ∧ cs.length = n ∧ n ≤ cells.length := by
  cases h : t.readRange start stop with
  | error e => simp [copy, h]
  | ok r =>
    obtain ⟨cs, fault?⟩ := r
    cases fault? with
    | some e =>
      simp only [copy, h]
      split <;> simp
    | none =>
      simp only [copy, h, Except.ok.injEq, Prod.mk.injEq, and_true, exists_eq_left']
      split
      · simp; omega
      · simp; omega

/-- A copy that succeeds leaves the cells behind what it writes as they are. -/
theorem eq_append_drop_of_copy {n : Nat} {after : List Int}
    (h : t.copy start stop lower cells = ⟨.ok n, after⟩) :
    ∃ cs, t.readRange start stop = .ok (cs, none) ∧
      (CodePoint.toInts (cs.map (CodePoint.copied lower))).length = n ∧
      after = CodePoint.toInts (cs.map (CodePoint.copied lower)) ++ cells.drop n := by
  have hok : (t.copy start stop lower cells).outcome = .ok n := by rw [h]
  obtain ⟨cs, hread, hlen, hle⟩ := outcome_copy_eq_ok_iff.mp hok
  have hnumbers : (CodePoint.toInts (cs.map (CodePoint.copied lower))).length = n := by
    rw [CodePoint.length_toInts, List.length_map, hlen]
  have hbuffer : (t.copy start stop lower cells).buffer = _ := buffer_copy hread
  rw [h, overwrite_eq, hnumbers, List.take_of_length_le (hnumbers ▸ hle)] at hbuffer
  exact ⟨cs, hread, hnumbers, hbuffer⟩

end Text

/-- The size of a buffer and what its cells hold. -/
structure Readable (size : Nat) (cells : List Int) : Prop where
  size_eq : cells.length = size
  scalars : ∀ n ∈ cells, IsScalar n

namespace BufferStep

variable {size : Nat} {cells : List Int} {steps : List BufferStep}

theorem readable_zeros (size : Nat) : Readable size (List.replicate size 0) where
  size_eq := List.length_replicate
  scalars n hn := by
    rw [List.eq_of_mem_replicate hn]
    decide

theorem readable_apply (h : Readable size cells) (s : BufferStep) : Readable size (s.apply cells) := by
  cases s with
  | clear =>
    refine ⟨by rw [apply, List.length_map, h.size_eq], fun n hn => ?_⟩
    obtain ⟨-, -, rfl⟩ := List.mem_map.mp hn
    decide
  | copy t start stop lower =>
    rw [apply]
    rcases Text.buffer_copy_cases with hsame | ⟨cs, fault?, hread, hbuffer⟩
    · rw [hsame]
      exact h
    · -- a copy that stops midway has written scalar values too, so its outcome is not looked at
      rw [hbuffer]
      refine ⟨by rw [Text.length_overwrite, h.size_eq], fun n hn => ?_⟩
      rw [Text.overwrite_eq, List.mem_append] at hn
      rcases hn with hn | hn
      · have hcs : ∀ c ∈ cs.map (CodePoint.copied lower), c.isSurrogate = false := by
          rw [List.forall_mem_map]
          exact fun c hc => CodePoint.isSurrogate_copied (Text.readRange_scalars hread c hc)
        exact CodePoint.isScalar_toInts.mpr hcs n (List.mem_of_mem_take hn)
      · exact h.scalars n (List.mem_of_mem_drop hn)

theorem readable_applyAll : ∀ {cells : List Int}, Readable size cells →
    Readable size (applyAll cells steps) := by
  induction steps with
  | nil => intro cells h; exact h
  | cons s rest ih => intro cells h; exact ih (readable_apply h s)

end BufferStep

/-- The string read from the cells has these numbers as its units and as its code points. -/
def ReadsAs (cells numbers : List Int) : Prop :=
  ∃ s, Text.ofNullTerminated cells = .ok s ∧ CodePoint.toInts s = numbers ∧
    s.toCodePoints 0 s.length = .ok s

theorem readsAs_of_scalars {cells : List Int} (h : ∀ n ∈ cells, IsScalar n) :
    ReadsAs cells (cells.takeWhile (· ≠ 0)) := by
  have hread : ∀ n ∈ cells.takeWhile (· ≠ 0), IsScalar n := fun n hn =>
    h n (List.takeWhile_subset _ hn)
  obtain ⟨s, hs⟩ := CodePoint.exists_toInts hread
  rw [← hs] at hread
  have hself : Encodes s s := .self (CodePoint.isScalar_toInts.mp hread)
  refine ⟨s, ?_, hs, ?_⟩
  · rw [Text.ofNullTerminated, ← hs, CodePoint.ofInts_toInts]
  · rw [Text.toCodePoints_whole, Text.codePoints_eq_ok_iff]
    exact hself

theorem takeWhile_ne_zero_append (numbers rest : List Int) :
    (numbers ++ rest).takeWhile (· ≠ 0) =
      if 0 ∈ numbers then numbers.takeWhile (· ≠ 0) else numbers ++ rest.takeWhile (· ≠ 0) := by
  by_cases hzero : 0 ∈ numbers
  · rw [if_pos hzero, List.takeWhile_append, if_neg]
    -- had all the numbers been taken, the zero among them would have been
    intro hlen
    have hself := (List.takeWhile_sublist _).eq_of_length hlen
    have hall : (numbers.takeWhile (· ≠ 0)).all (· ≠ 0) := List.all_takeWhile
    rw [hself] at hall
    exact of_decide_eq_true (List.all_eq_true.mp hall 0 hzero) rfl
  · rw [if_neg hzero, List.takeWhile_append_of_pos]
    intro n hn
    exact decide_eq_true fun h => hzero (h ▸ hn)

/-- A buffer that has been filled with zeros keeps its size and can be read after any steps, whether its
copies succeed or not. Another copy that succeeds leaves the cells behind what it writes as they are, and
what is read then goes on into them unless a zero has been copied. -/
theorem copies_readable {size : Nat} {steps : List BufferStep} {cells : List Int}
    (h : BufferStep.applyAll (List.replicate size 0) steps = cells) :
    Readable size cells ∧ ReadsAs cells (cells.takeWhile (· ≠ 0)) ∧
      ∀ (t : Text) start stop lower n after, t.copy start stop lower cells = ⟨.ok n, after⟩ →
        ∃ cs numbers, t.readRange start stop = .ok (cs, none) ∧
          numbers = CodePoint.toInts (cs.map (CodePoint.copied lower)) ∧ numbers.length = n ∧
          after = numbers ++ cells.drop n ∧ after.drop n = cells.drop n ∧
          ReadsAs after
            (if 0 ∈ numbers then numbers.takeWhile (· ≠ 0)
              else numbers ++ (cells.drop n).takeWhile (· ≠ 0)) := by
  have hcells : Readable size cells := h ▸ BufferStep.readable_applyAll (BufferStep.readable_zeros size)
  refine ⟨hcells, readsAs_of_scalars hcells.scalars, fun t start stop lower n after hcopy => ?_⟩
  obtain ⟨cs, hread, hlen, hafter⟩ := Text.eq_append_drop_of_copy hcopy
  refine ⟨cs, _, hread, rfl, hlen, hafter, ?_, ?_⟩
  · rw [hafter, List.drop_left' hlen]
  · have hscalars : ∀ m ∈ after, IsScalar m := by
      have hstep := (BufferStep.readable_apply hcells (.copy t start stop lower)).scalars
      rwa [BufferStep.apply, hcopy] at hstep
    rw [← takeWhile_ne_zero_append, ← hafter]
    exact readsAs_of_scalars hscalars

/-- A copy too long for the three cells, one that fills them after they have been cleared and one that stops
at an unpaired surrogate. `É` in lower case is then read with the two cells behind it. -/
theorem copies_readable_left_behind :
    (BufferStep.applyAll (List.replicate 3 0)
        [.copy [0x61, 0x62, 0x63, 0x64] 0 4 false, .clear, .copy [0x61, 0x62, 0x1F600] 0 3 false,
          .copy [0x5A, 0xD800, 0x42] 0 3 true] = [0x7A, 0x62, 0x1F600] ∧
      Text.copy [0x20, 0xC9] 1 2 true [0x7A, 0x62, 0x1F600] = ⟨.ok 1, [0xE9, 0x62, 0x1F600]⟩) ∧
    Readable 3 [0x7A, 0x62, 0x1F600] ∧
    ∃ cs numbers, Text.readRange [0x20, 0xC9] 1 2 = .ok (cs, none) ∧
      numbers = CodePoint.toInts (cs.map (CodePoint.copied true)) ∧ numbers.length = 1 ∧
      [0xE9, 0x62, 0x1F600] = numbers ++ [0x62, 0x1F600] ∧
      ReadsAs [0xE9, 0x62, 0x1F600]
        (if 0 ∈ numbers then numbers.takeWhile (· ≠ 0) else numbers ++ [0x62, 0x1F600]) := by
  have hsteps : BufferStep.applyAll (List.replicate 3 0)
      [.copy [0x61, 0x62, 0x63, 0x64] 0 4 false, .clear, .copy [0x61, 0x62, 0x1F600] 0 3 false,
        .copy [0x5A, 0xD800, 0x42] 0 3 true] = [0x7A, 0x62, 0x1F600] := by decide
  have hcopy : Text.copy [0x20, 0xC9] 1 2 true [0x7A, 0x62, 0x1F600] =
      ⟨.ok 1, [0xE9, 0x62, 0x1F600]⟩ := rfl
  obtain ⟨hreadable, -, hafter⟩ := copies_readable hsteps
  obtain ⟨cs, numbers, hread, hnumbers, hlen, hcells, -, hreads⟩ := hafter _ _ _ _ _ _ hcopy
  exact ⟨⟨hsteps, hcopy⟩, hreadable, cs, numbers, hread, hnumbers, hlen, hcells, hreads⟩

end TypedText
