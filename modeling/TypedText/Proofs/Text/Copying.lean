import TypedText.Proofs.Text.Buffer

/-!
# TypedText.Proofs.Text.Copying

How far a copy into a buffer gets. It writes each code point into the next cell as soon as it has been read
(`copy_eq_fill`), so a buffer that is too small is noticed before an unpaired surrogate behind the code points
that would fill it, and not noticed when the surrogate comes first.

* `Text.fill`: the copy, one code point and one cell at a time.
* `copy_whole`: a copy that has the cells it needs.
* `getElem?_overwrite`: the cells after a copy, one by one.
* `copy_partial`: which cells are written and what is reported, for every buffer and range.
-/

namespace TypedText

def ReportsTooSmall {α : Type} (r : Except TextError α) : Prop :=
  ∃ size start stop, r = .error (.bufferTooSmall size start stop)

namespace BufferCopy

def cons (n : Int) (r : BufferCopy) : BufferCopy :=
  ⟨r.outcome.map (· + 1), n :: r.buffer⟩

/-- What a copy of `n` code points into `size` cells comes to, if it meets `fault?` behind them. -/
def ending (full : TextError) (fault? : Option TextError) (size n : Nat) : Except TextError Nat :=
  if size < n then .error full
  else
    match fault? with
    | some e => .error e
    | none => .ok n

theorem ending_succ (full : TextError) (fault? : Option TextError) (size n : Nat) :
    (ending full fault? size n).map (· + 1) = ending full fault? (size + 1) (n + 1) := by
  by_cases h : size < n
  · simp [ending, h, Except.map]
  · cases fault? <;> simp [ending, h, Except.map]

end BufferCopy

namespace Text

/-- Reads a code point and writes it into the next cell, until nothing is left to read, no code point starts
where the reading is, or there is no cell for the one that has been read. -/
def fill (lower : Bool) (full : TextError) (stop : Nat) (cells : List Int) (t : Text) : BufferCopy :=
  match t.split? .forward with
  | none =>
    match (⟨[], t⟩ : Reading).faultForward? stop with
    | some e => ⟨.error e, cells⟩
    | none => ⟨.ok 0, cells⟩
  | some (c, rest) =>
    match cells with
    | [] => ⟨.error full, []⟩
    | _ :: cells => (fill lower full stop cells rest).cons (c.copied lower).val

variable {t s rest : Text} {lower : Bool} {full : TextError} {stop : Nat} {cells : List Int}
  {cs : List CodePoint}

theorem fill_stuck (hstuck : t.split? .forward = none) :
    fill lower full stop cells t =
      ⟨BufferCopy.ending full ((⟨[], t⟩ : Reading).faultForward? stop) cells.length 0, cells⟩ := by
  rw [fill.eq_def, hstuck]
  cases h : (⟨[], t⟩ : Reading).faultForward? stop <;> simp [BufferCopy.ending]

/-- By induction on the code points that can be read: each takes the next cell, if there is one. -/
theorem fill_encoded (hs : Encodes s cs) (hstuck : split? .forward rest = none) :
    ∀ cells, fill lower full stop cells (s ++ rest) =
      ⟨BufferCopy.ending full ((⟨[], rest⟩ : Reading).faultForward? stop) cells.length cs.length,
        overwrite (CodePoint.toInts (cs.map (CodePoint.copied lower))) cells⟩ := by
  induction hs with
  | nil =>
    intro cells
    simp [fill_stuck hstuck, CodePoint.toInts, overwrite]
  | @cons us s c cs hu _ ih =>
    intro cells
    have hsplit := split?_eq_some_iff (d := .forward).mpr ⟨us, hu, List.append_assoc us s rest⟩
    rw [fill.eq_def, hsplit]
    cases cells with
    | nil => simp [BufferCopy.ending, CodePoint.toInts, overwrite]
    | cons cell cells =>
      dsimp only
      rw [ih cells, BufferCopy.cons, BufferCopy.ending_succ]
      rfl

theorem copy_eq {start stop : Int} {fault? : Option TextError}
    (h : t.readRange start stop = .ok (cs, fault?)) :
    t.copy start stop lower cells =
      ⟨BufferCopy.ending (.bufferTooSmall cells.length start stop) fault? cells.length cs.length,
        overwrite (CodePoint.toInts (cs.map (CodePoint.copied lower))) cells⟩ := by
  rw [← buffer_copy h]
  simp only [copy, h]
  rfl

theorem copy_whole (h : Encodes t cs) (hsize : cs.length ≤ cells.length) :
    t.copy 0 t.length lower cells =
      ⟨.ok cs.length, CodePoint.toInts (cs.map (CodePoint.copied lower)) ++ cells.drop cs.length⟩ := by
  have hread : t.readRange 0 t.length = .ok (cs, none) := by
    rw [readRange_whole, reading_eq_iff.mpr h]
  have hlen : (CodePoint.toInts (cs.map (CodePoint.copied lower))).length = cs.length := by
    rw [CodePoint.length_toInts, List.length_map]
  rw [copy_eq hread, BufferCopy.ending, if_neg (Nat.not_lt.mpr hsize), overwrite_eq, hlen,
    List.take_of_length_le (hlen ▸ hsize)]

theorem copy_eq_fill {a b : Nat} (hle : a ≤ b) (hlen : b ≤ t.length) :
    t.copy a b lower cells =
      fill lower (.bufferTooSmall cells.length a b) b cells (t.slice a b) := by
  rw [copy_eq (readRange_eq hle hlen)]
  obtain ⟨s, hs, he, hstuck⟩ := read_spec .forward (t.slice a b)
  generalize read .forward (t.slice a b) = r at hs he hstuck
  simp only [Direction.order_forward] at hs he
  rw [hs, fill_encoded he hstuck]
  rfl

theorem getElem?_overwrite (numbers cells : List Int) (k : Nat) :
    (overwrite numbers cells)[k]? =
      if k < min numbers.length cells.length then numbers[k]? else cells[k]? := by
  induction numbers generalizing cells k with
  | nil => simp [overwrite]
  | cons n rest ih =>
    cases cells with
    | nil => simp [overwrite]
    | cons cell cells =>
      cases k with
      | zero => simp [overwrite]
      | succ k =>
        simp only [overwrite, List.getElem?_cons_succ, ih, List.length_cons]
        congr 1
        simp

theorem copy_invalid {start stop : Int} (h : ¬ (0 ≤ start ∧ start ≤ stop ∧ stop ≤ t.length)) :
    t.copy start stop lower cells = ⟨.error (.invalidRange start stop t.length), cells⟩ := by
  have hvalid : t.validRange start stop = false := by
    simp only [validRange, Bool.and_eq_false_iff, decide_eq_false_iff_not]
    omega
  simp [copy, readRange, hvalid]

/-- What a copy of the code points `cs` leaves in the cells, and what it reports if the range has more than
those before its first unpaired surrogate. -/
structure CopiesAsFarAsFits (lower : Bool) (cs : List CodePoint) (unpaired : Prop) (cells : List Int)
    (r : BufferCopy) : Prop where
  written : ∀ k < min cs.length cells.length,
    r.buffer[k]? = cs[k]?.map fun c => ((c.copied lower).val : Int)
  kept : ∀ k, min cs.length cells.length ≤ k → r.buffer[k]? = cells[k]?
  tooSmall : ReportsTooSmall r.outcome ↔ cells.length < cs.length
  reportsUnpaired : ReportsUnpaired r.outcome ↔ cs.length ≤ cells.length ∧ unpaired
  succeeds : r.outcome = .ok cs.length ↔ cs.length ≤ cells.length ∧ ¬ unpaired

theorem copiesAsFarAsFits {start stop : Int} {fault? : Option TextError} {unpaired : Prop}
    (h : t.readRange start stop = .ok (cs, fault?))
    (hfault : fault? = none ∧ ¬ unpaired ∨ (∃ u i, fault? = some (.unpaired u i)) ∧ unpaired) :
    CopiesAsFarAsFits lower cs unpaired cells (t.copy start stop lower cells) := by
  have hlen : (CodePoint.toInts (cs.map (CodePoint.copied lower))).length = cs.length := by
    rw [CodePoint.length_toInts, List.length_map]
  rw [copy_eq h]
  generalize hnumbers : CodePoint.toInts (cs.map (CodePoint.copied lower)) = numbers at hlen
  have hwritten : ∀ k < min cs.length cells.length, (overwrite numbers cells)[k]? =
      cs[k]?.map fun c => ((c.copied lower).val : Int) := by
    intro k hk
    rw [getElem?_overwrite, hlen, if_pos hk, ← hnumbers, CodePoint.toInts, List.getElem?_map,
      List.getElem?_map, Option.map_map]
    rfl
  have hkept : ∀ k, min cs.length cells.length ≤ k → (overwrite numbers cells)[k]? = cells[k]? := by
    intro k hk
    rw [getElem?_overwrite, hlen, if_neg (by omega)]
  rcases Nat.lt_or_ge cells.length cs.length with hsize | hsize
  · -- the first code point without a cell ends the copy, whatever comes behind it
    have hle : ¬ cs.length ≤ cells.length := by omega
    have hending : ∀ full, BufferCopy.ending full fault? cells.length cs.length = .error full :=
      fun _ => if_pos hsize
    rw [hending]
    exact ⟨hwritten, hkept, by simp [ReportsTooSmall, hsize], by simp [ReportsUnpaired, hle],
      by simp [hle]⟩
  · have hlt : ¬ cells.length < cs.length := by omega
    rcases hfault with ⟨rfl, hpaired⟩ | ⟨⟨u, i, rfl⟩, hunpaired⟩
    · have hending : ∀ full, BufferCopy.ending full none cells.length cs.length = .ok cs.length :=
        fun _ => if_neg hlt
      rw [hending]
      exact ⟨hwritten, hkept, by simp [ReportsTooSmall, hlt], by simp [ReportsUnpaired, hpaired],
        by simp [hsize, hpaired]⟩
    · have hending : ∀ full, BufferCopy.ending full (some (.unpaired u i)) cells.length cs.length =
          .error (.unpaired u i) := fun _ => if_neg hlt
      rw [hending]
      exact ⟨hwritten, hkept, by simp [ReportsTooSmall, hlt],
        by simp [ReportsUnpaired, hsize, hunpaired], by simp [hunpaired]⟩

/-- **How far a copy gets**, for any buffer and any range. -/
theorem copy_partial (t : Text) (start stop : Int) (lower : Bool) (cells : List Int) :
    (t.copy start stop lower cells).buffer.length = cells.length ∧
    (¬ (0 ≤ start ∧ start ≤ stop ∧ stop ≤ t.length) →
      t.copy start stop lower cells = ⟨.error (.invalidRange start stop t.length), cells⟩) ∧
    ∀ a b : Nat, start = a → stop = b → a ≤ b → b ≤ t.length →
      t.copy start stop lower cells =
        fill lower (.bufferTooSmall cells.length start stop) b cells (t.slice a b) ∧
      ∃ i cs, t.ReadsUpTo a b i cs ∧
        CopiesAsFarAsFits lower cs (∃ j, t.Unpaired a b j) cells
          (t.copy start stop lower cells) := by
  refine ⟨?_, copy_invalid, ?_⟩
  · rcases buffer_copy_cases with hsame | ⟨cs, fault?, -, hbuffer⟩
    · rw [hsame]
    · rw [hbuffer, length_overwrite]
  · rintro a b rfl rfl hle hlen
    obtain ⟨i, cs, fault?, hupTo, hread, hfault⟩ := exists_readsUpTo hle hlen
    exact ⟨copy_eq_fill hle hlen, i, cs, hupTo, copiesAsFarAsFits hread hfault⟩

/-- A range that starts before the text, and one with half of a pair for its third unit: two of the three cells
are written. -/
theorem copy_partial_half :
    copy [0xC9, 0x5A, 0xDC00, 0x42] (-1) 2 true [7, 7, 7] =
      ⟨.error (.invalidRange (-1) 2 4), [7, 7, 7]⟩ ∧
    copy [0xC9, 0x5A, 0xDC00, 0x42] 0 4 true [7, 7, 7] =
      ⟨.error (.unpaired 0xDC00 2), [0xE9, 0x7A, 7]⟩ ∧
    ∃ i cs, ReadsUpTo [0xC9, 0x5A, 0xDC00, 0x42] 0 4 i cs ∧
      CopiesAsFarAsFits true cs (∃ j, Unpaired [0xC9, 0x5A, 0xDC00, 0x42] 0 4 j) [7, 7, 7]
        ⟨.error (.unpaired 0xDC00 2), [0xE9, 0x7A, 7]⟩ := by
  obtain ⟨-, hinvalid, -⟩ :=
    copy_partial [0xC9, 0x5A, 0xDC00, 0x42] (-1) 2 true [7, 7, 7]
  obtain ⟨-, -, hvalid⟩ := copy_partial [0xC9, 0x5A, 0xDC00, 0x42] 0 4 true [7, 7, 7]
  exact ⟨hinvalid (by decide), rfl, (hvalid 0 4 rfl rfl (by decide) (by decide)).2⟩

end Text
end TypedText
