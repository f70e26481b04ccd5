import TypedText.Proofs.TrailingQuote
import TypedText.Proofs.Unicode.FixedForms
import TypedText.Proofs.UrlReach

/-!
# TypedText.Proofs.TrailingReach

How far back the two walks look, in any text. Neither reads more than it needs for its answer, so an
unpaired surrogate matters only where the walk would have to read past it, and what stands farther back
does not matter at all.

* `touches_encoded`: where a quote touches whitespace can be seen from the units as they are stored, as
  neither is ever stored as a pair.
* `insideQuoteOrAfterDigit_read`: the walk for quotes answers from the code points behind the last
  unpaired surrogate, as far as these decide.
* `trailingContext_reach`: when each walk reports an unpaired surrogate, which one, and what may be put
  in the place of the text before.
-/

namespace TypedText
namespace TrailingContext

variable {c : CodePoint} {cs s t : List CodePoint}

theorem isWhitespace_le (h : c.isWhitespace = true) : c.val ≤ 0x3000 := by
  simp only [CodePoint.isWhitespace, CodePoint.isWhitespaceControl, Bool.or_eq_true, Bool.and_eq_true,
    decide_eq_true_eq] at h
  rcases h with h | ⟨-, hmem⟩
  · omega
  · refine Nat.le_of_not_lt fun hlt => ?_
    -- no separator lies behind the last one
    have hout : Unicode.Run.disjoint Unicode.separators [⟨0x3001, 0x10FFFF, 1⟩] = true := by decide
    have hnone := Unicode.Run.mem_eq_false_of_disjoint hout hmem
    have hlast := c.isLt
    simp only [Unicode.Run.mem, Unicode.Run.contains] at hnone
    simp at hnone
    omega

theorem isQuote_le (h : isQuote c = true) : c.val ≤ 0x3000 := by
  rw [isQuote_iff.mp h]
  decide

/-- A test that only code points up to `0x3000` pass sees the same at the start of a text and of what the
text encodes. -/
theorem head?_any_encoded {p : CodePoint → Bool} (hp : ∀ c, p c = true → c.val ≤ 0x3000)
    (h : Encodes t cs) : t.head?.any p = cs.head?.any p := by
  cases h with
  | nil => rfl
  | @cons us t c cs hu ht =>
    cases hu with
    | unit _ => rfl
    | pair hc =>
      have hpair : p c = false := by
        rw [Bool.eq_false_iff]
        intro hpass
        have := hp c hpass
        omega
      have hhigh : p c.high = false := by
        rw [Bool.eq_false_iff]
        intro hpass
        have := hp c.high hpass
        have := (CodePoint.isHigh_iff.mp (CodePoint.isHigh_high c)).1
        omega
      simp [hpair, hhigh]

theorem exists_touches_cons :
    (∃ k, TouchesAt (c :: s) k) ↔ TouchesAt (c :: s) 0 ∨ ∃ k, TouchesAt s k := by
  constructor
  · rintro ⟨k, h⟩
    cases k with
    | zero => exact .inl h
    | succ k => exact .inr ⟨k, touchesAt_cons.mp h⟩
  · rintro (h | ⟨k, h⟩)
    · exact ⟨0, h⟩
    · exact ⟨k + 1, touchesAt_cons.mpr h⟩

theorem touchesAt_zero_iff :
    TouchesAt (c :: s) 0 ↔
      (isQuote c && s.head?.any CodePoint.isWhitespace) = true ∨
        (c.isWhitespace && s.head?.any isQuote) = true := by
  rw [TouchesAt, closesAt_zero_iff, opensAt_zero_iff]

theorem not_touchesAt_zero (h : 0x3000 < c.val) : ¬ TouchesAt (c :: s) 0 := by
  rw [touchesAt_zero_iff, Bool.and_eq_true, Bool.and_eq_true]
  rintro (⟨hquote, -⟩ | ⟨hspace, -⟩)
  · have := isQuote_le hquote
    omega
  · have := isWhitespace_le hspace
    omega

/-- A quote touches whitespace among the units of a text exactly if it does among its code points, as
neither is ever stored as a pair. -/
theorem touches_encoded (h : Encodes t cs) : (∃ k, TouchesAt t k) ↔ ∃ k, TouchesAt cs k := by
  induction h with
  | nil => rfl
  | @cons us t c cs hu ht ih =>
    cases hu with
    | unit _ =>
      rw [List.singleton_append, exists_touches_cons, exists_touches_cons, touchesAt_zero_iff,
        touchesAt_zero_iff, head?_any_encoded (fun _ => isWhitespace_le) ht,
        head?_any_encoded (fun _ => isQuote_le) ht, ih]
    | pair hc =>
      have hhigh := (CodePoint.isHigh_iff.mp (CodePoint.isHigh_high c)).1
      have hlow := (CodePoint.isLow_iff.mp (CodePoint.isLow_low c)).1
      have hunits : (∃ k, TouchesAt (c.high :: c.low :: t) k) ↔ ∃ k, TouchesAt t k := by
        rw [exists_touches_cons, exists_touches_cons]
        simp only [not_touchesAt_zero (show 0x3000 < c.high.val by omega),
          not_touchesAt_zero (show 0x3000 < c.low.val by omega), false_or]
      have hpoints : (∃ k, TouchesAt (c :: cs) k) ↔ ∃ k, TouchesAt cs k := by
        rw [exists_touches_cons]
        simp only [not_touchesAt_zero (show 0x3000 < c.val by omega), false_or]
      rw [hpoints, ← ih]
      exact hunits

theorem lastQuoteOpens?_eq_none_iff (cs : List CodePoint) :
    lastQuoteOpens? none cs.reverse = none ↔ ∀ k, ¬ TouchesAt cs k := by
  have hquote := lastQuote_of cs
  generalize lastQuoteOpens? none cs.reverse = opens? at hquote
  cases hquote with
  | closes hlast _ => simpa using ⟨_, hlast.touches⟩
  | opens hlast _ => simpa using ⟨_, hlast.touches⟩
  | none huntouched => simpa using huntouched

theorem lastQuoteOpens?_append {next : Option CodePoint} {b : Bool}
    (h : lastQuoteOpens? next s = some b) (more : List CodePoint) :
    lastQuoteOpens? next (s ++ more) = some b := by
  induction s generalizing next with
  | nil => cases h
  | cons c rest ih =>
    simp only [List.cons_append, lastQuoteOpens?] at h ⊢
    split at h
    · rename_i hcloses
      rw [if_pos hcloses, h]
    · rename_i hcloses
      rw [if_neg hcloses]
      split at h
      · rename_i hopens
        rw [if_pos hopens, h]
      · rename_i hopens
        rw [if_neg hopens]
        exact ih h

end TrailingContext

namespace Text

open TrailingContext

variable {t p s unread : Text} {c : CodePoint} {cs : List CodePoint} {e : TextError}

/-- The text ends with the units of a digit. -/
def EndsWithDigit (t : Text) : Prop :=
  ∃ x p c, t = x ++ p ∧ Stores p c ∧ c.isDigit = true

theorem endsWithDigit_iff (h : read .backward t.reverse = ⟨cs.reverse, unread⟩) :
    EndsWithDigit t ↔ EndsInDigit cs := by
  have hlast : cs.getLast? = (read .backward t.reverse).codePoints.head? := by
    rw [h, List.head?_reverse]
  rw [EndsInDigit, hlast]
  constructor
  · rintro ⟨x, p, c, rfl, hp, hdigit⟩
    rw [read_reverse_append x (.one hp)]
    exact hdigit
  · intro hdigit
    rw [read_eq] at hdigit
    cases hsplit : split? .backward t.reverse with
    | none => simp [hsplit] at hdigit
    | some q =>
      obtain ⟨c, rest⟩ := q
      rw [← List.reverse_reverse rest] at hsplit
      obtain ⟨p, hp, ht⟩ := split?_reverse_eq_some_iff.mp hsplit
      rw [hsplit] at hdigit
      exact ⟨_, p, c, ht, hp, hdigit⟩

/-- The walk answers from the code points that can be read backward, as far as these decide. -/
theorem insideQuoteOrAfterDigit_read (h : read .backward t.reverse = ⟨cs.reverse, unread⟩) :
    (EndsInDigit cs → t.insideQuoteOrAfterDigit = .ok true) ∧
      (¬ EndsInDigit cs →
        t.insideQuoteOrAfterDigit =
          Reading.verdict (Reading.faultBackward? ⟨cs.reverse, unread⟩)
            (lastQuoteOpens? none cs.reverse) (cs.head?.any isQuote)) := by
  have hend : cs.getLast? = cs.reverse.head? := List.head?_reverse.symm
  have hstart : cs.head? = cs.reverse.getLast? := List.getLast?_reverse.symm
  unfold EndsInDigit insideQuoteOrAfterDigit
  simp only [h, hend, hstart]
  cases cs.reverse with
  | nil => simp [lastQuoteOpens?]
  | cons c rest => cases hdigit : c.isDigit <;> simp [hdigit]

theorem insideQuoteOrAfterDigit_eq_error_iff :
    t.insideQuoteOrAfterDigit = .error e ↔
      ∃ i u, t.LastUnpaired i ∧ t[i]? = some u ∧ e = .unpaired u i ∧ ¬ EndsWithDigit t ∧
        ∀ k, ¬ TouchesAt (t.drop (i + 1)) k := by
  rcases t.read_backward_cases with ⟨cs, hcs, hread⟩ | ⟨x, u, s, cs, ht, hcs, hlast, hread⟩
  · rw [insideQuoteOrAfterDigit_encoded hcs]
    refine ⟨fun h => (by cases h), ?_⟩
    rintro ⟨i, u, hi, -⟩
    exact absurd hi.1 (paired_iff_encodes.mpr ⟨cs, hcs⟩ i)
  · obtain ⟨hafter, hinside⟩ := insideQuoteOrAfterDigit_read hread
    have huntouched : (∀ k, ¬ TouchesAt s k) ↔ lastQuoteOpens? none cs.reverse = none := by
      rw [lastQuoteOpens?_eq_none_iff, ← not_exists, ← not_exists, touches_encoded hcs]
    have hunit : t[x.length]? = some u := by simp [ht]
    have hbehind : t.drop (x.length + 1) = s := by simp [ht]
    by_cases hdigit : EndsInDigit cs
    · rw [hafter hdigit]
      refine ⟨fun h => (by cases h), ?_⟩
      rintro ⟨-, -, -, -, -, hno, -⟩
      exact absurd ((endsWithDigit_iff hread).mpr hdigit) hno
    · have hno := mt (endsWithDigit_iff hread).mp hdigit
      rw [hinside hdigit]
      constructor
      · intro h
        cases hopens : lastQuoteOpens? none cs.reverse with
        | some b => simp [hopens, Reading.verdict] at h
        | none =>
          simp only [hopens, Reading.verdict, Reading.faultBackward?, List.length_reverse,
            Except.error.injEq] at h
          refine ⟨x.length, u, hlast, hunit, h.symm, hno, ?_⟩
          rw [hbehind]
          exact huntouched.mpr hopens
      · rintro ⟨i, v, hi, hv, rfl, -, hk⟩
        obtain rfl : i = x.length := Nat.le_antisymm (hlast.2 i hi.1) (hi.2 x.length hlast.1)
        obtain rfl : u = v := Option.some.inj (hunit.symm.trans hv)
        rw [hbehind] at hk
        simp [huntouched.mp hk, Reading.verdict, Reading.faultBackward?]

theorem insideQuoteOrAfterDigit_of_digit (hp : Stores p c) (hdigit : c.isDigit = true) (x : Text) :
    insideQuoteOrAfterDigit (x ++ p) = .ok true := by
  have hends : EndsWithDigit (x ++ p) := ⟨x, p, c, rfl, hp, hdigit⟩
  have hread : read .backward (x ++ p).reverse =
      ⟨(read .backward (x ++ p).reverse).codePoints.reverse.reverse,
        (read .backward (x ++ p).reverse).unread⟩ := by
    rw [List.reverse_reverse]
  exact (insideQuoteOrAfterDigit_read hread).1 ((endsWithDigit_iff hread).mp hends)

/-- A part that can be read by itself and in which a quote touches whitespace decides alone. -/
theorem insideQuoteOrAfterDigit_of_touches (hs : s.Paired) (htouches : ∃ k, TouchesAt s k) :
    ∃ b, ∀ x : Text, insideQuoteOrAfterDigit (x ++ s) = .ok b := by
  obtain ⟨cs, hcs⟩ := paired_iff_encodes.mp hs
  rw [touches_encoded hcs] at htouches
  obtain ⟨b, hopens⟩ : ∃ b, lastQuoteOpens? none cs.reverse = some b := by
    rw [← Option.ne_none_iff_exists', ne_eq, lastQuoteOpens?_eq_none_iff]
    simpa using htouches
  have hne : cs ≠ [] := by
    rintro rfl
    cases hopens
  refine ⟨cs.getLast?.any CodePoint.isDigit || b, fun x => ?_⟩
  have hread : read .backward (x ++ s).reverse =
      ⟨((read .backward x.reverse).codePoints.reverse ++ cs).reverse,
        (read .backward x.reverse).unread⟩ := by
    rw [read_reverse_append x hcs, List.reverse_append, List.reverse_reverse]
  obtain ⟨hafter, hinside⟩ := insideQuoteOrAfterDigit_read hread
  have hlast : EndsInDigit ((read .backward x.reverse).codePoints.reverse ++ cs) ↔
      EndsInDigit cs := by
    obtain ⟨ds, d, rfl⟩ : ∃ ds d, cs = ds ++ [d] := ⟨_, _, (List.dropLast_concat_getLast hne).symm⟩
    simp [EndsInDigit]
  by_cases hdigit : EndsInDigit cs
  · rw [hafter (hlast.mpr hdigit), hdigit, Bool.true_or]
  · rw [hinside (mt hlast.mp hdigit), List.reverse_append, lastQuoteOpens?_append hopens,
      Bool.eq_false_iff.mpr hdigit, Bool.false_or]
    rfl

/-- **The walks read no more than they need.** The first one reports an unpaired surrogate exactly if it
stands directly before the last part and that part holds no two slashes side by side; if it answers,
what is before the code point that precedes the part does not matter. The second one reports the last
unpaired surrogate of the text exactly if no digit ends the text and no quote touches whitespace behind
that surrogate; behind a digit, and behind a quote that touches whitespace in a part that can be read by
itself, what is before does not matter. -/
theorem trailingContext_reach :
    (∀ t before part : Text, LastPart inUrlRange t before part →
      (∀ e, t.looksLikeUrl = .error e ↔
        ¬ [slash, slash] <:+: part ∧
          ∃ x u, before = x ++ [u] ∧ t.Unpaired 0 t.length x.length ∧ e = .unpaired u x.length) ∧
      ∀ x p b, before = x ++ p →
        ((∃ c, Stores p c) ∨ ∃ u, p = [u] ∧ t.Unpaired 0 t.length x.length) →
        t.looksLikeUrl = .ok b → ∀ other : Text, looksLikeUrl (other ++ (p ++ part)) = .ok b) ∧
    (∀ (t : Text) (e : TextError), t.insideQuoteOrAfterDigit = .error e ↔
      ∃ i u, t.LastUnpaired i ∧ t[i]? = some u ∧ e = .unpaired u i ∧ ¬ EndsWithDigit t ∧
        ∀ k, ¬ TouchesAt (t.drop (i + 1)) k) ∧
    (∀ p c, Stores p c → c.isDigit = true →
      ∀ x : Text, insideQuoteOrAfterDigit (x ++ p) = .ok true) ∧
    ∀ s : Text, s.Paired → (∃ k, TouchesAt s k) →
      ∃ b, ∀ x : Text, insideQuoteOrAfterDigit (x ++ s) = .ok b := by
  refine ⟨fun t before part h => ⟨fun e => looksLikeUrl_eq_error_iff h, ?_⟩, ?_, ?_, ?_⟩
  · rintro x p b rfl hp hok other
    exact looksLikeUrl_replace h hp hok other
  · exact fun t e => insideQuoteOrAfterDigit_eq_error_iff
  · exact fun p c hp hdigit => insideQuoteOrAfterDigit_of_digit hp hdigit
  · exact fun s hs => insideQuoteOrAfterDigit_of_touches hs

/-- A path behind an unpaired surrogate, one behind a pair and a period, a letter behind an unpaired
surrogate, a digit stored as a pair, and a quote behind a space. -/
theorem trailingContext_reach_malformed :
    (LastPart inUrlRange [0x20, 0xDE00, 0x2F, 0x75] [0x20, 0xDE00] [0x2F, 0x75] ∧
      looksLikeUrl [0x20, 0xDE00, 0x2F, 0x75] = .error (.unpaired 0xDE00 1)) ∧
    (LastPart inUrlRange [0xD83D, 0xDE00, 0x2F, 0x2E] [0xD83D, 0xDE00] [0x2F, 0x2E] ∧
      ∀ other : Text, looksLikeUrl (other ++ [0xD83D, 0xDE00, 0x2F, 0x2E]) = .ok true) ∧
    (insideQuoteOrAfterDigit [0x22, 0x20, 0xD83D, 0x61] = .error (.unpaired 0xD83D 2) ∧
      ∃ i u, LastUnpaired [0x22, 0x20, 0xD83D, 0x61] i ∧
        ([0x22, 0x20, 0xD83D, 0x61] : Text)[i]? = some u ∧
        TextError.unpaired 0xD83D 2 = .unpaired u i ∧ ¬ EndsWithDigit [0x22, 0x20, 0xD83D, 0x61] ∧
        ∀ k, ¬ TouchesAt (List.drop (i + 1) [0x22, 0x20, 0xD83D, 0x61]) k) ∧
    (∀ x : Text, insideQuoteOrAfterDigit (x ++ [0xD835, 0xDFCE]) = .ok true) ∧
    Paired [0x20, 0x22, 0x61] ∧
      ∃ b, ∀ x : Text, insideQuoteOrAfterDigit (x ++ [0x20, 0x22, 0x61]) = .ok b := by
  obtain ⟨hurl, hquote, hdigit, htouches⟩ := trailingContext_reach
  have hpath : LastPart inUrlRange [0x20, 0xDE00, 0x2F, 0x75] [0x20, 0xDE00] [0x2F, 0x75] :=
    lastPart_iff.mpr ⟨rfl, by decide, by decide⟩
  have hpair : LastPart inUrlRange [0xD83D, 0xDE00, 0x2F, 0x2E] [0xD83D, 0xDE00] [0x2F, 0x2E] :=
    lastPart_iff.mpr ⟨rfl, by decide, by decide⟩
  have hface : Stores [0xD83D, 0xDE00] 0x1F600 := Stores.pair (c := 0x1F600) (by decide)
  have hzero : Stores [0xD835, 0xDFCE] 0x1D7CE := Stores.pair (c := 0x1D7CE) (by decide)
  have hpaired : Paired [0x20, 0x22, 0x61] := by decide
  refine ⟨⟨hpath, ?_⟩, ⟨hpair, ?_⟩, ⟨rfl, ?_⟩, ?_, hpaired, ?_⟩
  · exact ((hurl _ _ _ hpath).1 _).mpr ⟨by decide, [0x20], 0xDE00, rfl, by decide, rfl⟩
  · exact (hurl _ _ _ hpair).2 [] [0xD83D, 0xDE00] true rfl (.inl ⟨_, hface⟩) rfl
  · exact (hquote _ _).mp rfl
  · exact hdigit _ _ hzero (by decide +kernel)
  · exact htouches _ hpaired ⟨0, .inr ⟨⟨0x20, rfl, by decide +kernel⟩, rfl⟩⟩

end Text
end TypedText
