import TypedText.Proofs.Scans

/-!
# TypedText.Proofs.TrailingQuote

When a text ends inside a double quote, said of the places where a quote touches whitespace. A quote
before whitespace closes, a quote after whitespace opens, and the last such place decides. The walk meets
these places in the opposite order and compares each code point with the one it has just passed.

* `ClosesAt`, `OpensAt`, `LastTouch`: the places, by the index of the first of the two code points.
* `LastQuote`: what the last place says, if there is one.
* `lastQuote_walk`, `lastQuote_of`: the whole walk, by induction on the code points still ahead; among
  those already passed no quote touches whitespace.
* `insideQuoteOrAfterDigit_lastTouch`: the answer for a text.
-/

namespace TypedText
namespace TrailingContext

def quote : CodePoint := 0x22

/-- A double quote stands at index `k`, and whitespace behind it. -/
def ClosesAt (cs : List CodePoint) (k : Nat) : Prop :=
  cs[k]? = some quote ∧ ∃ d, cs[k + 1]? = some d ∧ d.isWhitespace = true

/-- Whitespace stands at index `k`, and a double quote behind it. -/
def OpensAt (cs : List CodePoint) (k : Nat) : Prop :=
  (∃ c, cs[k]? = some c ∧ c.isWhitespace = true) ∧ cs[k + 1]? = some quote

def TouchesAt (cs : List CodePoint) (k : Nat) : Prop :=
  ClosesAt cs k ∨ OpensAt cs k

/-- The greatest index at which a quote touches whitespace. -/
structure LastTouch (cs : List CodePoint) (k : Nat) : Prop where
  touches : TouchesAt cs k
  last : ∀ j, TouchesAt cs j → j ≤ k

/-- Whether the last quote that touches whitespace opens, if one touches it. -/
inductive LastQuote (cs : List CodePoint) : Option Bool → Prop where
  | closes {k : Nat} : LastTouch cs k → ClosesAt cs k → LastQuote cs (some false)
  | opens {k : Nat} : LastTouch cs k → OpensAt cs k → LastQuote cs (some true)
  | none : (∀ k, ¬ TouchesAt cs k) → LastQuote cs none

def EndsInDigit (cs : List CodePoint) : Prop :=
  cs.getLast?.any CodePoint.isDigit = true

variable {c : CodePoint} {cs s u : List CodePoint} {k : Nat}

theorem isQuote_iff : isQuote c = true ↔ c = quote := by
  rw [isQuote, beq_iff_eq]
  exact (@CodePoint.ext_iff c quote).symm

theorem isWhitespace_quote : quote.isWhitespace = false := by
  decide

theorem not_closesAt_of_opensAt (h : OpensAt cs k) : ¬ ClosesAt cs k := by
  rintro ⟨hquote, -⟩
  obtain ⟨⟨c, hc, hspace⟩, -⟩ := h
  rw [hquote] at hc
  cases hc
  rw [isWhitespace_quote] at hspace
  cases hspace

theorem getElem?_behind (n : Nat) : (s ++ u)[s.length + n]? = u[n]? := by
  rw [List.getElem?_append_right (Nat.le_add_right _ n), Nat.add_sub_cancel_left]

theorem closesAt_append : ClosesAt (s ++ u) (s.length + k) ↔ ClosesAt u k := by
  simp only [ClosesAt, Nat.add_assoc, getElem?_behind]

theorem opensAt_append : OpensAt (s ++ u) (s.length + k) ↔ OpensAt u k := by
  simp only [OpensAt, Nat.add_assoc, getElem?_behind]

theorem touchesAt_cons : TouchesAt (c :: s) (k + 1) ↔ TouchesAt s k :=
  Iff.rfl

theorem closesAt_zero_iff :
    ClosesAt (c :: s) 0 ↔ (isQuote c && s.head?.any CodePoint.isWhitespace) = true := by
  rw [Bool.and_eq_true, isQuote_iff]
  cases s with
  | nil => simp [ClosesAt]
  | cons d rest => simp [ClosesAt]

theorem opensAt_zero_iff :
    OpensAt (c :: s) 0 ↔ (c.isWhitespace && s.head?.any isQuote) = true := by
  rw [Bool.and_eq_true]
  cases s with
  | nil => simp [OpensAt]
  | cons d rest => simp [OpensAt, isQuote_iff]

/-- If no quote touches whitespace in `s`, then none does behind the place where `s` is joined on. -/
theorem lastTouch_join (hpassed : ∀ k, ¬ TouchesAt s k) (h : TouchesAt (u ++ c :: s) u.length) :
    LastTouch (u ++ c :: s) u.length := by
  refine ⟨h, fun j hj => Nat.le_of_not_lt fun hlt => ?_⟩
  obtain ⟨i, rfl⟩ : ∃ i, j = u.length + (i + 1) := ⟨j - u.length - 1, by omega⟩
  have hbehind : TouchesAt (c :: s) (i + 1) := hj.imp closesAt_append.mp opensAt_append.mp
  exact hpassed i (touchesAt_cons.mp hbehind)

/-- The walk has passed `s`, and `ahead` is still to come, nearest code point first. -/
theorem lastQuote_walk (ahead : List CodePoint) :
    ∀ s : List CodePoint, (∀ k, ¬ TouchesAt s k) →
      LastQuote (ahead.reverse ++ s) (lastQuoteOpens? s.head? ahead) := by
  induction ahead with
  | nil =>
    intro s hpassed
    exact .none hpassed
  | cons c rest ih =>
    intro s hpassed
    have hjoin : (c :: rest).reverse ++ s = rest.reverse ++ c :: s := by simp
    rw [hjoin, lastQuoteOpens?]
    by_cases hcloses : ClosesAt (c :: s) 0
    · have hhere : ClosesAt (rest.reverse ++ c :: s) rest.reverse.length := closesAt_append.mpr hcloses
      rw [if_pos (closesAt_zero_iff.mp hcloses)]
      exact .closes (lastTouch_join hpassed (.inl hhere)) hhere
    · rw [if_neg (mt closesAt_zero_iff.mpr hcloses)]
      by_cases hopens : OpensAt (c :: s) 0
      · have hhere : OpensAt (rest.reverse ++ c :: s) rest.reverse.length := opensAt_append.mpr hopens
        rw [if_pos (opensAt_zero_iff.mp hopens)]
        exact .opens (lastTouch_join hpassed (.inr hhere)) hhere
      · rw [if_neg (mt opensAt_zero_iff.mpr hopens)]
        apply ih (c :: s)
        intro k htouches
        cases k with
        | zero => exact htouches.elim hcloses hopens
        | succ k => exact hpassed k (touchesAt_cons.mp htouches)

theorem lastQuote_of (cs : List CodePoint) : LastQuote cs (lastQuoteOpens? none cs.reverse) := by
  have hnone : ∀ k, ¬ TouchesAt [] k := by
    intro k h
    simp [TouchesAt, ClosesAt, OpensAt] at h
  have hwalk := lastQuote_walk cs.reverse [] hnone
  rwa [List.reverse_reverse, List.append_nil, List.head?_nil] at hwalk

theorem startsWithQuote_iff : cs.head?.any isQuote = true ↔ cs.head? = some quote := by
  cases cs with
  | nil => simp
  | cons c rest => simp [isQuote_iff]

theorem insideQuote_eq (r : List CodePoint) :
    insideQuote r =
      (r.head?.any CodePoint.isDigit ||
        (lastQuoteOpens? none r).getD (r.getLast?.any isQuote)) := by
  cases r <;> rfl

theorem insideQuote_of_endsInDigit (h : EndsInDigit cs) : insideQuote cs.reverse = true := by
  rw [insideQuote_eq, List.head?_reverse, h, Bool.true_or]

theorem insideQuote_of_not_endsInDigit (h : ¬ EndsInDigit cs) :
    insideQuote cs.reverse = (lastQuoteOpens? none cs.reverse).getD (cs.head?.any isQuote) := by
  rw [insideQuote_eq, List.head?_reverse, List.getLast?_reverse, Bool.eq_false_iff.mpr h,
    Bool.false_or]

end TrailingContext

namespace Text

open TrailingContext

/-- **The last quote beside whitespace decides.** A text without code points does not end inside a quote,
and one that ends in a digit counts as if it did. Otherwise look for the last place where a double quote
touches whitespace: the text ends inside the quote exactly if that place opens it. If there is no such
place, it does so exactly if it starts with a double quote. -/
theorem insideQuoteOrAfterDigit_lastTouch {t : Text} (ht : t.Paired) :
    ∃ cs b, t.codePoints = .ok cs ∧ t.insideQuoteOrAfterDigit = .ok b ∧
      (cs = [] → b = false) ∧ (EndsInDigit cs → b = true) ∧
      (¬ EndsInDigit cs →
        (∃ k, LastTouch cs k ∧ (b = true ↔ OpensAt cs k) ∧ (b = false ↔ ClosesAt cs k)) ∨
          (∀ k, ¬ TouchesAt cs k) ∧ (b = true ↔ cs.head? = some quote)) := by
  obtain ⟨cs, hcs⟩ := paired_iff_encodes.mp ht
  refine ⟨cs, _, codePoints_eq_ok_iff.mpr hcs, insideQuoteOrAfterDigit_encoded hcs, ?_,
    insideQuote_of_endsInDigit, ?_⟩
  · rintro rfl
    rfl
  · intro hdigit
    have hquote := lastQuote_of cs
    rw [insideQuote_of_not_endsInDigit hdigit]
    generalize lastQuoteOpens? none cs.reverse = opens? at hquote
    cases hquote with
    | @closes k hlast hcloses =>
      have hopens : ¬ OpensAt cs k := fun h => not_closesAt_of_opensAt h hcloses
      exact .inl ⟨k, hlast, by simp [hopens], by simp [hcloses]⟩
    | @opens k hlast hopens =>
      have hcloses : ¬ ClosesAt cs k := not_closesAt_of_opensAt hopens
      exact .inl ⟨k, hlast, by simp [hopens], by simp [hcloses]⟩
    | none huntouched =>
      exact .inr ⟨huntouched, startsWithQuote_iff⟩

/-- A quote around a pair is closed, and another one opened behind the next space. -/
theorem insideQuoteOrAfterDigit_lastTouch_reopened :
    (Paired [0x22, 0xD83D, 0xDE00, 0x22, 0x20, 0x22, 0x61] ∧
      insideQuoteOrAfterDigit [0x22, 0xD83D, 0xDE00, 0x22, 0x20, 0x22, 0x61] = .ok true) ∧
    ∃ cs b, codePoints [0x22, 0xD83D, 0xDE00, 0x22, 0x20, 0x22, 0x61] = .ok cs ∧
      insideQuoteOrAfterDigit [0x22, 0xD83D, 0xDE00, 0x22, 0x20, 0x22, 0x61] = .ok b ∧
      (cs = [] → b = false) ∧ (EndsInDigit cs → b = true) ∧
      (¬ EndsInDigit cs →
        (∃ k, LastTouch cs k ∧ (b = true ↔ OpensAt cs k) ∧ (b = false ↔ ClosesAt cs k)) ∨
          (∀ k, ¬ TouchesAt cs k) ∧ (b = true ↔ cs.head? = some quote)) :=
  have hpaired : Paired [0x22, 0xD83D, 0xDE00, 0x22, 0x20, 0x22, 0x61] := by decide
  ⟨⟨hpaired, rfl⟩, insideQuoteOrAfterDigit_lastTouch hpaired⟩

end Text
end TypedText
