import TypedText.Proofs.Text.Backward
import TypedText.Proofs.TrailingUrl

/-!
# TypedText.Proofs.UrlReach

How far back the walk over the last part of a text looks, in any text. The code points in the range of
URL-like ones are stored as themselves, so the walk reads the whole part before it can meet an unpaired
surrogate, and it does not get farther than the code point that precedes the part.

* `lastPart_iff`: the last part by what stands directly before it.
* `looksLikeUrl_of_lastPart`: the walk over the part, and what is left of it.
* `looksLikeUrl_cases`: a part without two slashes side by side makes the walk look at what precedes it:
  at nothing, at one code point, or at an unpaired surrogate.
* `looksLikeUrl_eq_error_iff`, `looksLikeUrl_replace`: when the walk reports a surrogate, and what may be
  put in the place of the text before.
-/

namespace TypedText
namespace TrailingContext

variable {test : CodePoint → Bool} {c : CodePoint} {cs before part : List CodePoint}

/-- A stretch at the end whose members pass, while what precedes it does not, is the longest one. -/
theorem lastPart_iff :
    LastPart test cs before part ↔
      cs = before ++ part ∧ (∀ c ∈ part, test c = true) ∧
        ∀ c ∈ before.getLast?, test c = false := by
  constructor
  · intro h
    refine ⟨h.split, h.passes, fun c hc => ?_⟩
    obtain ⟨y, rfl⟩ := List.getLast?_eq_some_iff.mp hc
    rw [Bool.eq_false_iff]
    intro htest
    have hsuffix : c :: part <:+ cs := ⟨y, by rw [h.split]; simp⟩
    have hlong := h.longest _ hsuffix (List.forall_mem_cons.mpr ⟨htest, h.passes⟩)
    rw [List.length_cons] at hlong
    omega
  · rintro ⟨rfl, hpass, hlast⟩
    refine ⟨rfl, hpass, fun s hs hspass => ?_⟩
    rcases List.suffix_or_suffix_of_suffix hs (List.suffix_append before part) with hin | ⟨y, rfl⟩
    · exact hin.length_le
    · obtain ⟨z, hz⟩ := hs
      rw [← List.append_assoc, List.append_cancel_right_eq] at hz
      cases hy : y.getLast? with
      | none =>
        rw [List.getLast?_eq_none_iff] at hy
        simp [hy]
      | some d =>
        -- a longer stretch would take in the code point before the part
        have hd : before.getLast? = some d := by rw [← hz, List.getLast?_append, hy]; rfl
        have htest := hspass d (List.mem_append_left part (List.mem_of_getLast? hy))
        rw [hlast d hd] at htest
        cases htest

/-- The part stays the last one when what is before the code point that precedes it is replaced. -/
theorem LastPart.replace {x p : List CodePoint} (h : LastPart test cs (x ++ p) part) (hp : p ≠ [])
    (other : List CodePoint) : LastPart test (other ++ (p ++ part)) (other ++ p) part := by
  obtain ⟨-, hpass, hlast⟩ := lastPart_iff.mp h
  obtain ⟨y, d, rfl⟩ : ∃ y d, p = y ++ [d] := ⟨_, _, (List.dropLast_concat_getLast hp).symm⟩
  refine lastPart_iff.mpr ⟨by simp, hpass, ?_⟩
  simpa using hlast

theorem isSurrogate_of_inUrlRange (h : inUrlRange c = true) : c.isSurrogate = false := by
  simp only [inUrlRange, Bool.and_eq_true, decide_eq_true_eq] at h
  rw [Bool.eq_false_iff, ne_eq, CodePoint.isSurrogate_iff]
  omega

theorem LastPart.encodes (h : LastPart inUrlRange cs before part) : Encodes part part :=
  .self fun c hc => isSurrogate_of_inUrlRange (h.passes c hc)

theorem LastPart.not_inUrlRange {x p : List CodePoint} (h : LastPart inUrlRange cs (x ++ p) part)
    (hp : Stores p c) : inUrlRange c = false := by
  cases hp with
  | unit _ => exact (lastPart_iff.mp h).2.2 c (by simp)
  | pair hc =>
    simp only [inUrlRange, Bool.and_eq_false_iff, decide_eq_false_iff_not]
    omega

/-- The outcome of a walk over code points that `fault?` cut short, if anything did. -/
def UrlWalk.outcome (fault? : Option TextError) : UrlWalk → Except TextError Bool
  | .doubleSlash => .ok true
  | .precededBy c run => .ok (run.looksLikeUrl c.isWhitespace)
  | .atStart run => Reading.verdict fault? none (run.looksLikeUrl true)

end TrailingContext

namespace Text

open TrailingContext

variable {t before part x p : Text} {c : CodePoint} {e : TextError}

theorem looksLikeUrl_eq_outcome (t : Text) :
    t.looksLikeUrl =
      (UrlWalk.ofReversed (.of []) (read .backward t.reverse).codePoints).outcome
        (read .backward t.reverse).faultBackward? := by
  unfold looksLikeUrl
  simp only [show UrlRun.empty = UrlRun.of [] from rfl]
  cases UrlWalk.ofReversed (.of []) (read .backward t.reverse).codePoints <;> rfl

/-- Two slashes side by side end the walk in the last part, and nothing else does. -/
theorem looksLikeUrl_of_lastPart (h : LastPart inUrlRange t before part) :
    ([slash, slash] <:+: part ∧ t.looksLikeUrl = .ok true) ∨
      ¬ [slash, slash] <:+: part ∧
        t.looksLikeUrl =
          (UrlWalk.ofReversed (.of part) (read .backward before.reverse).codePoints).outcome
            (read .backward before.reverse).faultBackward? := by
  have hnone : ¬ [slash, slash] <:+: ([] : List CodePoint) := by simp
  have hpass : ∀ c ∈ part.reverse, inUrlRange c = true := by simpa using h.passes
  have hwalk := ofReversed_append (read .backward before.reverse).codePoints hnone hpass
  simp only [List.reverse_reverse, List.append_nil] at hwalk
  rw [looksLikeUrl_eq_outcome, h.split, read_reverse_append before h.encodes]
  rcases hwalk with ⟨hdouble, hstop⟩ | ⟨hdouble, hgo⟩
  · exact .inl ⟨hdouble, by rw [hstop]; rfl⟩
  · exact .inr ⟨hdouble, by rw [hgo]; rfl⟩

theorem looksLikeUrl_of_double (h : LastPart inUrlRange t before part)
    (hdouble : [slash, slash] <:+: part) : t.looksLikeUrl = .ok true := by
  rcases looksLikeUrl_of_lastPart h with ⟨-, htrue⟩ | ⟨hnone, -⟩
  · exact htrue
  · exact absurd hdouble hnone

theorem looksLikeUrl_of_stored (h : LastPart inUrlRange t (x ++ p) part) (hp : Stores p c)
    (hdouble : ¬ [slash, slash] <:+: part) :
    t.looksLikeUrl = .ok ((UrlRun.of part).looksLikeUrl c.isWhitespace) := by
  rcases looksLikeUrl_of_lastPart h with ⟨hin, -⟩ | ⟨-, hgo⟩
  · exact absurd hin hdouble
  · rw [hgo, read_reverse_append x (.one hp)]
    simp [UrlWalk.ofReversed, h.not_inUrlRange hp, UrlWalk.outcome]

/-- What precedes a last part without two slashes side by side, and what the walk makes of it. -/
theorem looksLikeUrl_cases (h : LastPart inUrlRange t before part)
    (hdouble : ¬ [slash, slash] <:+: part) :
    (before = [] ∧ t.looksLikeUrl = .ok ((UrlRun.of part).looksLikeUrl true)) ∨
      (∃ x p c, before = x ++ p ∧ Stores p c ∧
        t.looksLikeUrl = .ok ((UrlRun.of part).looksLikeUrl c.isWhitespace)) ∨
      ∃ x u, before = x ++ [u] ∧ split? .backward (u :: x.reverse) = none ∧
        t.looksLikeUrl = .error (.unpaired u x.length) := by
  cases hsplit : split? .backward before.reverse with
  | some q =>
    obtain ⟨x, p, c, rfl, hp⟩ := exists_of_split?_reverse hsplit
    exact .inr (.inl ⟨x, p, c, rfl, hp, looksLikeUrl_of_stored h hp hdouble⟩)
  | none =>
    rcases looksLikeUrl_of_lastPart h with ⟨hin, -⟩ | ⟨-, hgo⟩
    · exact absurd hin hdouble
    · rw [read_stuck hsplit] at hgo
      cases hrev : before.reverse with
      | nil =>
        rw [hrev] at hgo
        exact .inl ⟨List.reverse_eq_nil_iff.mp hrev, hgo⟩
      | cons u rest =>
        rw [hrev] at hgo hsplit
        refine .inr (.inr ⟨rest.reverse, u, ?_, ?_, ?_⟩)
        · rw [← List.reverse_reverse before, hrev, List.reverse_cons]
        · rwa [List.reverse_reverse]
        · rw [List.length_reverse]
          exact hgo

theorem looksLikeUrl_eq_error_iff (h : LastPart inUrlRange t before part) :
    t.looksLikeUrl = .error e ↔
      ¬ [slash, slash] <:+: part ∧
        ∃ x u, before = x ++ [u] ∧ t.Unpaired 0 t.length x.length ∧ e = .unpaired u x.length := by
  -- the unit before the part is unpaired exactly if the walk is stuck there
  have hstuck : ∀ x u, before = x ++ [u] →
      (t.Unpaired 0 t.length x.length ↔ split? .backward (u :: x.reverse) = none) := by
    rintro x u rfl
    have ht : t = x ++ u :: part := by rw [h.split]; simp
    rw [ht]
    exact unpaired_iff_stuck x u h.encodes
  by_cases hdouble : [slash, slash] <:+: part
  · simp [looksLikeUrl_of_double h hdouble, hdouble]
  · rcases looksLikeUrl_cases h hdouble with ⟨rfl, hok⟩ | ⟨y, p, c, rfl, hp, hok⟩ | ⟨y, v, rfl, hy, herr⟩
    · simp [hok]
    · rw [hok]
      refine ⟨fun herr => (by cases herr), ?_⟩
      rintro ⟨-, x, u, hend, hunpaired, -⟩
      have hnone := (hstuck x u hend).mp hunpaired
      have hrev : u :: x.reverse = (y ++ p).reverse := by
        rw [hend]
        simp
      rw [hrev, split?_reverse_eq_some_iff.mpr ⟨p, hp, rfl⟩] at hnone
      cases hnone
    · rw [herr, Except.error.injEq]
      constructor
      · rintro rfl
        exact ⟨hdouble, y, v, rfl, (hstuck y v rfl).mpr hy, rfl⟩
      · rintro ⟨-, x, u, hend, -, rfl⟩
        obtain ⟨rfl, hu⟩ := List.append_inj' hend rfl
        rw [List.singleton_inj.mp hu]

/-- What is before the code point that precedes the last part may be replaced. -/
theorem looksLikeUrl_replace {b : Bool} (h : LastPart inUrlRange t (x ++ p) part)
    (hp : (∃ c, Stores p c) ∨ ∃ u, p = [u] ∧ t.Unpaired 0 t.length x.length)
    (hok : t.looksLikeUrl = .ok b) (other : Text) : looksLikeUrl (other ++ (p ++ part)) = .ok b := by
  have hne : p ≠ [] := by
    rcases hp with ⟨c, hc⟩ | ⟨u, rfl, -⟩
    · exact List.ne_nil_of_length_pos hc.length_pos
    · simp
  have hother := h.replace hne other
  by_cases hdouble : [slash, slash] <:+: part
  · rw [looksLikeUrl_of_double hother hdouble, ← hok, looksLikeUrl_of_double h hdouble]
  · rcases hp with ⟨c, hc⟩ | ⟨u, rfl, hunpaired⟩
    · rw [looksLikeUrl_of_stored hother hc hdouble, ← hok, looksLikeUrl_of_stored h hc hdouble]
    · have herr := (looksLikeUrl_eq_error_iff h).mpr ⟨hdouble, x, u, rfl, hunpaired, rfl⟩
      rw [herr] at hok
      cases hok

end Text
end TypedText
