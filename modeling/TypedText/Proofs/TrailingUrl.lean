import TypedText.Proofs.Scans

/-!
# TypedText.Proofs.TrailingUrl

When the end of a text looks like a URL, said of its last part as a whole: the longest stretch at the end
of the text that holds nothing but URL-like code points. The walk goes through that part from its end and
remembers how it starts, what it holds, and nothing else.

* `LastPart`: the longest stretch at the end of a list whose members all pass a test.
* `UrlLike`: what a part has to hold, or to start with, to look like a URL.
* `UrlRun.of`: what the walk remembers of a part that it has passed. While the walk goes on, that part
  holds no two slashes side by side (`no_double_cons`), and then what is remembered decides
  (`looksLikeUrl_of`).
* `ofReversed_append`: the walk through the part, by induction on it; `answer_ofReversed`: the whole walk.
* `looksLikeUrl_lastPart`: the walk decides whether the last part is like a URL.
-/

namespace TypedText
namespace TrailingContext

/-- `part` is the longest stretch at the end of `cs` whose members all pass the test, and `before` is what
precedes it. -/
structure LastPart (test : CodePoint → Bool) (cs before part : List CodePoint) : Prop where
  split : cs = before ++ part
  passes : ∀ c ∈ part, test c = true
  longest : ∀ s, s <:+ cs → (∀ c ∈ s, test c = true) → s.length ≤ part.length

def period : CodePoint := 0x2E

def slash : CodePoint := 0x2F

def smallW : CodePoint := 0x77

/-- A part looks like a URL if it holds two slashes side by side, starts with `www` and holds a period,
starts with a slash and is detached from what precedes it, or holds both a period and a slash. -/
def UrlLike (detached : Prop) (part : List CodePoint) : Prop :=
  [slash, slash] <:+: part ∨
    ([smallW, smallW, smallW] <+: part ∧ period ∈ part) ∨
    ([slash] <+: part ∧ detached) ∨
    (period ∈ part ∧ slash ∈ part)

/-- A part is detached if nothing precedes it, or whitespace does. -/
def Detached (before : List CodePoint) : Prop :=
  ∀ p ∈ before.getLast?, p.isWhitespace = true

variable {test : CodePoint → Bool} {detached : Bool} {c x : CodePoint}
  {cs s rest : List CodePoint} {n : Nat}

theorem lastPart_reverse (test : CodePoint → Bool) (cs : List CodePoint) :
    LastPart test cs (cs.reverse.dropWhile test).reverse (cs.reverse.takeWhile test).reverse where
  split := by
    rw [← List.reverse_append, List.takeWhile_append_dropWhile, List.reverse_reverse]
  passes c hc := by
    rw [List.mem_reverse] at hc
    exact List.all_eq_true.mp List.all_takeWhile c hc
  longest s hs hpasses := by
    obtain ⟨more, hmore⟩ := List.reverse_prefix.mpr hs
    have hrev : ∀ c ∈ s.reverse, test c = true := by simpa using hpasses
    rw [← hmore, List.takeWhile_append_of_pos hrev]
    simp

theorem val_eq_period : c.val = 0x2E ↔ c = period :=
  (@CodePoint.ext_iff c period).symm

theorem val_eq_slash : c.val = 0x2F ↔ c = slash :=
  (@CodePoint.ext_iff c slash).symm

theorem val_eq_smallW : c.val = 0x77 ↔ c = smallW :=
  (@CodePoint.ext_iff c smallW).symm

/-- A count that goes up at every `x` and starts again at anything else says how often the list starts
with `x`. -/
theorem le_count_iff {f : List CodePoint → Nat} (hnil : f [] = 0)
    (hcons : ∀ c s, f (c :: s) = if c = x then f s + 1 else 0) :
    n ≤ f s ↔ List.replicate n x <+: s := by
  induction s generalizing n with
  | nil => cases n <;> simp [hnil, List.replicate_succ]
  | cons c rest ih =>
    cases n with
    | zero => simp
    | succ n =>
      rw [hcons, List.replicate_succ, List.cons_prefix_cons, ← ih]
      split
      · rename_i hc
        simp [hc]
      · rename_i hc
        simp [Ne.symm hc]

/-- A flag that is raised at every `x` and stays so says whether the list holds `x`. -/
theorem flag_iff {f : List CodePoint → Bool} (hnil : f [] = false)
    (hcons : ∀ c s, f (c :: s) = true ↔ f s = true ∨ c = x) : f s = true ↔ x ∈ s := by
  induction s with
  | nil => simp [hnil]
  | cons c rest ih => rw [hcons, ih, List.mem_cons, or_comm, eq_comm]

namespace UrlRun

/-- What the walk remembers of code points that it has passed. -/
def of (s : List CodePoint) : UrlRun :=
  s.foldr (fun c r => r.extend c) .empty

theorem leadingW_of_cons (c : CodePoint) (s : List CodePoint) :
    (of (c :: s)).leadingW = if c = smallW then (of s).leadingW + 1 else 0 := by
  simp only [of, List.foldr_cons, extend, val_eq_smallW]

theorem leadingSlashes_of_cons (c : CodePoint) (s : List CodePoint) :
    (of (c :: s)).leadingSlashes = if c = slash then (of s).leadingSlashes + 1 else 0 := by
  simp only [of, List.foldr_cons, extend, val_eq_slash]

theorem le_leadingW_iff : n ≤ (of s).leadingW ↔ List.replicate n smallW <+: s :=
  le_count_iff (f := fun s => (of s).leadingW) rfl leadingW_of_cons

theorem le_leadingSlashes_iff : n ≤ (of s).leadingSlashes ↔ List.replicate n slash <+: s :=
  le_count_iff (f := fun s => (of s).leadingSlashes) rfl leadingSlashes_of_cons

theorem hasSlash_of (s : List CodePoint) : (of s).hasSlash = true ↔ slash ∈ s := by
  refine flag_iff (f := fun s => (of s).hasSlash) rfl fun c s => ?_
  simp [of, extend, val_eq_slash]

theorem hasPeriod_of (s : List CodePoint) : (of s).hasPeriod = true ↔ period ∈ s := by
  refine flag_iff (f := fun s => (of s).hasPeriod) rfl fun c s => ?_
  simp [of, extend, val_eq_period]

theorem leadingSlashes_le_one (h : ¬ [slash, slash] <:+: s) : (of s).leadingSlashes ≤ 1 := by
  have hstart : ¬ 2 ≤ (of s).leadingSlashes := by
    rw [le_leadingSlashes_iff]
    exact fun hs => h hs.isInfix
  omega

theorem no_double_cons (h : ¬ [slash, slash] <:+: s) (hgo : (of (c :: s)).leadingSlashes ≠ 2) :
    ¬ [slash, slash] <:+: c :: s := by
  intro hin
  rcases List.infix_cons_iff.mp hin with hstart | hin
  · have htwo : 2 ≤ (of (c :: s)).leadingSlashes := le_leadingSlashes_iff.mpr hstart
    have hone := leadingSlashes_le_one h
    have hstep := leadingSlashes_of_cons c s
    split at hstep <;> omega
  · exact h hin

theorem looksLikeUrl_of (h : ¬ [slash, slash] <:+: s) :
    (of s).looksLikeUrl detached = true ↔ UrlLike (detached = true) s := by
  have hthree : 3 ≤ (of s).leadingW ↔ [smallW, smallW, smallW] <+: s := le_leadingW_iff
  have hone : (of s).leadingSlashes = 1 ↔ [slash] <+: s := by
    have hstart : 1 ≤ (of s).leadingSlashes ↔ [slash] <+: s := le_leadingSlashes_iff
    have hle := leadingSlashes_le_one h
    rw [← hstart]
    omega
  simp only [looksLikeUrl, UrlLike, Bool.or_eq_true, Bool.and_eq_true, decide_eq_true_eq, beq_iff_eq,
    hthree, hone, hasPeriod_of, hasSlash_of, h, false_or, or_assoc]

end UrlRun

theorem UrlWalk.ofReversed_cons (s rest : List CodePoint) (c : CodePoint) :
    UrlWalk.ofReversed (.of s) (c :: rest) =
      if inUrlRange c then
        if (UrlRun.of (c :: s)).leadingSlashes = 2 then .doubleSlash
        else UrlWalk.ofReversed (.of (c :: s)) rest
      else .precededBy c (.of s) :=
  rfl

/-- The walk has passed `s`, in which there are no two slashes side by side. Through further code points
in the range it goes on unless it meets two of them; `ahead` is what comes behind these. -/
theorem ofReversed_append {part : List CodePoint} (ahead : List CodePoint)
    (h : ¬ [slash, slash] <:+: s) (hpart : ∀ c ∈ part, inUrlRange c = true) :
    ([slash, slash] <:+: part.reverse ++ s ∧
        UrlWalk.ofReversed (.of s) (part ++ ahead) = .doubleSlash) ∨
      (¬ [slash, slash] <:+: part.reverse ++ s ∧
        UrlWalk.ofReversed (.of s) (part ++ ahead) =
          UrlWalk.ofReversed (.of (part.reverse ++ s)) ahead) := by
  induction part generalizing s with
  | nil => exact .inr ⟨h, rfl⟩
  | cons c rest ih =>
    rw [List.forall_mem_cons] at hpart
    have hjoin : (c :: rest).reverse ++ s = rest.reverse ++ c :: s := by simp
    rw [hjoin, List.cons_append, UrlWalk.ofReversed_cons, hpart.1, if_pos rfl]
    by_cases hstop : (UrlRun.of (c :: s)).leadingSlashes = 2
    · have hstart : [slash, slash] <+: c :: s :=
        UrlRun.le_leadingSlashes_iff.mp (Nat.le_of_eq hstop.symm)
      rw [if_pos hstop]
      exact .inl ⟨hstart.isInfix.trans (List.suffix_append _ _).isInfix, rfl⟩
    · rw [if_neg hstop]
      exact ih (UrlRun.no_double_cons h hstop) hpart.2

/-- The walk has passed `s`, in which there are no two slashes side by side, and `ahead` is still to come,
nearest code point first. -/
theorem answer_ofReversed (ahead : List CodePoint) (h : ¬ [slash, slash] <:+: s) :
    (UrlWalk.ofReversed (.of s) ahead).answer = true ↔
      UrlLike (Detached (ahead.dropWhile inUrlRange).reverse)
        ((ahead.takeWhile inUrlRange).reverse ++ s) := by
  have hpart : ∀ c ∈ ahead.takeWhile inUrlRange, inUrlRange c = true :=
    List.all_eq_true.mp List.all_takeWhile
  have hwalk := ofReversed_append (ahead.dropWhile inUrlRange) h hpart
  rw [List.takeWhile_append_dropWhile] at hwalk
  rcases hwalk with ⟨hdouble, hstop⟩ | ⟨hnone, hgo⟩
  · rw [hstop]
    exact ⟨fun _ => .inl hdouble, fun _ => rfl⟩
  · rw [hgo]
    have hhead := List.head?_dropWhile_not inUrlRange ahead
    cases hrest : ahead.dropWhile inUrlRange with
    | nil =>
      have hstart : Detached [] ↔ true = true := by simp [Detached]
      simp only [UrlWalk.ofReversed, UrlWalk.answer, UrlRun.looksLikeUrl_of hnone, List.reverse_nil,
        hstart]
    | cons c rest =>
      -- the part ends here, and `c` precedes it
      rw [hrest] at hhead
      have hc : inUrlRange c = false := by simpa using hhead
      have hbefore : Detached (c :: rest).reverse ↔ c.isWhitespace = true := by simp [Detached]
      rw [UrlWalk.ofReversed_cons, hc]
      simp only [Bool.false_eq_true, if_false, UrlWalk.answer, UrlRun.looksLikeUrl_of hnone, hbefore]

end TrailingContext

namespace Text

open TrailingContext

/-- **The last part decides.** Take the longest stretch at the end of a text that lies in the range of
URL-like code points, and what precedes it. The text looks like a URL exactly if that stretch does. -/
theorem looksLikeUrl_lastPart {t : Text} (ht : t.Paired) :
    ∃ cs before part, t.codePoints = .ok cs ∧ LastPart inUrlRange cs before part ∧
      ∃ b, t.looksLikeUrl = .ok b ∧ (b = true ↔ UrlLike (Detached before) part) := by
  obtain ⟨cs, hcs⟩ := paired_iff_encodes.mp ht
  have hnone : ¬ [slash, slash] <:+: ([] : List CodePoint) := by simp
  have hwalk := answer_ofReversed cs.reverse hnone
  rw [List.append_nil] at hwalk
  exact ⟨cs, _, _, codePoints_eq_ok_iff.mpr hcs, lastPart_reverse inUrlRange cs, _,
    looksLikeUrl_encoded hcs, hwalk⟩

/-- A path behind a space, and a pair before that. -/
theorem looksLikeUrl_lastPart_path :
    (Paired [0xD83D, 0xDE00, 0x20, 0x2F, 0x75] ∧
      looksLikeUrl [0xD83D, 0xDE00, 0x20, 0x2F, 0x75] = .ok true) ∧
    ∃ cs before part, codePoints [0xD83D, 0xDE00, 0x20, 0x2F, 0x75] = .ok cs ∧
      LastPart inUrlRange cs before part ∧
      ∃ b, looksLikeUrl [0xD83D, 0xDE00, 0x20, 0x2F, 0x75] = .ok b ∧
        (b = true ↔ UrlLike (Detached before) part) :=
  have hpaired : Paired [0xD83D, 0xDE00, 0x20, 0x2F, 0x75] := by decide
  ⟨⟨hpaired, rfl⟩, looksLikeUrl_lastPart hpaired⟩

end Text
end TypedText
