import TypedText.Unicode.Casing

/-!
# TypedText.Proofs.Unicode.FixedForms

Code points that a change of case leaves as they are: every code point with the property Uppercase is
its own upper-case form (`upperForm_of_isUppercase`), every one with the property Lowercase its own
lower-case form (`lowerForm_of_isLowercase`).

Both come down to tables that share no number. `Run.disjoint` compares two lists of runs in one pass,
since the look-up in a list stops at the first run that starts too late.
-/

namespace TypedText
namespace Unicode

namespace Run

variable {r s : Run} {rs ss : List Run} {n : Nat}

theorem contains_iff :
    r.contains n = true ↔ r.first ≤ n ∧ n ≤ r.last ∧ (n - r.first) % r.step = 0 := by
  simp [contains, and_assoc]

/-- The runs share no number: one ends before the other starts, they alternate, or one of them is a
single number that the other leaves out. -/
def apart (r s : Run) : Bool :=
  r.last < s.first || s.last < r.first ||
    (r.step == 2 && s.step == 2 && r.first % 2 != s.first % 2) ||
    (r.first == r.last && !s.contains r.first) || (s.first == s.last && !r.contains s.first)

theorem not_contains_of_apart (h : r.apart s = true) (hr : r.contains n = true) :
    s.contains n = false := by
  rw [Bool.eq_false_iff]
  intro hs
  have hr' := contains_iff.mp hr
  have hs' := contains_iff.mp hs
  simp only [apart, Bool.or_eq_true, Bool.and_eq_true, decide_eq_true_eq, beq_iff_eq, bne_iff_ne,
    Bool.not_eq_true'] at h
  rcases h with (((h | h) | ⟨⟨hrs, hss⟩, hodd⟩) | ⟨hone, hout⟩) | ⟨hone, hout⟩
  · omega
  · omega
  · rw [hrs] at hr'; rw [hss] at hs'; omega
  · have hn : n = r.first := by omega
    rw [hn, hout] at hs; cases hs
  · have hn : n = s.first := by omega
    rw [hn, hout] at hr; cases hr

def clear (r : Run) : List Run → Bool
  | [] => true
  | s :: rest => r.last < s.first || (r.apart s && clear r rest)

/-- No look-up finds a number in both lists. -/
def disjoint : List Run → List Run → Bool
  | [], _ => true
  | r :: rest, ss =>
    let ahead := ss.dropWhile (·.last < r.first)
    r.clear ahead && disjoint rest ahead

theorem mem_eq_false_of_clear (h : r.clear ss = true) (hr : r.contains n = true) :
    mem n ss = false := by
  induction ss with
  | nil => rfl
  | cons s rest ih =>
    have hlast := (contains_iff.mp hr).2.1
    simp only [clear, Bool.or_eq_true, Bool.and_eq_true, decide_eq_true_eq] at h
    simp only [mem]
    split
    · rfl
    · rcases h with h | ⟨hapart, hrest⟩
      · omega
      · rw [not_contains_of_apart hapart hr, ih hrest, Bool.or_false]

/-- Runs that end before the number do not matter to its look-up. -/
theorem mem_eq_false_of_dropWhile {m : Nat} (hm : m ≤ n)
    (h : mem n (ss.dropWhile (·.last < m)) = false) : mem n ss = false := by
  induction ss with
  | nil => rfl
  | cons s rest ih =>
    simp only [List.dropWhile_cons] at h
    split at h
    · rename_i hs
      have hout : s.contains n = false := by
        rw [decide_eq_true_eq] at hs
        rw [Bool.eq_false_iff, ne_eq, contains_iff]
        omega
      simp only [mem, hout, ih h, Bool.or_false, ite_self]
    · exact h

theorem mem_eq_false_of_disjoint (h : disjoint rs ss = true) (hn : mem n rs = true) :
    mem n ss = false := by
  induction rs generalizing ss with
  | nil => cases hn
  | cons r rest ih =>
    simp only [disjoint, Bool.and_eq_true] at h
    simp only [mem] at hn
    split at hn
    · cases hn
    · rename_i hfirst
      rw [Bool.or_eq_true] at hn
      refine mem_eq_false_of_dropWhile (Nat.le_of_not_lt hfirst) ?_
      rcases hn with hr | hrest
      · exact mem_eq_false_of_clear h.1 hr
      · exact ih h.2 hrest

end Run

def ShiftRun.domain (r : ShiftRun) : Run :=
  ⟨r.first, r.last, r.step⟩

theorem ShiftRun.find?_eq_none {n : Nat} {shifts : List ShiftRun}
    (h : Run.mem n (shifts.map domain) = false) : find? n shifts = none := by
  induction shifts with
  | nil => rfl
  | cons r rest ih =>
    simp only [List.map_cons, Run.mem, domain] at h
    simp only [find?]
    split
    · rfl
    · rename_i hfirst
      rw [if_neg hfirst, Bool.or_eq_false_iff] at h
      have hout : r.contains n = false := h.1
      rw [hout, ih h.2]
      rfl

/-- What the runs of a property share no number with, and no expansion names, is left as it is. -/
theorem mapped_of_mem {shifts : List ShiftRun} {expansions : List (Nat × List Nat)}
    {runs : List Run} (hshifts : Run.disjoint runs (shifts.map ShiftRun.domain) = true)
    (hexp : ∀ p ∈ expansions, Run.mem p.1 runs = false) {c : CodePoint}
    (hc : Run.mem c.val runs = true) : mapped shifts expansions c = [c] := by
  have hfind := ShiftRun.find?_eq_none (Run.mem_eq_false_of_disjoint hshifts hc)
  have hlookup : expansions.lookup c.val = none := by
    refine List.lookup_eq_none_iff.mpr fun p hp => ?_
    rw [bne_iff_ne]
    intro heq
    rw [heq, hexp p hp] at hc
    cases hc
  rw [mapped, hfind, hlookup]

theorem upperForm_of_isUppercase {c : CodePoint} (h : isUppercase c = true) : upperForm c = [c] :=
  mapped_of_mem (by decide +kernel) (by decide +kernel) h

theorem lowerForm_of_isLowercase {c : CodePoint} (h : isLowercase c = true) : lowerForm c = [c] :=
  mapped_of_mem (by decide +kernel) (by decide +kernel) h

theorem isUppercase_eq_false_of_isLowercase {c : CodePoint} (h : isLowercase c = true) :
    isUppercase c = false :=
  Run.mem_eq_false_of_disjoint (by decide +kernel) h

end Unicode
end TypedText
