import TypedText.Proofs.Unicode.CaseForms
import TypedText.Proofs.Unicode.FixedForms

/-!
# TypedText.Proofs.Unicode.RepeatedForms

The forms of forms. What a table maps a code point to, it maps to nothing else in turn: every code
point of an upper-case form is its own upper-case form (`upperForm_of_mem_upperForm`), and the same holds
of lower case (`lowerForm_of_mem_lowerForm`).

* `Run.allClear`: a comparison of runs in any order with ascending ones.
* `Settles`: that the images of the runs and the parts of the expansions are named by neither.
* `mapped_of_mem_mapped`: mapping by tables that settle, done twice.
-/

namespace TypedText
namespace Unicode

namespace Run

/-- No look-up finds a number of the runs in `all`. Of `all`, what is not in `ahead` ends before
`reached`, so it is looked at again only where the runs go back. -/
def allClear (all : List Run) : Nat → List Run → List Run → Bool
  | _, _, [] => true
  | reached, ahead, r :: rest =>
    let ahead := (if reached ≤ r.first then ahead else all).dropWhile (·.last < r.first)
    r.clear ahead && allClear all r.first ahead rest

theorem mem_eq_false_of_allClear {all rs : List Run} :
    ∀ {reached : Nat} {ahead : List Run},
      (∀ n, reached ≤ n → mem n ahead = false → mem n all = false) →
      allClear all reached ahead rs = true →
      ∀ r ∈ rs, ∀ n, r.contains n = true → mem n all = false := by
  induction rs with
  | nil => simp
  | cons r rest ih =>
    intro reached ahead hahead h
    rw [allClear, Bool.and_eq_true] at h
    have hfront : ∀ n, r.first ≤ n →
        mem n ((if reached ≤ r.first then ahead else all).dropWhile (·.last < r.first)) = false →
        mem n all = false := by
      intro n hn hmem
      have hmem := mem_eq_false_of_dropWhile hn hmem
      split at hmem
      · rename_i hreached
        exact hahead n (Nat.le_trans hreached hn) hmem
      · exact hmem
    rw [List.forall_mem_cons]
    refine ⟨fun n hn => ?_, ih hfront h.2⟩
    exact hfront n (contains_iff.mp hn).1 (mem_eq_false_of_clear h.1 hn)

end Run

/-- The numbers that a shifted run maps to. -/
def ShiftRun.images (r : ShiftRun) : Run :=
  ⟨r.image, r.image + (r.last - r.first), r.step⟩

variable {shifts : List ShiftRun} {expansions : List (Nat × List Nat)} {c d : CodePoint} {n m : Nat}

theorem ShiftRun.contains_images {r : ShiftRun} (h : r.contains n = true) :
    r.images.contains (r.image + (n - r.first)) = true := by
  simp only [ShiftRun.contains, Bool.and_eq_true, decide_eq_true_eq, beq_iff_eq] at h
  simp only [Run.contains_iff, images, Nat.add_sub_cancel_left]
  omega

/-- The numbers that have expansions. -/
def expanded (expansions : List (Nat × List Nat)) : List Run :=
  expansions.map fun p => ⟨p.1, p.1, 1⟩

/-- No run and no expansion is for this number. -/
def isUnnamed (shifts : List ShiftRun) (expansions : List (Nat × List Nat)) (n : Nat) : Bool :=
  !Run.mem n (shifts.map ShiftRun.domain) && !Run.mem n (expanded expansions)

/-- Whatever the tables map to is a code point that they do not name. -/
structure Settles (shifts : List ShiftRun) (expansions : List (Nat × List Nat)) : Prop where
  expanded_found : ∀ p ∈ expansions, Run.mem p.1 (expanded expansions) = true
  images_lt : ∀ r ∈ shifts, r.image + (r.last - r.first) < 0x110000
  images_unshifted : Run.allClear (shifts.map ShiftRun.domain) 0 (shifts.map ShiftRun.domain)
    (shifts.map ShiftRun.images) = true
  images_unexpanded : Run.allClear (expanded expansions) 0 (expanded expansions)
    (shifts.map ShiftRun.images) = true
  parts : ∀ p ∈ expansions, ∀ n ∈ p.2, n < 0x110000 ∧ isUnnamed shifts expansions n = true

namespace Settles

theorem mapped_unnamed (h : Settles shifts expansions)
    (hc : isUnnamed shifts expansions c.val = true) : mapped shifts expansions c = [c] := by
  simp only [isUnnamed, Bool.and_eq_true, Bool.not_eq_true'] at hc
  have hlookup : expansions.lookup c.val = none := by
    refine List.lookup_eq_none_iff.mpr fun p hp => ?_
    rw [bne_iff_ne]
    intro heq
    rw [heq, h.expanded_found p hp] at hc
    cases hc.2
  rw [mapped, ShiftRun.find?_eq_none hc.1, hlookup]

theorem mapped_ofNat (h : Settles shifts expansions)
    (hn : n < 0x110000 ∧ isUnnamed shifts expansions n = true) :
    mapped shifts expansions (.ofNat n) = [.ofNat n] := by
  have hval : (CodePoint.ofNat n).val = n := Nat.mod_eq_of_lt hn.1
  exact h.mapped_unnamed (by rw [hval]; exact hn.2)

theorem isUnnamed_image (h : Settles shifts expansions) (hm : ShiftRun.find? n shifts = some m) :
    m < 0x110000 ∧ isUnnamed shifts expansions m = true := by
  obtain ⟨r, hr, hn, rfl⟩ := ShiftRun.exists_of_find? hm
  have himage := ShiftRun.contains_images hn
  have hlast := (Run.contains_iff.mp himage).2.1
  have hmem := List.mem_map_of_mem (f := ShiftRun.images) hr
  have hunshifted := Run.mem_eq_false_of_allClear (fun _ _ h => h) h.images_unshifted _ hmem _ himage
  have hunexpanded := Run.mem_eq_false_of_allClear (fun _ _ h => h) h.images_unexpanded _ hmem _ himage
  refine ⟨Nat.lt_of_le_of_lt hlast (h.images_lt r hr), ?_⟩
  rw [isUnnamed, hunshifted, hunexpanded]
  rfl

/-- Mapping by tables that settle gives code points that they map to themselves. -/
theorem mapped_of_mem_mapped (h : Settles shifts expansions) (hd : d ∈ mapped shifts expansions c) :
    mapped shifts expansions d = [d] := by
  cases hfind : ShiftRun.find? c.val shifts with
  | some m =>
    rw [mapped, hfind, List.mem_singleton] at hd
    rw [hd]
    exact h.mapped_ofNat (h.isUnnamed_image hfind)
  | none =>
    cases hlookup : expansions.lookup c.val with
    | some ns =>
      simp only [mapped, hfind, hlookup, List.mem_map] at hd
      obtain ⟨n, hn, rfl⟩ := hd
      obtain ⟨before, after, hsplit, -⟩ := List.lookup_eq_some_iff.mp hlookup
      exact h.mapped_ofNat (h.parts (c.val, ns) (by rw [hsplit]; simp) n hn)
    | none =>
      have hself : mapped shifts expansions c = [c] := by rw [mapped, hfind, hlookup]
      rw [hself, List.mem_singleton] at hd
      rw [hd, hself]

end Settles

theorem settles_upper : Settles upperShifts upperExpansions where
  expanded_found := by decide +kernel
  images_lt := by decide +kernel
  images_unshifted := by decide +kernel
  images_unexpanded := by decide +kernel
  parts := by decide +kernel

theorem settles_lower : Settles lowerShifts lowerExpansions where
  expanded_found := by decide +kernel
  images_lt := by decide +kernel
  images_unshifted := by decide +kernel
  images_unexpanded := by decide +kernel
  parts := by decide +kernel

theorem upperForm_of_mem_upperForm (h : d ∈ upperForm c) : upperForm d = [d] :=
  settles_upper.mapped_of_mem_mapped h

theorem lowerForm_of_mem_lowerForm (h : d ∈ lowerForm c) : lowerForm d = [d] :=
  settles_lower.mapped_of_mem_mapped h

theorem upperForm_ne_nil (c : CodePoint) : upperForm c ≠ [] := by
  simp only [upperForm, mapped]
  split
  · simp
  · split
    · rename_i ns hlookup
      obtain ⟨before, after, hsplit, -⟩ := List.lookup_eq_some_iff.mp hlookup
      have hparts : ∀ p ∈ upperExpansions, p.2 ≠ [] := by decide +kernel
      simpa using hparts (c.val, ns) (by rw [hsplit]; simp)
    · simp

end Unicode
end TypedText
