import TypedText.Separators

/-!
# TypedText.Proofs.Separators

The search for a separator by halving, as membership. What it finds is in the list whatever the
order of the list (`mem_of_contains`), and on an ascending list, repetitions allowed, it finds all
that is there (`contains_iff_mem`). It asks for no number that the list does not have
(`contains?_eq`). The code points of a text make such a list, each once (`lists_ofCodePoints`).

* `Separators.contains?`: the search that asks for a number by its index, whether or not the list has it.
-/

namespace TypedText
namespace Separators

/-- The list ascends; a number may stand in it more than once. -/
def Ascending (ns : Separators) : Prop :=
  ns.Pairwise (· ≤ ·)

instance (ns : Separators) : Decidable ns.Ascending :=
  inferInstanceAs (Decidable (ns.Pairwise (· ≤ ·)))

variable {ns : Separators} {n : Int}

theorem Ascending.getElem_le (h : ns.Ascending) {i j : Nat} (hij : i ≤ j) (hj : j < ns.length) :
    ns[i] ≤ ns[j] := by
  rcases Nat.eq_or_lt_of_le hij with rfl | hlt
  · exact Int.le_refl _
  · exact List.pairwise_iff_getElem.mp h i j (by omega) hj hlt

/-- The search keeps the numbers before `lo` below `n` and those from `hi` on not below it, so where
the two meet it has cut the list in two. -/
theorem lowerBound_spec (h : ns.Ascending) {lo hi : Nat} (hhi : hi ≤ ns.length)
    (hlow : ∀ i (_ : i < lo) (hlen : i < ns.length), ns[i] < n)
    (hhigh : ∀ i (_ : hi ≤ i) (hlen : i < ns.length), n ≤ ns[i]) :
    (∀ i (_ : i < lowerBound ns n lo hi hhi) (hlen : i < ns.length), ns[i] < n) ∧
      ∀ i (_ : lowerBound ns n lo hi hhi ≤ i) (hlen : i < ns.length), n ≤ ns[i] := by
  fun_induction lowerBound ns n lo hi hhi with
  | case1 lo hi hhi hlt hmid ih =>
    refine ih (fun i hbefore _ => ?_) hhigh
    have hle : ns[i] ≤ ns[(lo + hi) / 2] := h.getElem_le (by omega) (by omega)
    exact Int.lt_of_le_of_lt hle hmid
  | case2 lo hi hhi hlt hmid ih =>
    refine ih hlow fun i hfrom hlen => ?_
    exact Int.le_trans (Int.not_lt.mp hmid) (h.getElem_le hfrom hlen)
  | case3 lo hi hhi hlt =>
    exact ⟨hlow, fun i hfrom => hhigh i (by omega)⟩

theorem mem_of_contains (h : Separators.contains ns n = true) : n ∈ ns := by
  simp only [Separators.contains] at h
  split at h
  · rename_i m hm
    rw [← eq_of_beq h]
    exact List.mem_of_getElem? hm
  · cases h

theorem contains_eq_false (h : n ∉ ns) : Separators.contains ns n = false := by
  rw [Bool.eq_false_iff]
  intro hcontains
  exact h (mem_of_contains hcontains)

theorem contains_iff_mem (h : ns.Ascending) : Separators.contains ns n = true ↔ n ∈ ns := by
  refine ⟨mem_of_contains, fun hmem => ?_⟩
  obtain ⟨i, hi, rfl⟩ := List.mem_iff_getElem.mp hmem
  obtain ⟨hbelow, hfrom⟩ := lowerBound_spec (n := ns[i]) h (Nat.le_refl _)
    (fun j hj _ => absurd hj (Nat.not_lt_zero j)) (fun j hj hlen => absurd hlen (Nat.not_lt.mpr hj))
  -- the cut is at the number or before it, so what stands there is neither below nor above it
  have hcut : lowerBound ns ns[i] 0 ns.length (Nat.le_refl _) ≤ i := by
    refine Nat.le_of_not_lt fun hlt => ?_
    exact Int.lt_irrefl _ (hbelow i hlt hi)
  have hlen := Nat.lt_of_le_of_lt hcut hi
  have heq := Int.le_antisymm (h.getElem_le hcut hi) (hfrom _ (Nat.le_refl _) hlen)
  simp only [Separators.contains, List.getElem?_eq_getElem hlen, heq, BEq.rfl]

/-! ## What the search reads -/

/-- The halving with nothing known of its bounds: it ends without an index when it asks for a number
that the list does not have. -/
def lowerBound? (ns : Separators) (n : Int) (lo hi : Nat) : Option Nat :=
  if lo < hi then
    match ns[(lo + hi) / 2]? with
    | none => none
    | some m =>
      if m < n then lowerBound? ns n ((lo + hi) / 2 + 1) hi
      else lowerBound? ns n lo ((lo + hi) / 2)
  else some lo
termination_by hi - lo

/-- The whole search, without an answer when a number is missing. -/
def contains? (ns : Separators) (n : Int) : Option Bool :=
  match lowerBound? ns n 0 ns.length with
  | none => none
  | some i => if i < ns.length then ns[i]?.map (· == n) else some false

/-- Every number that is asked for stands before `hi`, and so in the list, whatever its order. -/
theorem lowerBound?_eq {lo hi : Nat} (hhi : hi ≤ ns.length) :
    lowerBound? ns n lo hi = some (lowerBound ns n lo hi hhi) := by
  fun_induction lowerBound ns n lo hi hhi with
  | case1 lo hi hhi hlt hmid ih =>
    have hread : ns[(lo + hi) / 2]? = some ns[(lo + hi) / 2] := List.getElem?_eq_getElem (by omega)
    rw [lowerBound?, if_pos hlt, hread]
    simp only [if_pos hmid, ih]
  | case2 lo hi hhi hlt hmid ih =>
    have hread : ns[(lo + hi) / 2]? = some ns[(lo + hi) / 2] := List.getElem?_eq_getElem (by omega)
    rw [lowerBound?, if_pos hlt, hread]
    simp only [if_neg hmid, ih]
  | case3 lo hi hhi hlt => rw [lowerBound?, if_neg hlt]

theorem contains?_eq (ns : Separators) (n : Int) :
    contains? ns n = some (Separators.contains ns n) := by
  simp only [contains?, lowerBound?_eq (Nat.le_refl _), Separators.contains]
  split
  · rename_i hlen
    rw [List.getElem?_eq_getElem hlen, Option.map_some]
  · rename_i hlen
    rw [List.getElem?_eq_none (Nat.not_lt.mp hlen)]

/-- **The search is membership.** On an ascending list, in which a number may stand more than once, it
says yes exactly to the numbers of the list. On any list it asks for no number that is not there, and
says yes to no other number. -/
theorem contains_by_search (ns : Separators) (n : Int) :
    (ns.Ascending → (Separators.contains ns n = true ↔ n ∈ ns)) ∧
      contains? ns n = some (Separators.contains ns n) ∧
      (Separators.contains ns n = true → n ∈ ns) :=
  ⟨contains_iff_mem, contains?_eq ns n, mem_of_contains⟩

/-- Numbers that stand more than once, at both ends; the last of them is found. -/
theorem contains_by_search_repeated :
    Ascending [3, 3, 5, 7, 7] ∧ Separators.contains [3, 3, 5, 7, 7] 7 = true ∧
      contains? [3, 3, 5, 7, 7] 7 = some true ∧ (7 : Int) ∈ [3, 3, 5, 7, 7] := by
  obtain ⟨hascending, hreads, hmem⟩ := contains_by_search [3, 3, 5, 7, 7] 7
  have hsorted : Ascending [3, 3, 5, 7, 7] := by decide
  have hfound : Separators.contains [3, 3, 5, 7, 7] 7 = true := (hascending hsorted).mpr (by decide)
  exact ⟨hsorted, hfound, by rw [hreads, hfound], hmem hfound⟩

/-! ## The separators of a text -/

variable {m : Int}

/-- The list holds the code points, each once, in ascending order. -/
structure Lists (ns : Separators) (cs : List CodePoint) : Prop where
  ascending : ns.Pairwise (· < ·)
  mem_iff : ∀ n, n ∈ ns ↔ ∃ c ∈ cs, (c.val : Int) = n

theorem mem_insert : m ∈ insert n ns ↔ m = n ∨ m ∈ ns := by
  induction ns with
  | nil => simp [insert]
  | cons k rest ih =>
    simp only [insert]
    split
    · simp
    · split
      · rename_i heq
        subst heq
        simp
      · simp only [List.mem_cons, ih]
        exact or_left_comm

theorem pairwise_lt_insert (h : ns.Pairwise (· < ·)) : (insert n ns).Pairwise (· < ·) := by
  induction ns with
  | nil => exact List.pairwise_singleton ..
  | cons k rest ih =>
    obtain ⟨hhead, hrest⟩ := List.pairwise_cons.mp h
    simp only [insert]
    split
    · rename_i hlt
      refine List.pairwise_cons.mpr ⟨fun m hm => ?_, h⟩
      rcases List.mem_cons.mp hm with rfl | hm
      · exact hlt
      · exact Int.lt_trans hlt (hhead m hm)
    · split
      · exact h
      · refine List.pairwise_cons.mpr ⟨fun m hm => ?_, ih hrest⟩
        rcases mem_insert.mp hm with rfl | hm
        · omega
        · exact hhead m hm

theorem lists_ofCodePoints (cs : List CodePoint) : (ofCodePoints cs).Lists cs := by
  rw [ofCodePoints]
  induction cs with
  | nil => exact ⟨List.Pairwise.nil, by simp⟩
  | cons c rest ih =>
    refine ⟨pairwise_lt_insert ih.ascending, fun n => ?_⟩
    rw [List.foldr_cons, mem_insert, ih.mem_iff, eq_comm]
    simp only [List.mem_cons, exists_eq_or_imp]

end Separators
end TypedText
