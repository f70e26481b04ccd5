import Mathlib.Data.List.Dedup
import Mathlib.Data.List.Sort
import TypedText.Proofs.Representation
import TypedText.Proofs.Separators
import TypedText.Proofs.Text.Numbers

/-!
# TypedText.Proofs.SeparatorOrder

Separators in any order, written more than once or as pairs. The list made of a text holds the code points of
the text in ascending order, each once (`ofText_eq_sorted`), and there is only one such list for a set of code
points (`Lists.unique`). So how the text is written does not matter to the search, nor to what is capitalized
with the list (`ofText_by_members`).
-/

namespace TypedText
namespace Separators

variable {ns ms : Separators} {cs ds : List CodePoint} {t : Text}

theorem Lists.contains_iff (h : ns.Lists cs) (n : Int) :
    Separators.contains ns n = true ↔ ∃ c ∈ cs, (c.val : Int) = n := by
  rw [contains_iff_mem (h.ascending.imp Int.le_of_lt), h.mem_iff]

theorem Lists.unique (h : ns.Lists cs) (h' : ms.Lists ds) (hsame : ∀ c, c ∈ cs ↔ c ∈ ds) : ns = ms := by
  refine h.ascending.eq_of_mem_iff h'.ascending fun n => ?_
  rw [h.mem_iff, h'.mem_iff]
  simp only [hsame]

theorem Lists.mem_iff_of_eq (h : ns.Lists cs) (h' : ns.Lists ds) (c : CodePoint) : c ∈ cs ↔ c ∈ ds := by
  have hmem : ∀ {es : List CodePoint}, ns.Lists es → (c ∈ es ↔ (c.val : Int) ∈ ns) := by
    intro es hes
    rw [hes.mem_iff]
    constructor
    · exact fun hc => ⟨c, hc, rfl⟩
    · rintro ⟨d, hd, hval⟩
      rwa [← CodePoint.ext (Int.ofNat_inj.mp hval)]
  rw [hmem h, hmem h']

theorem lists_dedup (h : ds.Pairwise fun c d => c.val ≤ d.val) (hsame : ∀ c, c ∈ ds ↔ c ∈ cs) :
    Lists (CodePoint.toInts ds).dedup cs where
  ascending := by
    have hle : (CodePoint.toInts ds).Pairwise (· ≤ ·) :=
      List.pairwise_map.mpr (h.imp fun hcd => Int.ofNat_le.mpr hcd)
    have hne := List.nodup_dedup (CodePoint.toInts ds)
    refine ((hle.sublist (List.dedup_sublist _)).and hne).imp ?_
    rintro n m ⟨hnm, hdistinct⟩
    omega
  mem_iff n := by
    rw [List.mem_dedup, CodePoint.toInts, List.mem_map]
    simp only [hsame]

/-- The separators of a text are its code points in their order, without repetitions. -/
theorem ofText_eq_sorted (t : Text) :
    ofText t = t.sortedCodePoints.map fun ds => (CodePoint.toInts ds).dedup := by
  rw [ofText, Text.sortedCodePoints]
  cases t.codePoints with
  | error e => rfl
  | ok cs =>
    have hsorted : (cs.mergeSort fun c d => c.val ≤ d.val).Pairwise fun c d => c.val ≤ d.val := by
      refine (List.pairwise_mergeSort ?_ ?_ cs).imp of_decide_eq_true
      · intro c d e hcd hde
        rw [decide_eq_true_eq] at *
        omega
      · intro c d
        rw [Bool.or_eq_true, decide_eq_true_eq, decide_eq_true_eq]
        omega
    have hlists := lists_dedup hsorted fun _ => List.mem_mergeSort
    exact congrArg Except.ok ((lists_ofCodePoints cs).unique hlists fun _ => Iff.rfl)

/-- **How separators are written does not matter.** Two texts without unpaired surrogates each give an
ascending list in which just their code points are found, and the lists are the same exactly if the texts
have the same code points. Then each word is capitalized, and tested for it, in the same way with both. -/
theorem ofText_by_members {s₁ s₂ : Text} (h₁ : s₁.Paired) (h₂ : s₂.Paired) :
    ∃ cs₁ cs₂ ns₁ ns₂, (s₁.codePoints = .ok cs₁ ∧ s₂.codePoints = .ok cs₂) ∧
      (ofText s₁ = .ok ns₁ ∧ ofText s₂ = .ok ns₂) ∧
      (s₁.sortedCodePoints.map fun ds => (CodePoint.toInts ds).dedup) = .ok ns₁ ∧
      ns₁.Pairwise (· < ·) ∧
      (∀ n, Separators.contains ns₁ n = true ↔ ∃ c ∈ cs₁, (c.val : Int) = n) ∧
      (ns₁ = ns₂ ↔ ∀ c, c ∈ cs₁ ↔ c ∈ cs₂) ∧
      ((∀ c, c ∈ cs₁ ↔ c ∈ cs₂) → ∀ (t : Text) (l : Locale),
        t.capitalizeEachWord ns₁ l = t.capitalizeEachWord ns₂ l ∧
        t.eachWordCapitalized ns₁ = t.eachWordCapitalized ns₂) := by
  obtain ⟨cs₁, hcs₁⟩ := Text.paired_iff_encodes.mp h₁
  obtain ⟨cs₂, hcs₂⟩ := Text.paired_iff_encodes.mp h₂
  have hlists₁ := lists_ofCodePoints cs₁
  have hlists₂ := lists_ofCodePoints cs₂
  have hok := ofText_encoded hcs₁
  refine ⟨cs₁, cs₂, _, _, ⟨Text.codePoints_eq_ok_iff.mpr hcs₁, Text.codePoints_eq_ok_iff.mpr hcs₂⟩,
    ⟨hok, ofText_encoded hcs₂⟩, ?_, hlists₁.ascending, hlists₁.contains_iff, ⟨?_, ?_⟩, ?_⟩
  · rw [← ofText_eq_sorted, hok]
  · intro heq
    exact hlists₁.mem_iff_of_eq (heq ▸ hlists₂)
  · exact hlists₁.unique hlists₂
  · intro hsame t l
    rw [hlists₁.unique hlists₂ hsame]
    exact ⟨rfl, rfl⟩

/-- An emoji and a space, the emoji once as a pair and once more as it is. -/
theorem ofText_by_members_pair :
    (Text.Paired [0x1F600, 0x20, 0xD83D, 0xDE00] ∧ Text.Paired [0x20, 0x1F600]) ∧
    ∃ ns, (ofText [0x1F600, 0x20, 0xD83D, 0xDE00] = .ok ns ∧ ofText [0x20, 0x1F600] = .ok ns) ∧
      ns.Pairwise (· < ·) ∧ Separators.contains ns 0x1F600 = true := by
  have h₁ : Text.Paired [0x1F600, 0x20, 0xD83D, 0xDE00] := by decide
  have h₂ : Text.Paired [0x20, 0x1F600] := by decide
  obtain ⟨cs₁, cs₂, ns₁, ns₂, ⟨hcs₁, hcs₂⟩, ⟨hns₁, hns₂⟩, -, hascending, hcontains, hsame, -⟩ :=
    ofText_by_members h₁ h₂
  obtain rfl : [0x1F600, 0x20, 0x1F600] = cs₁ := Except.ok.inj hcs₁
  obtain rfl : [0x20, 0x1F600] = cs₂ := Except.ok.inj hcs₂
  obtain rfl := hsame.mpr (by simp [or_comm])
  exact ⟨⟨h₁, h₂⟩, _, ⟨hns₁, hns₂⟩, hascending, (hcontains 0x1F600).mpr ⟨0x1F600, by decide, rfl⟩⟩

end Separators
end TypedText
