import TypedText.Proofs.Value.Merge
import TypedText.Yaml.Loader

/-!
# TypedText.Proofs.Yaml.Values

The values of documents. Whatever a document says, and however it merges mappings into others, in its
value every mapping has each key once (`proper_of_ofYaml`): entries get into a mapping one by one, a later
one in the place of an earlier one with the same key. That is all that is relied on of other loaders
(`Yaml.Loader.KeysOnce`).
-/

namespace TypedText

namespace Entries

theorem proper_insert {es : Entries} {k : Scalar} {v : Value} (h : (Value.map es).Proper)
    (hv : v.Proper) : (Value.map (insert k v es)).Proper := by
  cases h with
  | map hkeys hvalues =>
    refine .map (distinct_insert hkeys) fun p hp => ?_
    rcases mem_insert hp with hmem | ⟨rfl, -⟩
    · exact hvalues p hmem
    · exact hv

theorem proper_foldl_insert {es own : Entries} (h : (Value.map es).Proper)
    (hown : ∀ p ∈ own, p.2.Proper) :
    (Value.map (own.foldl (fun es (k, v) => insert k v es) es)).Proper := by
  induction own generalizing es with
  | nil => exact h
  | cons p rest ih =>
    rw [List.forall_mem_cons] at hown
    exact ih (proper_insert h hown.1) hown.2

end Entries

namespace Yaml

theorem exists_of_map_eq_ok {ε α β : Type} {f : α → β} {r : Except ε α} {b : β}
    (h : r.map f = .ok b) : ∃ a, r = .ok a ∧ f a = b := by
  cases r with
  | error e => cases h
  | ok a =>
    cases h
    exact ⟨a, rfl, rfl⟩

namespace Node

/-! The lemmas follow the functions that give the value of a node. -/

mutual

theorem proper_of_value : ∀ {n : Node} {v : Value}, n.value = .ok v → v.Proper
  | .scalar tag text, v, h => by
    rw [value] at h
    obtain ⟨s, -, rfl⟩ := exists_of_map_eq_ok h
    exact .scalar s
  | .sequence tag items, v, h => by
    rw [value] at h
    split at h
    · cases h
    · rename_i vs hvs
      split at h
      · cases h
        exact .list (proper_of_values hvs)
      · cases h
  | .mapping tag entries, v, h => by
    rw [value] at h
    split at h
    · cases h
    · rename_i merged own hpairs
      split at h
      · cases h
        exact Entries.proper_foldl_insert (.map List.Pairwise.nil (by simp)) (proper_of_pairs hpairs)
      · cases h

theorem proper_of_values : ∀ {ns : List Node} {vs : List Value},
    values ns = .ok vs → ∀ v ∈ vs, v.Proper
  | [], vs, h => by
    rw [values] at h
    cases h
    simp
  | n :: rest, vs, h => by
    rw [values] at h
    split at h
    · cases h
    · rename_i v hv
      obtain ⟨vs, hrest, rfl⟩ := exists_of_map_eq_ok h
      exact List.forall_mem_cons.mpr ⟨proper_of_value hv, proper_of_values hrest⟩

theorem proper_of_pairs : ∀ {es : List (Node × Node)} {merged own : Entries},
    pairs es = .ok (merged, own) → ∀ p ∈ merged ++ own, p.2.Proper
  | [], merged, own, h => by
    rw [pairs] at h
    cases h
    simp
  | (k, v) :: rest, merged, own, h => by
    rw [pairs.eq_def] at h
    simp only at h
    split at h
    · split at h
      · cases h
      · rename_i more hmore
        obtain ⟨⟨merged', own'⟩, hrest, heq⟩ := exists_of_map_eq_ok h
        cases heq
        intro p hp
        rw [List.append_assoc] at hp
        rcases List.mem_append.mp hp with hp | hp
        · exact proper_of_mergedBy hmore p hp
        · exact proper_of_pairs hrest p hp
    · split at h
      · split at h
        · cases h
        · split at h
          · cases h
          · rename_i v' hv
            obtain ⟨⟨merged', own'⟩, hrest, heq⟩ := exists_of_map_eq_ok h
            cases heq
            have hv := proper_of_value hv
            have hrest := proper_of_pairs hrest
            simp only [List.forall_mem_append, List.forall_mem_cons] at hrest ⊢
            exact ⟨hrest.1, hv, hrest.2⟩
      · cases h

theorem proper_of_mergedBy : ∀ {n : Node} {es : Entries},
    mergedBy n = .ok es → ∀ p ∈ es, p.2.Proper
  | .scalar tag text, es, h => by
    rw [mergedBy] at h
    cases h
  | .mapping tag entries, es, h => by
    rw [mergedBy] at h
    obtain ⟨⟨merged, own⟩, hpairs, rfl⟩ := exists_of_map_eq_ok h
    exact proper_of_pairs hpairs
  | .sequence tag items, es, h => by
    rw [mergedBy] at h
    exact proper_of_mergedFrom h

theorem proper_of_mergedFrom : ∀ {ns : List Node} {es : Entries},
    mergedFrom ns = .ok es → ∀ p ∈ es, p.2.Proper
  | [], es, h => by
    rw [mergedFrom] at h
    cases h
    simp
  | n :: rest, es, h => by
    rw [mergedFrom.eq_def] at h
    simp only at h
    split at h
    · split at h
      · cases h
      · rename_i merged own hpairs
        obtain ⟨more, hrest, rfl⟩ := exists_of_map_eq_ok h
        rw [List.forall_mem_append]
        exact ⟨proper_of_mergedFrom hrest, proper_of_pairs hpairs⟩
    · cases h

end

end Node
end Yaml

/-- **A document gives each key once.** -/
theorem Value.proper_of_ofYaml {t : Text} {v : Value} (h : Value.ofYaml t = .ok v) : v.Proper := by
  simp only [Value.ofYaml] at h
  split at h
  · split at h
    · cases h
    · split at h
      · cases h
      · cases h
        exact .scalar .null
      · exact Yaml.Node.proper_of_value h
  · cases h

namespace Yaml.Loader

/-- The mappings that a loader makes have each key once. -/
def KeysOnce (loader : Yaml.Loader) : Prop :=
  ∀ s v, loader s = .ok v → v.Proper

theorem keysOnce_core : core.KeysOnce := by
  intro s v h
  simp only [core] at h
  split at h
  · cases h
  · exact Value.proper_of_ofYaml h

end Yaml.Loader
end TypedText
