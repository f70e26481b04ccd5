import TypedText.Value.Merge

/-!
# TypedText.Proofs.Value.Merge

Mappings by what they give for a key. Keys that are equal by value are one key, so looking up and giving
a key a new value respect that equality. A mapping that is built entry by entry has each key once
(`distinct_insert`), and what shows when one such mapping lies over another is then said key by key
(`find?_over`).

* `Entries.Distinct`, `Value.Proper`: each key once, in one mapping and at every depth.
* `Value.at?`: what a path of keys leads to.
-/

namespace TypedText

namespace Scalar

/-- Keys are the same if they stand for the same number or, where they stand for none, if they are
equal; what is not a number is not even the same key as itself. -/
theorem sameKey_iff {a b : Scalar} :
    a.sameKey b = true ↔
      (∃ x, a.number? = some x ∧ b.number? = some x) ∨
        (a.number? = none ∧ a = b ∧ a ≠ .float .nan) := by
  simp only [sameKey]
  cases ha : a.number? with
  | some x =>
    cases hb : b.number? with
    | none => simp
    | some y => simp [eq_comm (a := y)]
  | none =>
    cases hb : b.number? with
    | some y =>
      have hne : a ≠ b := by rintro rfl; rw [ha] at hb; cases hb
      simp [hne]
    | none => simp

theorem sameKey_symm {a b : Scalar} (h : a.sameKey b = true) : b.sameKey a = true := by
  rw [sameKey_iff] at h ⊢
  rcases h with ⟨x, ha, hb⟩ | ⟨ha, rfl, hnan⟩
  · exact .inl ⟨x, hb, ha⟩
  · exact .inr ⟨ha, rfl, hnan⟩

theorem sameKey_trans {a b c : Scalar} (hab : a.sameKey b = true) (hbc : b.sameKey c = true) :
    a.sameKey c = true := by
  rw [sameKey_iff] at hab hbc ⊢
  rcases hab with ⟨x, ha, hb⟩ | ⟨-, rfl, -⟩
  · rcases hbc with ⟨y, hb', hc⟩ | ⟨hb', -, -⟩
    · rw [hb] at hb'
      cases hb'
      exact .inl ⟨x, ha, hc⟩
    · rw [hb] at hb'
      cases hb'
  · exact hbc

theorem sameKey_congr {a b : Scalar} (h : a.sameKey b = true) (c : Scalar) :
    c.sameKey a = c.sameKey b := by
  rw [Bool.eq_iff_iff]
  exact ⟨fun hc => sameKey_trans hc h, fun hc => sameKey_trans hc (sameKey_symm h)⟩

theorem sameKey_congr_left {a b : Scalar} (h : a.sameKey b = true) (c : Scalar) :
    a.sameKey c = b.sameKey c := by
  rw [Bool.eq_iff_iff]
  exact ⟨fun hc => sameKey_trans (sameKey_symm h) hc, fun hc => sameKey_trans h hc⟩

/-- A text is the same key as itself alone. -/
theorem sameKey_text_iff {k : Scalar} {t : Text} : k.sameKey (.text t) = true ↔ k = .text t := by
  rw [sameKey_iff]
  constructor
  · rintro (⟨x, -, hx⟩ | ⟨-, h, -⟩)
    · cases hx
    · exact h
  · rintro rfl
    exact .inr ⟨rfl, rfl, by simp⟩

end Scalar

namespace Entries

variable {es rest : Entries} {k key : Scalar} {v w : Value} {p : Scalar × Value}

/-- A mapping with each key once. -/
def Distinct (es : Entries) : Prop :=
  es.Pairwise fun p q => p.1.sameKey q.1 = false

theorem find?_cons_same (h : k.sameKey key = true) : find? key ((k, v) :: rest) = some v := by
  simp [find?, h]

theorem find?_cons_other (h : k.sameKey key = false) :
    find? key ((k, v) :: rest) = find? key rest := by
  simp [find?, h]

theorem find?_congr (h : k.sameKey key = true) (es : Entries) : find? k es = find? key es := by
  induction es with
  | nil => rfl
  | cons p rest ih =>
    obtain ⟨a, v⟩ := p
    simp only [find?, Scalar.sameKey_congr h a, ih]

theorem exists_mem_of_find? (h : find? key es = some v) :
    ∃ k, (k, v) ∈ es ∧ k.sameKey key = true := by
  induction es with
  | nil => cases h
  | cons p rest ih =>
    obtain ⟨k, w⟩ := p
    cases hk : k.sameKey key with
    | true =>
      rw [find?_cons_same hk] at h
      cases h
      exact ⟨k, List.mem_cons_self, hk⟩
    | false =>
      rw [find?_cons_other hk] at h
      obtain ⟨k', hmem, hk'⟩ := ih h
      exact ⟨k', List.mem_cons_of_mem _ hmem, hk'⟩

/-- Only the key that is given a new value is affected. -/
theorem find?_insert (key k : Scalar) (v : Value) (es : Entries) :
    find? k (insert key v es) = if key.sameKey k then some v else find? k es := by
  induction es with
  | nil => rfl
  | cons p rest ih =>
    obtain ⟨a, w⟩ := p
    cases ha : a.sameKey key with
    | true =>
      have hk := Scalar.sameKey_congr_left ha k
      simp only [insert, ha, if_true, find?, hk]
      split <;> rfl
    | false =>
      simp only [insert, ha, Bool.false_eq_true, if_false, find?, ih]
      cases hk : key.sameKey k with
      | true =>
        have hne : a.sameKey k = false := by rw [← Scalar.sameKey_congr hk a, ha]
        simp [hne]
      | false => simp

/-- What is in a mapping after a key was given a value: the entries of before and one with that value,
under the key as it was or as it is given. -/
theorem mem_insert (h : p ∈ insert key v es) :
    p ∈ es ∨ (p.2 = v ∧ (p.1 = key ∨ ∃ w, (p.1, w) ∈ es)) := by
  induction es with
  | nil =>
    cases List.mem_singleton.mp h
    exact .inr ⟨rfl, .inl rfl⟩
  | cons q rest ih =>
    obtain ⟨a, w⟩ := q
    simp only [insert] at h
    split at h
    · rcases List.mem_cons.mp h with rfl | hmem
      · exact .inr ⟨rfl, .inr ⟨w, List.mem_cons_self⟩⟩
      · exact .inl (List.mem_cons_of_mem _ hmem)
    · rcases List.mem_cons.mp h with rfl | hmem
      · exact .inl List.mem_cons_self
      · rcases ih hmem with hrest | ⟨hv, hkey | ⟨w', hw'⟩⟩
        · exact .inl (List.mem_cons_of_mem _ hrest)
        · exact .inr ⟨hv, .inl hkey⟩
        · exact .inr ⟨hv, .inr ⟨w', List.mem_cons_of_mem _ hw'⟩⟩

theorem distinct_insert (h : es.Distinct) : (insert key v es).Distinct := by
  induction es with
  | nil => exact List.pairwise_singleton ..
  | cons p rest ih =>
    obtain ⟨a, w⟩ := p
    obtain ⟨hhead, hrest⟩ := List.pairwise_cons.mp h
    simp only [insert]
    split
    · exact List.pairwise_cons.mpr ⟨hhead, hrest⟩
    · rename_i hother
      refine List.pairwise_cons.mpr ⟨fun q hq => ?_, ih hrest⟩
      rcases mem_insert hq with hmem | ⟨-, hkey | ⟨w', hmem⟩⟩
      · exact hhead q hmem
      · rw [hkey]; simpa using hother
      · exact hhead (q.1, w') hmem

end Entries

namespace Value

/-- At every depth, a mapping has each key once. -/
inductive Proper : Value → Prop
  | scalar (s : Scalar) : Proper (.scalar s)
  | list {items : List Value} : (∀ v ∈ items, Proper v) → Proper (.list items)
  | map {entries : Entries} :
      entries.Distinct → (∀ p ∈ entries, Proper p.2) → Proper (.map entries)

/-- What a path of keys leads to, mapping by mapping. -/
def at? : List Scalar → Value → Option Value
  | [], v => some v
  | k :: ks, .map entries => (Entries.find? k entries).bind (at? ks)
  | _ :: _, _ => none

variable {v w : Value} {below : Option Value} {bottom top : Entries} {k : Scalar}

theorem Proper.distinct (h : (Value.map top).Proper) : top.Distinct := by
  cases h with
  | map hkeys _ => exact hkeys

theorem Proper.find? (h : (Value.map top).Proper) (hv : Entries.find? k top = some v) : v.Proper := by
  cases h with
  | map _ hvalues =>
    obtain ⟨k', hmem, -⟩ := Entries.exists_mem_of_find? hv
    exact hvalues _ hmem

@[simp] theorem over_scalar (s : Scalar) : Value.over below (.scalar s) = .scalar s := by
  rw [Value.over]

@[simp] theorem over_list (items : List Value) : Value.over below (.list items) = .list items := by
  rw [Value.over]

@[simp] theorem over_map_map :
    Value.over (some (.map bottom)) (.map top) = .map (Entries.over bottom top) := by
  rw [Value.over]

/-- Only over a mapping does a value change. -/
theorem over_eq_self (h : ∀ entries, below ≠ some (.map entries)) : v.over below = v := by
  cases v with
  | scalar s => exact over_scalar s
  | list items => exact over_list items
  | map top =>
    rw [Value.over]
    exact h

/-- A mapping shows as one over anything. -/
theorem exists_over_map (below : Option Value) (top : Entries) :
    ∃ entries, Value.over below (.map top) = .map entries := by
  cases below with
  | none => exact ⟨top, over_eq_self (by simp)⟩
  | some b =>
    cases b with
    | scalar s => exact ⟨top, over_eq_self (by simp)⟩
    | list items => exact ⟨top, over_eq_self (by simp)⟩
    | map bottom => exact ⟨_, over_map_map⟩

end Value

namespace Entries

variable {bottom top : Entries} {k : Scalar}

/-- **One mapping over another, key by key.** A key that the upper one lacks shows what is below, and
any other what the upper one has there, laid over what is below. By induction on the upper mapping,
whose entries go in one after the other: since no key comes twice, none is laid over itself. -/
theorem find?_over (h : top.Distinct) :
    find? k (Entries.over bottom top) =
      match find? k top with
      | none => find? k bottom
      | some v => some (v.over (find? k bottom)) := by
  induction top generalizing bottom with
  | nil => rw [Entries.over]; rfl
  | cons p rest ih =>
    obtain ⟨a, v⟩ := p
    obtain ⟨hhead, hrest⟩ := List.pairwise_cons.mp h
    rw [Entries.over, ih hrest]
    cases hk : a.sameKey k with
    | false => rw [find?_cons_other hk, find?_insert, hk]; rfl
    | true =>
      have habsent : find? k rest = none := by
        rw [Option.eq_none_iff_forall_ne_some]
        intro w hw
        obtain ⟨k', hmem, hk'⟩ := exists_mem_of_find? hw
        have hsame := Scalar.sameKey_trans hk (Scalar.sameKey_symm hk')
        rw [hhead _ hmem] at hsame
        cases hsame
      rw [find?_cons_same hk, habsent, find?_insert, hk, find?_congr hk]
      rfl

/-- What shows under a text where the lower mapping has a value. -/
theorem get?_over {key : Text} {below : Value} (h : top.Distinct)
    (hbelow : bottom.get? key = some below) :
    get? (Entries.over bottom top) key =
      some (((top.get? key).map (·.over (some below))).getD below) := by
  rw [get?, find?_over h]
  rw [get?] at hbelow
  rw [hbelow, get?]
  cases find? (.text key) top <;> rfl

end Entries

end TypedText
