import TypedText.Proofs.Value.Merge

/-!
# TypedText.Proofs.Value.Layers

One mapping over another, path by path. What the upper one has at a path lies over what the lower one has
there; where it has nothing, the lower one shows through, unless a leaf of the upper one stands above
(`at?_over`). So the recursion can be said by what is a leaf and what a section at each path
(`over_by_paths`).

* `Value.LeafAt`, `Value.SectionAt`: what a path can lead to.
* `Value.OnlySections`: no leaf at a path or above it.
* `Value.TextKeyed`: the mappings whose keys are texts, at every depth.
-/

namespace TypedText
namespace Value

def LeafAt (v : Value) (path : List Scalar) (leaf : Value) : Prop :=
  v.at? path = some leaf ∧ ∀ entries, leaf ≠ .map entries

def SectionAt (v : Value) (path : List Scalar) : Prop :=
  ∃ entries, v.at? path = some (.map entries)

/-- Whatever stands at the path or above it is a mapping. -/
def OnlySections (v : Value) (path : List Scalar) : Prop :=
  ∀ above, above <+: path → ∀ leaf, ¬ v.LeafAt above leaf

/-- A mapping has texts for keys, each once, and so have the mappings in it. What lists hold is not
looked at. -/
inductive TextKeyed : Value → Prop
  | scalar (s : Scalar) : TextKeyed (.scalar s)
  | list (items : List Value) : TextKeyed (.list items)
  | map {entries : Entries} :
      entries.Distinct → (∀ p ∈ entries, ∃ key, p.1 = .text key) → (∀ p ∈ entries, TextKeyed p.2) →
      TextKeyed (.map entries)

variable {v w u leaf : Value} {below : Option Value} {bottom top : Entries} {k : Scalar}
  {path rest : List Scalar}

theorem TextKeyed.distinct (h : (Value.map top).TextKeyed) : top.Distinct := by
  cases h with
  | map hkeys _ _ => exact hkeys

theorem TextKeyed.find? (h : (Value.map top).TextKeyed) (hv : Entries.find? k top = some v) :
    v.TextKeyed := by
  cases h with
  | map _ _ hvalues =>
    obtain ⟨k', hmem, -⟩ := Entries.exists_mem_of_find? hv
    exact hvalues _ hmem

/-! ## Paths -/

theorem at?_cons_map : (Value.map top).at? (k :: rest) = (Entries.find? k top).bind (at? rest) :=
  rfl

theorem at?_cons_of_leaf (h : ∀ entries, v ≠ .map entries) : v.at? (k :: rest) = none := by
  cases v with
  | scalar s => rfl
  | list items => rfl
  | map entries => exact absurd rfl (h entries)

theorem at?_append (v : Value) (path rest : List Scalar) :
    v.at? (path ++ rest) = (v.at? path).bind (at? rest) := by
  induction path generalizing v with
  | nil => rfl
  | cons k path ih =>
    cases v with
    | scalar s => rfl
    | list items => rfl
    | map entries =>
      rw [List.cons_append, at?_cons_map, at?_cons_map, Option.bind_assoc]
      exact congrArg _ (funext ih)

theorem bind_at?_cons (below : Option Value) (k : Scalar) (rest : List Scalar) :
    below.bind (at? (k :: rest)) = (below.bind (at? [k])).bind (at? rest) := by
  rw [Option.bind_assoc]
  exact congrArg _ (funext fun w => at?_append w [k] rest)

/-- A path goes on below mappings only. -/
theorem bind_at?_cons_of_leaf (h : ∀ entries, below ≠ some (.map entries)) :
    below.bind (at? (k :: rest)) = none := by
  cases below with
  | none => rfl
  | some w => exact at?_cons_of_leaf fun entries hw => h entries (by rw [hw])

theorem onlySections_map_cons :
    (Value.map top).OnlySections (k :: rest) ↔
      ∀ u, Entries.find? k top = some u → u.OnlySections rest := by
  constructor
  · rintro h u hu above habove leaf ⟨hleaf, hno⟩
    refine h (k :: above) (List.cons_prefix_cons.mpr ⟨rfl, habove⟩) leaf ⟨?_, hno⟩
    rw [at?_cons_map, hu]
    exact hleaf
  · rintro h above habove leaf ⟨hleaf, hno⟩
    cases above with
    | nil => exact hno top (Option.some.inj hleaf).symm
    | cons k' above =>
      obtain ⟨rfl, hrest⟩ := List.cons_prefix_cons.mp habove
      obtain ⟨u, hu, hat⟩ := Option.bind_eq_some_iff.mp hleaf
      exact h u hu above hrest leaf ⟨hat, hno⟩

theorem not_onlySections_of_leaf (h : ∀ entries, v ≠ .map entries) : ¬ v.OnlySections path :=
  fun hsections => hsections [] List.nil_prefix v ⟨rfl, h⟩

/-! ## What shows -/

theorem eq_map_or_leaf (v : Value) :
    (∃ entries, v = .map entries) ∨ ∀ entries, v ≠ .map entries := by
  cases v with
  | scalar s => exact .inr (by simp)
  | list items => exact .inr (by simp)
  | map entries => exact .inl ⟨entries, rfl⟩

@[simp] theorem over_none : v.over none = v :=
  over_eq_self (by simp)

theorem over_of_leaf (h : ∀ entries, v ≠ .map entries) : v.over below = v := by
  cases v with
  | scalar s => exact over_scalar s
  | list items => exact over_list items
  | map entries => exact absurd rfl (h entries)

theorem over_eq_leaf_iff (h : ∀ entries, leaf ≠ .map entries) : v.over below = leaf ↔ v = leaf := by
  rcases eq_map_or_leaf v with ⟨top, rfl⟩ | hv
  · obtain ⟨entries, hover⟩ := exists_over_map below top
    rw [hover]
    exact ⟨fun heq => absurd heq.symm (h entries), fun heq => absurd heq.symm (h top)⟩
  · rw [over_of_leaf hv]

theorem exists_over_eq_map_iff :
    (∃ entries, v.over below = .map entries) ↔ ∃ entries, v = .map entries := by
  rcases eq_map_or_leaf v with ⟨top, rfl⟩ | hv
  · obtain ⟨entries, hover⟩ := exists_over_map below top
    exact ⟨fun _ => ⟨top, rfl⟩, fun _ => ⟨entries, hover⟩⟩
  · rw [over_of_leaf hv]

theorem at?_over_cons (h : top.Distinct) :
    ((Value.map top).over below).at? (k :: rest) =
      match Entries.find? k top with
      | none => below.bind (at? (k :: rest))
      | some u => (u.over (below.bind (at? [k]))).at? rest := by
  by_cases hbelow : ∃ bottom, below = some (.map bottom)
  · obtain ⟨bottom, rfl⟩ := hbelow
    have hone : (some (Value.map bottom)).bind (at? [k]) = Entries.find? k bottom := by
      rw [Option.bind_some, at?_cons_map]
      exact Option.bind_fun_some _
    rw [over_map_map, at?_cons_map, Entries.find?_over h, hone]
    cases Entries.find? k top <;> rfl
  · rw [not_exists] at hbelow
    rw [over_eq_self hbelow, at?_cons_map, bind_at?_cons_of_leaf hbelow, bind_at?_cons_of_leaf hbelow]
    cases Entries.find? k top with
    | none => rfl
    | some u => simp only [over_none, Option.bind_some]

open Classical in
/-- **One value over another, path by path.** By induction on the path, a step of which goes down in both
values at once. -/
theorem at?_over (h : v.TextKeyed) (below : Option Value) (path : List Scalar) :
    (v.over below).at? path =
      match v.at? path with
      | some u => some (u.over (below.bind (at? path)))
      | none => if v.OnlySections path then below.bind (at? path) else none := by
  induction path generalizing v below with
  | nil =>
    have hself : below.bind (at? []) = below := Option.bind_fun_some _
    rw [hself]
    rfl
  | cons k rest ih =>
    rcases eq_map_or_leaf v with ⟨top, rfl⟩ | hleaf
    · rw [at?_over_cons h.distinct, at?_cons_map]
      cases hk : Entries.find? k top with
      | none =>
        have hopen : (Value.map top).OnlySections (k :: rest) :=
          onlySections_map_cons.mpr fun u hu => by rw [hk] at hu; cases hu
        simp only [Option.bind_none, if_pos hopen]
      | some u =>
        have hopen : (Value.map top).OnlySections (k :: rest) ↔ u.OnlySections rest := by
          rw [onlySections_map_cons, hk]
          simp
        simp only [Option.bind_some, ih (h.find? hk), bind_at?_cons below k rest, hopen]
    · rw [over_of_leaf hleaf, at?_cons_of_leaf hleaf]
      simp only [if_neg (not_onlySections_of_leaf hleaf)]

/-- A leaf that shows is one of the upper value, or one of the lower where the upper has nothing and
leaves the way open. -/
theorem leafAt_over_iff (h : v.TextKeyed) :
    (v.over (some w)).LeafAt path leaf ↔
      v.LeafAt path leaf ∨ w.LeafAt path leaf ∧ v.at? path = none ∧ v.OnlySections path := by
  classical
  rw [LeafAt, at?_over h, Option.bind_some]
  cases hu : v.at? path with
  | some u =>
    simp only [LeafAt, hu, Option.some.injEq, reduceCtorEq, false_and, and_false, or_false]
    exact and_congr_left over_eq_leaf_iff
  | none =>
    by_cases hopen : v.OnlySections path
    · simp [LeafAt, hu, hopen]
    · simp [LeafAt, hu, hopen]

/-- A section shows where the upper value has one, and where the lower has one and the upper leaves
the way open. -/
theorem sectionAt_over_iff (h : v.TextKeyed) :
    (v.over (some w)).SectionAt path ↔
      v.SectionAt path ∨ w.SectionAt path ∧ v.OnlySections path := by
  classical
  rw [SectionAt, at?_over h, Option.bind_some]
  cases hu : v.at? path with
  | some u =>
    simp only [SectionAt, hu, Option.some.injEq, exists_over_eq_map_iff]
    rcases eq_map_or_leaf u with ⟨entries, rfl⟩ | hleaf
    · simp
    · have hshut : ¬ v.OnlySections path := fun hopen => hopen path (List.prefix_refl path) u ⟨hu, hleaf⟩
      simp [hshut]
  | none =>
    by_cases hopen : v.OnlySections path
    · simp [SectionAt, hu, hopen]
    · simp [SectionAt, hu, hopen]

end Value

namespace Entries

variable {bottom top es : Entries} {k : Scalar} {v : Value}

theorem find?_of_mem (h : es.Distinct) (hk : k.sameKey k = true) (hmem : (k, v) ∈ es) :
    find? k es = some v := by
  induction es with
  | nil => cases hmem
  | cons p rest ih =>
    obtain ⟨hhead, hrest⟩ := List.pairwise_cons.mp h
    rcases List.mem_cons.mp hmem with rfl | hlater
    · exact find?_cons_same hk
    · obtain ⟨a, w⟩ := p
      have ha : a.sameKey k = false := hhead _ hlater
      rw [find?_cons_other ha]
      exact ih hrest hlater

theorem insert_of_find? (h : find? k es = some v) : insert k v es = es := by
  induction es with
  | nil => cases h
  | cons p rest ih =>
    obtain ⟨a, w⟩ := p
    cases ha : a.sameKey k with
    | true =>
      rw [find?_cons_same ha] at h
      cases h
      simp only [insert, ha, if_true]
    | false =>
      rw [find?_cons_other ha] at h
      simp only [insert, ha, Bool.false_eq_true, if_false, ih h]

theorem find?_of_fresh (h : ∀ p ∈ es, p.1.sameKey k = false) : find? k es = none := by
  rw [Option.eq_none_iff_forall_ne_some]
  intro v hv
  obtain ⟨k', hmem, hk'⟩ := exists_mem_of_find? hv
  rw [h _ hmem] at hk'
  cases hk'

theorem insert_of_fresh (h : ∀ p ∈ es, p.1.sameKey k = false) : insert k v es = es ++ [(k, v)] := by
  induction es with
  | nil => rfl
  | cons p rest ih =>
    obtain ⟨a, w⟩ := p
    have ha : a.sameKey k = false := h _ List.mem_cons_self
    simp only [insert, ha, Bool.false_eq_true, if_false, List.cons_append,
      ih fun q hq => h q (List.mem_cons_of_mem _ hq)]

theorem over_of_fresh (h : Distinct (bottom ++ top)) : Entries.over bottom top = bottom ++ top := by
  induction top generalizing bottom with
  | nil => rw [Entries.over, List.append_nil]
  | cons p rest ih =>
    obtain ⟨k, v⟩ := p
    have hfresh : ∀ q ∈ bottom, q.1.sameKey k = false := fun q hq =>
      (List.pairwise_append.mp h).2.2 q hq _ List.mem_cons_self
    have hassoc : bottom ++ (k, v) :: rest = (bottom ++ [(k, v)]) ++ rest := by simp
    rw [Entries.over, find?_of_fresh hfresh, Value.over_none, insert_of_fresh hfresh, hassoc]
    rw [hassoc] at h
    exact ih h

theorem nil_over (h : top.Distinct) : Entries.over [] top = top := by
  have hfresh : Distinct ([] ++ top) := h
  exact over_of_fresh hfresh

theorem over_of_shown
    (h : ∀ p ∈ top, ∃ w, find? p.1 bottom = some w ∧ p.2.over (some w) = w) :
    Entries.over bottom top = bottom := by
  induction top with
  | nil => rw [Entries.over]
  | cons p rest ih =>
    obtain ⟨w, hw, hshown⟩ := h p List.mem_cons_self
    rw [Entries.over, hw, hshown, insert_of_find? hw]
    exact ih fun q hq => h q (List.mem_cons_of_mem _ hq)

end Entries

namespace Value

variable {v : Value} {below : Option Value} {bottom top : Entries}

/-- A mapping shows as one laid over a mapping, which is empty where there was none. -/
theorem exists_over_eq (h : top.Distinct) (below : Option Value) :
    ∃ bottom, (Value.map top).over below = .map (Entries.over bottom top) := by
  by_cases hbelow : ∃ bottom, below = some (.map bottom)
  · obtain ⟨bottom, rfl⟩ := hbelow
    exact ⟨bottom, over_map_map⟩
  · rw [not_exists] at hbelow
    refine ⟨[], ?_⟩
    rw [over_eq_self hbelow, Entries.nil_over h]

/-- Laying a value once more over what it lies over changes nothing. By induction on the value: each entry
of a mapping shows already, laid over what was below it. -/
theorem over_over_self (h : v.TextKeyed) (below : Option Value) :
    v.over (some (v.over below)) = v.over below := by
  induction h generalizing below with
  | scalar s => rw [over_scalar, over_scalar]
  | list items => rw [over_list, over_list]
  | @map top hkeys htexts hvalues ih =>
    obtain ⟨bottom, hover⟩ := exists_over_eq hkeys below
    rw [hover, over_map_map]
    refine congrArg Value.map (Entries.over_of_shown fun p hp => ?_)
    obtain ⟨key, hkey⟩ := htexts p hp
    have hself : p.1.sameKey p.1 = true := by rw [hkey, Scalar.sameKey_text_iff]
    refine ⟨p.2.over (Entries.find? p.1 bottom), ?_, ih p hp _⟩
    rw [Entries.find?_over hkeys, Entries.find?_of_mem hkeys hself hp]

theorem onlySections_map_iff {path : List Scalar} :
    (Value.map top).OnlySections path ↔
      ∀ above, above ≠ [] → above <+: path → ∀ leaf, ¬ (Value.map top).LeafAt above leaf := by
  constructor
  · exact fun h above _ => h above
  · rintro h above habove leaf hleaf
    refine h above ?_ habove leaf hleaf
    rintro rfl
    exact hleaf.2 top (Option.some.inj hleaf.1).symm

/-- **One mapping over another.** At each path a leaf shows if the upper mapping has it, or if the lower
one has it where the upper has nothing and no leaf above; a section, if the upper one has one, or the lower
one where the upper has no leaf, there or above. So an empty mapping changes nothing, neither below nor on
top, and laying the same mapping over the result once more does not either. -/
theorem over_by_paths (bottom : Entries) (h : (Value.map top).TextKeyed) :
    (∀ path,
      (∀ leaf, (Value.map (Entries.over bottom top)).LeafAt path leaf ↔
        (Value.map top).LeafAt path leaf ∨
          (Value.map bottom).LeafAt path leaf ∧ (Value.map top).at? path = none ∧
            ∀ above, above ≠ [] → above <+: path → above ≠ path →
              ∀ other, ¬ (Value.map top).LeafAt above other) ∧
      ((Value.map (Entries.over bottom top)).SectionAt path ↔
        (Value.map top).SectionAt path ∨
          (Value.map bottom).SectionAt path ∧
            ∀ above, above ≠ [] → above <+: path → ∀ other, ¬ (Value.map top).LeafAt above other)) ∧
    Entries.over bottom [] = bottom ∧ Entries.over [] top = top ∧
    Entries.over (Entries.over bottom top) top = Entries.over bottom top := by
  refine ⟨fun path => ⟨fun leaf => ?_, ?_⟩, by rw [Entries.over], ?_, ?_⟩
  · rw [← over_map_map, leafAt_over_iff h, onlySections_map_iff]
    refine or_congr_right (and_congr_right fun _ => and_congr_right fun hnone => ?_)
    constructor
    · exact fun hopen above hne habove _ => hopen above hne habove
    · rintro hopen above hne habove other hother
      refine hopen above hne habove ?_ other hother
      rintro rfl
      rw [LeafAt, hnone] at hother
      cases hother.1
  · rw [← over_map_map, sectionAt_over_iff h, onlySections_map_iff]
  · exact Entries.nil_over h.distinct
  · have hself := over_over_self h (some (.map bottom))
    rw [over_map_map, over_map_map] at hself
    exact Value.map.inj hself

/-- A section `s` laid over one that differs in `a`, and a number over the section `t`. -/
theorem over_by_paths_section :
    let number (n : Int) : Value := .scalar (.int n)
    let bottom : Entries :=
      [(.text [0x73], .map [(.text [0x61], number 1), (.text [0x62], number 2)]),
        (.text [0x74], .map [(.text [0x61], number 3)])]
    let top : Entries :=
      [(.text [0x73], .map [(.text [0x61], .map [(.text [0x63], number 4)])]), (.text [0x74], number 5)]
    (Value.map top).TextKeyed ∧
    (Value.map (Entries.over bottom top)).LeafAt [.text [0x73], .text [0x62]] (number 2) ∧
    (Value.map (Entries.over bottom top)).SectionAt [.text [0x73], .text [0x61]] ∧
    ¬ (Value.map (Entries.over bottom top)).SectionAt [.text [0x74]] := by
  intro number bottom top
  have hinner : (Value.map [(.text [0x63], number 4)]).TextKeyed := by
    refine .map (List.pairwise_singleton ..) ?_ ?_ <;> simp [number, TextKeyed.scalar]
  have hsection : (Value.map [(.text [0x61], .map [(.text [0x63], number 4)])]).TextKeyed := by
    refine .map (List.pairwise_singleton ..) ?_ ?_ <;> simp [hinner]
  have htop : (Value.map top).TextKeyed := by
    refine .map (List.pairwise_pair.mpr rfl) ?_ ?_ <;> simp [top, hsection, number, TextKeyed.scalar]
  obtain ⟨hpaths, -⟩ := over_by_paths bottom htop
  refine ⟨htop, ((hpaths _).1 _).mpr (.inr ⟨⟨rfl, by simp [number]⟩, rfl, ?_⟩),
    (hpaths _).2.mpr (.inl ⟨_, rfl⟩), fun hsection => ?_⟩
  · rintro above hne habove hproper other ⟨hat, hleaf⟩
    -- the one path between the root and the leaf is `s`, where both have a section
    obtain hnil | ⟨behind, rfl, hbehind⟩ := List.prefix_cons_iff.mp habove
    · exact hne hnil
    · obtain rfl | ⟨last, rfl, hlast⟩ := List.prefix_cons_iff.mp hbehind
      · exact hleaf _ (Option.some.inj hat).symm
      · exact hproper (by rw [List.prefix_nil.mp hlast])
  · rcases (hpaths _).2.mp hsection with ⟨entries, htop⟩ | ⟨-, hopen⟩
    · cases htop
    · exact hopen [.text [0x74]] (by simp) (List.prefix_refl _) (number 5) ⟨rfl, by simp [number]⟩

end Value
end TypedText
