import TypedText.Proofs.Value.Merge
import TypedText.Value.Schema

/-!
# TypedText.Proofs.Value.Schema

Conforming to a schema, and getting there by filling in. Where a value conforms to a schema, laying
another one over it can leave nothing missing (`not_missing_over`), and the result conforms exactly if
what the upper one has is of the right kinds, whatever it leaves out (`conforms_over_iff`).

* `Schema.Conforms`: everything the schema names is there, of the kind it asks for.
* `Schema.Fits`: what is there of it is of that kind.
* `faultsAt_eq_nil_iff`: a check without faults is conformity.
-/

namespace TypedText

namespace ValueKind

/-- Mappings count alike for a kind, and other values show unchanged over anything. -/
theorem admits_over (kind : ValueKind) (below : Option Value) (v : Value) :
    kind.admits (v.over below) = kind.admits v := by
  cases v with
  | scalar s => rw [Value.over_scalar]
  | list items => rw [Value.over_list]
  | map top =>
    obtain ⟨entries, h⟩ := Value.exists_over_map below top
    rw [h]
    exact kind.admits_map entries top

end ValueKind

namespace Schema

/-- What holds of a schema if it holds of the schemas it names holds of every schema. -/
@[elab_as_elim]
theorem induct {motive : Schema → Prop} (leaf : ∀ kind, motive (.leaf kind))
    (sections : ∀ entries, (∀ p ∈ entries, motive p.2) → motive (.sections entries)) :
    ∀ schema, motive schema
  | .leaf kind => leaf kind
  | .sections entries => sections entries fun p _ => induct leaf sections p.2
termination_by schema => sizeOf schema
decreasing_by
  have := List.sizeOf_lt_of_mem ‹p ∈ entries›
  obtain ⟨key, schema⟩ := p
  simp only [Prod.mk.sizeOf_spec, Schema.sections.sizeOf_spec] at this ⊢
  omega

/-- Everything the schema names is there, of the kind it asks for. -/
inductive Conforms : Schema → Value → Prop
  | leaf {kind : ValueKind} {v : Value} : kind.admits v = true → Conforms (.leaf kind) v
  | sections {entries : List (Text × Schema)} {data : Entries} :
      (∀ p ∈ entries, (data.get? p.1).isSome = true) →
      (∀ p ∈ entries, ∀ v, data.get? p.1 = some v → Conforms p.2 v) →
      Conforms (.sections entries) (.map data)

/-- Whatever is there of what the schema names is of the kind it asks for. -/
inductive Fits : Schema → Value → Prop
  | leaf {kind : ValueKind} {v : Value} : kind.admits v = true → Fits (.leaf kind) v
  | sections {entries : List (Text × Schema)} {data : Entries} :
      (∀ p ∈ entries, ∀ v, data.get? p.1 = some v → Fits p.2 v) →
      Fits (.sections entries) (.map data)

variable {path start : Text} {entries : List (Text × Schema)} {data : Entries} {v base : Value}
  {kind : ValueKind} {schema : Schema} {fault : SchemaFault}

theorem conforms_leaf_iff : Conforms (.leaf kind) v ↔ kind.admits v = true :=
  ⟨fun h => by cases h; assumption, .leaf⟩

theorem fits_leaf_iff : Fits (.leaf kind) v ↔ kind.admits v = true :=
  ⟨fun h => by cases h; assumption, .leaf⟩

theorem conforms_sections_iff :
    Conforms (.sections entries) (.map data) ↔
      ∀ p ∈ entries, ∃ v, data.get? p.1 = some v ∧ Conforms p.2 v := by
  constructor
  · intro h p hp
    cases h with
    | sections hpresent hconform =>
      obtain ⟨v, hv⟩ := Option.isSome_iff_exists.mp (hpresent p hp)
      exact ⟨v, hv, hconform p hp v hv⟩
  · intro h
    refine .sections (fun p hp => ?_) fun p hp v hv => ?_
    · obtain ⟨v, hv, -⟩ := h p hp
      rw [hv]; rfl
    · obtain ⟨w, hw, hconform⟩ := h p hp
      rw [hv] at hw
      cases hw
      exact hconform

theorem fits_sections_iff :
    Fits (.sections entries) (.map data) ↔
      ∀ p ∈ entries, ∀ v, data.get? p.1 = some v → Fits p.2 v :=
  ⟨fun h => by cases h; assumption, .sections⟩

/-- What a schema asks for under a path of keys. -/
def at? : List Text → Schema → Option Schema
  | [], schema => some schema
  | key :: keys, .sections entries => (entries.lookup key).bind (at? keys)
  | _ :: _, .leaf _ => none

theorem exists_at?_of_conforms {path : List Text} {below : Schema} (h : schema.Conforms v)
    (hpath : schema.at? path = some below) :
    ∃ w, v.at? (path.map .text) = some w ∧ below.Conforms w := by
  induction path generalizing schema v with
  | nil =>
    cases hpath
    exact ⟨v, rfl, h⟩
  | cons key keys ih =>
    cases h with
    | leaf _ => cases hpath
    | @sections entries data hpresent hconform =>
      obtain ⟨inner, hinner, hrest⟩ := Option.bind_eq_some_iff.mp hpath
      have hmem : (key, inner) ∈ entries := by
        obtain ⟨before, after, rfl, -⟩ := List.lookup_eq_some_iff.mp hinner
        exact List.mem_append_right _ List.mem_cons_self
      obtain ⟨w, hw⟩ := Option.isSome_iff_exists.mp (hpresent _ hmem)
      obtain ⟨u, hu, hbelow⟩ := ih (hconform _ hmem w hw) hrest
      rw [Entries.get?] at hw
      refine ⟨u, ?_, hbelow⟩
      rw [List.map_cons, Value.at?, hw]
      exact hu

/-! ## Faults -/

theorem mem_faults_iff :
    fault ∈ faults start data entries ↔
      ∃ p ∈ entries, fault ∈ faultsAt (start ++ p.1) (data.get? p.1) p.2 := by
  induction entries with
  | nil => simp [faults]
  | cons p rest ih =>
    obtain ⟨key, schema⟩ := p
    simp [faults, ih]

theorem faults_eq_nil_iff :
    faults start data entries = [] ↔
      ∀ p ∈ entries, faultsAt (start ++ p.1) (data.get? p.1) p.2 = [] := by
  simp only [List.eq_nil_iff_forall_not_mem, mem_faults_iff]
  constructor
  · intro h p hp fault hfault
    exact h fault ⟨p, hp, hfault⟩
  · rintro h fault ⟨p, hp, hfault⟩
    exact h p hp fault hfault

theorem faultsAt_eq_nil_iff_exists {v? : Option Value}
    (h : ∀ path v, faultsAt path (some v) schema = [] ↔ schema.Conforms v) :
    faultsAt path v? schema = [] ↔ ∃ v, v? = some v ∧ schema.Conforms v := by
  cases v? with
  | none =>
    have hmissing : faultsAt path none schema ≠ [] := by cases schema <;> simp [faultsAt]
    simp [hmissing]
  | some v => simp [h]

/-- **A value without faults conforms.** By induction on the schema, as faults are looked for. -/
theorem faultsAt_eq_nil_iff (schema : Schema) (path : Text) (v : Value) :
    faultsAt path (some v) schema = [] ↔ schema.Conforms v := by
  induction schema using Schema.induct generalizing path v with
  | leaf kind =>
    rw [conforms_leaf_iff, faultsAt]
    cases kind.admits v <;> simp
  | sections entries ih =>
    cases v with
    | map data =>
      rw [conforms_sections_iff, faultsAt, faults_eq_nil_iff]
      exact forall₂_congr fun p hp => faultsAt_eq_nil_iff_exists (ih p hp)
    | scalar s =>
      simp only [faultsAt, List.cons_ne_nil, false_iff]
      intro h
      cases h
    | list items =>
      simp only [faultsAt, List.cons_ne_nil, false_iff]
      intro h
      cases h

theorem faults_eq_nil_iff_conforms :
    faults start data entries = [] ↔ Conforms (.sections entries) (.map data) := by
  rw [conforms_sections_iff, faults_eq_nil_iff]
  exact forall₂_congr fun p _ => faultsAt_eq_nil_iff_exists (faultsAt_eq_nil_iff p.2)

/-! ## Laying a value over one that conforms -/

theorem not_missing_entry {bottom top : Entries} {key : Text} {below : Value} {place : Text}
    (htop : top.Distinct) (hbelow : bottom.get? key = some below) (hconform : schema.Conforms below)
    (hover : ∀ w, top.get? key = some w →
      ∀ path, fault ∈ faultsAt path (some (w.over (some below))) schema → fault ≠ .missing place)
    (h : fault ∈ faultsAt path (Entries.get? (Entries.over bottom top) key) schema) :
    fault ≠ .missing place := by
  rw [Entries.get?_over htop hbelow] at h
  cases hw : top.get? key with
  | none =>
    rw [hw, Option.map_none, Option.getD_none, (faultsAt_eq_nil_iff schema path below).mpr hconform] at h
    cases h
  | some w =>
    rw [hw, Option.map_some, Option.getD_some] at h
    exact hover w hw path h

/-- **Filling in leaves nothing out.** Whatever lies over a value that conforms, no fault of the result
is that something is missing. -/
theorem not_missing_over (hbase : schema.Conforms base) (hv : v.Proper) (place : Text)
    (h : fault ∈ faultsAt path (some (v.over (some base))) schema) : fault ≠ .missing place := by
  induction hbase generalizing path v with
  | leaf _ =>
    rw [faultsAt] at h
    split at h
    · cases h
    · cases List.mem_singleton.mp h
      simp
  | @sections entries data hpresent hconform ih =>
    cases hv with
    | scalar s =>
      simp only [Value.over_scalar, faultsAt, List.mem_singleton] at h
      simp [h]
    | list _ =>
      simp only [Value.over_list, faultsAt, List.mem_singleton] at h
      simp [h]
    | @map top hkeys hvalues =>
      rw [Value.over_map_map, faultsAt, mem_faults_iff] at h
      obtain ⟨p, hp, h⟩ := h
      obtain ⟨below, hbelow⟩ := Option.isSome_iff_exists.mp (hpresent p hp)
      refine not_missing_entry hkeys hbelow (hconform p hp below hbelow) (fun w hw path hfault => ?_) h
      exact ih p hp below hbelow ((Value.Proper.map hkeys hvalues).find? hw) hfault

theorem not_missing_faults_over {bottom top : Entries}
    (hbase : Conforms (.sections entries) (.map bottom)) (htop : (Value.map top).Proper) (place : Text)
    (h : fault ∈ faults start (Entries.over bottom top) entries) : fault ≠ .missing place := by
  obtain ⟨p, hp, h⟩ := mem_faults_iff.mp h
  obtain ⟨below, hbelow, hconform⟩ := conforms_sections_iff.mp hbase p hp
  refine not_missing_entry htop.distinct hbelow hconform (fun w hw path hfault => ?_) h
  exact not_missing_over hconform (htop.find? hw) place hfault

/-- **Filling in makes up for what is left out.** Over a value that conforms, the result conforms if and
only if what lies over it fits. -/
theorem conforms_over_iff (hbase : schema.Conforms base) (hv : v.Proper) :
    schema.Conforms (v.over (some base)) ↔ schema.Fits v := by
  induction hbase generalizing v with
  | leaf _ => rw [conforms_leaf_iff, fits_leaf_iff, ValueKind.admits_over]
  | @sections entries data hpresent hconform ih =>
    cases hv with
    | scalar s =>
      rw [Value.over_scalar]
      constructor
      · intro h; cases h
      · intro h; cases h
    | list _ =>
      rw [Value.over_list]
      constructor
      · intro h; cases h
      · intro h; cases h
    | @map top hkeys hvalues =>
      rw [Value.over_map_map, conforms_sections_iff, fits_sections_iff]
      refine forall₂_congr fun p hp => ?_
      obtain ⟨below, hbelow⟩ := Option.isSome_iff_exists.mp (hpresent p hp)
      rw [Entries.get?_over hkeys hbelow]
      cases htop : top.get? p.1 with
      | none => simpa using hconform p hp below hbelow
      | some w =>
        have hw : w.Proper := (Value.Proper.map hkeys hvalues).find? htop
        simpa using ih p hp below hbelow hw

end Schema
end TypedText
