import Mathlib.Data.List.Infix
import Mathlib.Data.List.Nodup
import TypedText.Proofs.Value.Layers
import TypedText.Proofs.Value.Schema

/-!
# TypedText.Proofs.Value.SchemaPlaces

A schema as the list of its places, depth first. Checking it goes down the schema with the path so far;
what it reports is what each place has to report by itself, in the order of the places
(`faults_by_places`).

* `Schema.places`: the places of a schema, each once if it names each key once.
* `Schema.Place.fault?`: what a place reports, which is nothing unless all above it are mappings.
* `Value.outline`: what of a value a check looks at, of a mapping only that it is one.
-/

namespace TypedText

namespace Value

/-- What a mapping holds is left out. -/
def outline : Value → Value
  | .map _ => .map []
  | .list items => .list items
  | .scalar s => .scalar s

instance (v : Value) (path : List Scalar) : Decidable (v.SectionAt path) :=
  match h : v.at? path with
  | some (.map entries) => .isTrue ⟨entries, h⟩
  | some (.list _) => .isFalse (by rintro ⟨_, h'⟩; rw [h] at h'; cases h')
  | some (.scalar _) => .isFalse (by rintro ⟨_, h'⟩; rw [h] at h'; cases h')
  | none => .isFalse (by rintro ⟨_, h'⟩; rw [h] at h'; cases h')

theorem sectionAt_cons {entries : Entries} {k : Scalar} {rest : List Scalar} :
    (Value.map entries).SectionAt (k :: rest) ↔
      ∃ v, Entries.find? k entries = some v ∧ v.SectionAt rest := by
  simp only [SectionAt, at?_cons_map, Option.bind_eq_some_iff]
  constructor
  · rintro ⟨inner, v, hv, hinner⟩
    exact ⟨v, hv, inner, hinner⟩
  · rintro ⟨v, hv, inner, hinner⟩
    exact ⟨inner, v, hv, hinner⟩

theorem sectionAt_iff_outline {v : Value} {path : List Scalar} :
    v.SectionAt path ↔ (v.at? path).map outline = some (.map []) := by
  rw [SectionAt]
  cases v.at? path with
  | none => simp
  | some u => cases u <;> simp [outline]

end Value

namespace SchemaFault

def path : SchemaFault → Text
  | missing path => path
  | noSection path _ => path
  | wrongKind path _ _ => path

theorem path_infix_message (fault : SchemaFault) : fault.path <:+: fault.message := by
  cases fault with
  | missing path => exact (List.suffix_append _ _).isInfix
  | noSection path got => exact List.infix_append _ _ _
  | wrongKind path expected got => exact List.infix_append _ _ _

end SchemaFault

namespace Schema

inductive Keyed : Schema → Prop
  | leaf (kind : ValueKind) : Keyed (.leaf kind)
  | sections {entries : List (Text × Schema)} :
      (entries.map Prod.fst).Nodup → (∀ p ∈ entries, Keyed p.2) → Keyed (.sections entries)

/-- The keys that lead to a place, and what a schema asks for there. -/
structure Place where
  path : List Text
  asks : Schema

def Place.under (key : Text) (p : Place) : Place :=
  ⟨key :: p.path, p.asks⟩

mutual

/-- The places of a schema, each followed by those below it. -/
def places : Schema → List Place
  | .leaf _ => []
  | .sections entries => placesOf entries

def placesOf : List (Text × Schema) → List Place
  | [] => []
  | (key, schema) :: rest =>
    ⟨[key], schema⟩ :: (places schema).map (Place.under key) ++ placesOf rest

end

def dotted (path : List Text) : Text :=
  Text.intercalate (Text.ofString ".") path

/-- What is wrong with what stands at a path, what is below a section apart. -/
def faultOf? (path : Text) (value? : Option Value) : Schema → Option SchemaFault
  | .leaf kind =>
    match value? with
    | none => some (.missing path)
    | some value => if kind.admits value then none else some (.wrongKind path kind.name value.kind)
  | .sections _ =>
    match value? with
    | none => some (.missing path)
    | some (.map _) => none
    | some value => some (.noSection path value.kind)

namespace Place

/-- All that is above the place is there and is a mapping. -/
def Reached (p : Place) (data : Value) : Prop :=
  ∀ above, above <+: p.path → above ≠ p.path → data.SectionAt (above.map .text)

instance (p : Place) (data : Value) : Decidable (p.Reached data) :=
  decidable_of_iff (∀ above ∈ p.path.inits, above ≠ p.path → data.SectionAt (above.map .text))
    (by simp only [List.mem_inits, Reached])

/-- What a check reports of a place, the paths starting with `start`. -/
def fault? (start : Text) (data : Value) (p : Place) : Option SchemaFault :=
  if p.Reached data then faultOf? (start ++ dotted p.path) (data.at? (p.path.map .text)) p.asks else none

end Place

variable {start path key : Text} {entries : List (Text × Schema)} {data : Entries} {v : Value}
  {schema : Schema} {fault : SchemaFault} {p q : Place}

/-! ## Places -/

theorem mem_placesOf_iff :
    p ∈ placesOf entries ↔
      ∃ e ∈ entries, p = ⟨[e.1], e.2⟩ ∨ ∃ q ∈ places e.2, p = q.under e.1 := by
  induction entries with
  | nil => simp [placesOf]
  | cons e rest ih =>
    obtain ⟨key, schema⟩ := e
    simp only [placesOf, List.cons_append, List.mem_cons, List.mem_append, List.mem_map, ih,
      exists_eq_or_imp, or_assoc, eq_comm (b := p)]

theorem path_ne_nil_of_mem_places (h : p ∈ places schema) : p.path ≠ [] := by
  cases schema with
  | leaf kind => simp [places] at h
  | sections entries =>
    rw [places, mem_placesOf_iff] at h
    obtain ⟨e, -, rfl | ⟨q, -, rfl⟩⟩ := h
    · simp
    · simp [Place.under]

theorem exists_entry_of_mem_placesOf (h : p ∈ placesOf entries) :
    ∃ key rest, p.path = key :: rest ∧ key ∈ entries.map Prod.fst := by
  obtain ⟨e, he, rfl | ⟨q, -, rfl⟩⟩ := mem_placesOf_iff.mp h
  · exact ⟨e.1, [], rfl, List.mem_map_of_mem he⟩
  · exact ⟨e.1, q.path, rfl, List.mem_map_of_mem he⟩

theorem lookup_of_mem (h : (entries.map Prod.fst).Nodup) (hmem : (key, schema) ∈ entries) :
    entries.lookup key = some schema := by
  induction entries with
  | nil => cases hmem
  | cons e rest ih =>
    obtain ⟨k, s⟩ := e
    obtain ⟨hk, hrest⟩ := List.nodup_cons.mp h
    rcases List.mem_cons.mp hmem with hhead | hlater
    · cases hhead
      exact List.lookup_cons_self
    · have hother : key ≠ k := fun heq => hk (List.mem_map.mpr ⟨_, hlater, heq⟩)
      rw [List.lookup_cons, beq_eq_false_iff_ne.mpr hother]
      exact ih hrest hlater

theorem lookup_eq_some_iff_mem (h : (entries.map Prod.fst).Nodup) :
    entries.lookup key = some schema ↔ (key, schema) ∈ entries := by
  refine ⟨fun hlookup => ?_, lookup_of_mem h⟩
  obtain ⟨before, after, rfl, -⟩ := List.lookup_eq_some_iff.mp hlookup
  exact List.mem_append_right _ List.mem_cons_self

theorem mem_places_iff (h : schema.Keyed) {p : Place} :
    p ∈ places schema ↔ p.path ≠ [] ∧ schema.at? p.path = some p.asks := by
  induction schema using Schema.induct generalizing p with
  | leaf kind =>
    obtain ⟨path, asks⟩ := p
    cases path <;> simp [places, at?]
  | sections entries ih =>
    cases h with
    | sections hkeys hinner =>
      obtain ⟨path, asks⟩ := p
      rw [places, mem_placesOf_iff]
      constructor
      · rintro ⟨⟨key, schema⟩, he, hp | ⟨⟨below, asks'⟩, hq, hp⟩⟩
        · cases hp
          refine ⟨by simp, ?_⟩
          simp only [at?, lookup_of_mem hkeys he, Option.bind_some]
        · cases hp
          refine ⟨by simp, ?_⟩
          simp only [at?, lookup_of_mem hkeys he, Option.bind_some]
          exact ((ih _ he (hinner _ he)).mp hq).2
      · rintro ⟨hne, hat⟩
        cases path with
        | nil => exact absurd rfl hne
        | cons key below =>
          obtain ⟨schema, hlookup, hbelow⟩ := Option.bind_eq_some_iff.mp hat
          have he := (lookup_eq_some_iff_mem hkeys).mp hlookup
          refine ⟨(key, schema), he, ?_⟩
          cases below with
          | nil =>
            cases hbelow
            exact .inl rfl
          | cons next below =>
            exact .inr ⟨⟨next :: below, asks⟩, (ih _ he (hinner _ he)).mpr ⟨by simp, hbelow⟩, rfl⟩

theorem nodup_paths_placesOf (hkeys : (entries.map Prod.fst).Nodup)
    (h : ∀ e ∈ entries, ((places e.2).map Place.path).Nodup) :
    ((placesOf entries).map Place.path).Nodup := by
  induction entries with
  | nil => simp [placesOf]
  | cons e rest ih =>
    obtain ⟨key, schema⟩ := e
    obtain ⟨hkey, hrest⟩ := List.nodup_cons.mp hkeys
    have hunder : (((places schema).map (Place.under key)).map Place.path) =
        ((places schema).map Place.path).map (key :: ·) := by
      simp [Place.under, Function.comp_def]
    -- the key is named once, so no later place starts with it
    have hlater : ∀ below, key :: below ∉ (placesOf rest).map Place.path := by
      intro below hmem
      obtain ⟨q, hq, hpath⟩ := List.mem_map.mp hmem
      obtain ⟨key', below', hpath', hkey'⟩ := exists_entry_of_mem_placesOf hq
      rw [hpath'] at hpath
      cases hpath
      exact hkey hkey'
    have hself : [key] ∉ ((places schema).map Place.path).map (key :: ·) := by
      intro hmem
      obtain ⟨path, hpath, hcons⟩ := List.mem_map.mp hmem
      cases hcons
      obtain ⟨q, hq, hnil⟩ := List.mem_map.mp hpath
      exact path_ne_nil_of_mem_places hq hnil
    rw [placesOf, List.map_append, List.map_cons, hunder, List.cons_append, List.nodup_cons,
      List.nodup_append]
    refine ⟨?_, ?_, ih hrest fun e he => h e (List.mem_cons_of_mem _ he), ?_⟩
    · rw [List.mem_append, not_or]
      exact ⟨hself, hlater []⟩
    · exact List.Nodup.map (fun _ _ heq => List.tail_eq_of_cons_eq heq) (h _ List.mem_cons_self)
    · rintro _ hleft _ hright rfl
      obtain ⟨below, -, rfl⟩ := List.mem_map.mp hleft
      exact hlater below hright

theorem nodup_paths_places (h : schema.Keyed) : ((places schema).map Place.path).Nodup := by
  induction schema using Schema.induct with
  | leaf kind => simp [places]
  | sections entries ih =>
    cases h with
    | sections hkeys hinner =>
      rw [places]
      exact nodup_paths_placesOf hkeys fun e he => ih e he (hinner e he)

theorem exists_place_above {p : Place} (h : p ∈ places schema) {above : List Text}
    (habove : above <+: p.path) (hne : above ≠ []) : ∃ q ∈ places schema, q.path = above := by
  induction schema using Schema.induct generalizing p above with
  | leaf kind => simp [places] at h
  | sections entries ih =>
    simp only [places, mem_placesOf_iff] at h ⊢
    obtain ⟨e, he, hp⟩ := h
    have hfirst : ∃ below, p.path = e.1 :: below := by
      rcases hp with rfl | ⟨q, -, rfl⟩
      · exact ⟨[], rfl⟩
      · exact ⟨q.path, rfl⟩
    obtain ⟨below, hpath⟩ := hfirst
    rw [hpath] at habove
    obtain hnil | ⟨behind, rfl, hbehind⟩ := List.prefix_cons_iff.mp habove
    · exact absurd hnil hne
    · by_cases hlast : behind = []
      · subst hlast
        exact ⟨⟨[e.1], e.2⟩, ⟨e, he, .inl rfl⟩, rfl⟩
      · rcases hp with rfl | ⟨q, hq, rfl⟩
        · cases hpath
          exact absurd (List.prefix_nil.mp hbehind) hlast
        · cases hpath
          obtain ⟨r, hr, rfl⟩ := ih e he hq hbehind hlast
          exact ⟨r.under e.1, ⟨e, he, .inr ⟨r, hr, rfl⟩⟩, rfl⟩

/-! ## What a place reports -/

theorem dotted_cons {keys : List Text} (h : keys ≠ []) :
    dotted (key :: keys) = key ++ Text.ofString "." ++ dotted keys := by
  cases keys with
  | nil => exact absurd rfl h
  | cons next keys => rfl

theorem dotted_singleton (key : Text) : dotted [key] = key :=
  rfl

namespace Place

theorem not_reached_of_leaf (hne : p.path ≠ []) (h : ∀ entries, v ≠ .map entries) :
    ¬ p.Reached v := by
  intro hreached
  obtain ⟨entries, hroot⟩ := hreached [] List.nil_prefix hne.symm
  exact h entries (Option.some.inj hroot)

theorem fault?_of_leaf (hne : p.path ≠ []) (h : ∀ entries, v ≠ .map entries) :
    p.fault? start v = none := by
  rw [fault?, if_neg (not_reached_of_leaf hne h)]

theorem fault?_top : fault? start (.map data) ⟨[key], schema⟩ =
    faultOf? (start ++ key) (data.get? key) schema := by
  have hreached : (⟨[key], schema⟩ : Place).Reached (.map data) := by
    intro above habove hproper
    obtain rfl | ⟨behind, rfl, hbehind⟩ := List.prefix_cons_iff.mp habove
    · exact ⟨data, rfl⟩
    · rw [List.prefix_nil.mp hbehind] at hproper
      exact absurd rfl hproper
  rw [fault?, if_pos hreached, dotted_singleton]
  cases hv : Entries.find? (.text key) data <;>
    simp [Value.at?, Entries.get?, hv]

theorem reached_under_iff (hne : p.path ≠ []) :
    (p.under key).Reached (.map data) ↔ ∃ v, data.get? key = some v ∧ p.Reached v := by
  constructor
  · intro h
    obtain ⟨v, hv, -⟩ := Value.sectionAt_cons.mp (h [key] ⟨p.path, rfl⟩ (by simpa [under] using hne.symm))
    refine ⟨v, hv, fun above habove hproper => ?_⟩
    obtain ⟨w, hw, hsection⟩ := Value.sectionAt_cons.mp
      (h (key :: above) (List.cons_prefix_cons.mpr ⟨rfl, habove⟩)
        fun heq => hproper (List.tail_eq_of_cons_eq heq))
    rw [hv] at hw
    cases hw
    exact hsection
  · rintro ⟨v, hv, h⟩ above habove hproper
    obtain rfl | ⟨behind, rfl, hbehind⟩ := List.prefix_cons_iff.mp habove
    · exact ⟨data, rfl⟩
    · refine Value.sectionAt_cons.mpr ⟨v, hv, h behind hbehind ?_⟩
      rintro rfl
      exact hproper rfl

/-- Below a section, the paths of what is reported go on from the section's. -/
theorem fault?_under (hne : p.path ≠ []) :
    (p.under key).fault? start (.map data) =
      (data.get? key).bind fun v => p.fault? (start ++ key ++ Text.ofString ".") v := by
  rw [fault?]
  cases hv : data.get? key with
  | none =>
    have hshut : ¬ (p.under key).Reached (.map data) := by
      rw [reached_under_iff hne, hv]
      simp
    rw [if_neg hshut, Option.bind_none]
  | some v =>
    have hreached : (p.under key).Reached (.map data) ↔ p.Reached v := by
      rw [reached_under_iff hne, hv]
      simp
    have hpath : start ++ dotted (p.under key).path =
        start ++ key ++ Text.ofString "." ++ dotted p.path := by
      rw [under, dotted_cons hne]
      simp only [List.append_assoc]
    have hat : (Value.map data).at? ((p.under key).path.map .text) = v.at? (p.path.map .text) := by
      rw [under, List.map_cons, Value.at?_cons_map]
      exact congrArg (Option.bind · _) hv
    simp only [Option.bind_some, fault?, hreached, hpath, hat]
    rfl

end Place

/-! ## The check, place by place -/

/-- What a check finds at a path: a fault of what stands there, or those of the places below it. -/
def FoundByPlaces (schema : Schema) : Prop :=
  ∀ path value?, faultsAt path value? schema =
    (faultOf? path value? schema).toList ++
      value?.toList.flatMap fun v => (places schema).filterMap (Place.fault? (path ++ Text.ofString ".") v)

/-- A mapping is checked key by key. By induction on the entries: the first key's place comes first, then
the places below it, which are looked for from its path on. -/
theorem faults_eq_of_entries (h : ∀ e ∈ entries, e.2.FoundByPlaces) (start : Text) (data : Entries) :
    faults start data entries = (placesOf entries).filterMap (Place.fault? start (.map data)) := by
  induction entries with
  | nil => simp [faults, placesOf]
  | cons e rest ih =>
    obtain ⟨key, schema⟩ := e
    have hbelow : ((places schema).map (Place.under key)).filterMap (Place.fault? start (.map data)) =
        (data.get? key).toList.flatMap fun v =>
          (places schema).filterMap (Place.fault? (start ++ key ++ Text.ofString ".") v) := by
      rw [List.filterMap_map]
      have hunder : ∀ p ∈ places schema, (Place.fault? start (.map data) ∘ Place.under key) p =
          (data.get? key).bind fun v => p.fault? (start ++ key ++ Text.ofString ".") v :=
        fun p hp => Place.fault?_under (path_ne_nil_of_mem_places hp)
      rw [List.filterMap_congr hunder]
      cases data.get? key <;> simp
    rw [faults, h _ List.mem_cons_self, ih fun e he => h e (List.mem_cons_of_mem _ he), placesOf,
      List.cons_append, List.filterMap_cons, Place.fault?_top, List.filterMap_append, hbelow]
    cases faultOf? (start ++ key) (data.get? key) schema <;> simp

theorem foundByPlaces (schema : Schema) : schema.FoundByPlaces := by
  induction schema using Schema.induct with
  | leaf kind =>
    intro path value?
    cases value? with
    | none => simp [faultsAt, faultOf?]
    | some v =>
      cases hkind : kind.admits v <;> simp [faultsAt, faultOf?, places, hkind]
  | sections entries ih =>
    intro path value?
    cases value? with
    | none => simp [faultsAt, faultOf?]
    | some v =>
      rcases Value.eq_map_or_leaf v with ⟨data, rfl⟩ | hleaf
      · simp [faultsAt, faultOf?, places, faults_eq_of_entries ih]
      · have hsilent : ∀ p ∈ places (.sections entries),
            Place.fault? (path ++ Text.ofString ".") v p = none :=
          fun p hp => Place.fault?_of_leaf (path_ne_nil_of_mem_places hp) hleaf
        have hnone := List.filterMap_eq_nil_iff.mpr hsilent
        cases v with
        | map data => exact absurd rfl (hleaf data)
        | scalar s => simp [faultsAt, faultOf?, hnone]
        | list items => simp [faultsAt, faultOf?, hnone]

theorem faults_eq (start : Text) (data : Entries) (entries : List (Text × Schema)) :
    faults start data entries = (placesOf entries).filterMap (Place.fault? start (.map data)) :=
  faults_eq_of_entries (fun e _ => foundByPlaces e.2) start data

/-! ## What a report depends on, and what it says -/

theorem faultOf?_outline (path : Text) (value? : Option Value) (schema : Schema) :
    faultOf? path (value?.map Value.outline) schema = faultOf? path value? schema := by
  cases value? with
  | none => rfl
  | some v =>
    cases v with
    | scalar s => rfl
    | list items => rfl
    | map data =>
      cases schema with
      | leaf kind =>
        simp only [faultOf?, Option.map_some, Value.outline, kind.admits_map [] data]
        rfl
      | sections entries => rfl

theorem path_of_faultOf? {value? : Option Value} (h : faultOf? path value? schema = some fault) :
    fault.path = path := by
  cases value? with
  | none =>
    cases schema <;> cases h <;> rfl
  | some v =>
    cases schema with
    | leaf kind =>
      rw [faultOf?] at h
      split at h
      · cases h
      · cases h
        rfl
    | sections entries => cases v <;> cases h <;> rfl

theorem Place.path_of_fault? (h : p.fault? start v = some fault) : fault.path = start ++ dotted p.path := by
  rw [Place.fault?] at h
  split at h
  · exact path_of_faultOf? h
  · cases h

/-- Where two values look alike at all places of a schema, each place reports the same of both. -/
theorem fault?_congr {data other : Entries}
    (halike : ∀ q ∈ placesOf entries, ((Value.map other).at? (q.path.map .text)).map Value.outline =
      ((Value.map data).at? (q.path.map .text)).map Value.outline)
    (hp : p ∈ placesOf entries) :
    p.fault? start (.map other) = p.fault? start (.map data) := by
  have hreached : p.Reached (.map other) ↔ p.Reached (.map data) := by
    refine forall_congr' fun above => forall₂_congr fun habove _ => ?_
    by_cases hne : above = []
    -- the root is a mapping on both sides; all else that is above a place is a place, where they look alike
    · subst hne
      exact ⟨fun _ => ⟨data, rfl⟩, fun _ => ⟨other, rfl⟩⟩
    · have hp' : p ∈ places (.sections entries) := by rwa [places]
      obtain ⟨q, hq, rfl⟩ := exists_place_above hp' habove hne
      rw [places] at hq
      rw [Value.sectionAt_iff_outline, Value.sectionAt_iff_outline, halike q hq]
  simp only [Place.fault?, hreached]
  rw [← faultOf?_outline, halike p hp, faultOf?_outline]

/-- A section that has something to report hides what is below it. -/
theorem fault?_below {inner : List (Text × Schema)} (hasks : p.asks = .sections inner)
    (hfault : p.fault? start v ≠ none) (hbelow : p.path <+: q.path) (hne : p.path ≠ q.path) :
    q.fault? start v = none := by
  rw [Place.fault?, if_neg]
  intro hreached
  obtain ⟨data, hdata⟩ := hreached p.path hbelow hne
  refine hfault ?_
  rw [Place.fault?, hdata, hasks]
  exact ite_id _

/-- **A schema is checked place by place.** What it asks for has places, each of which comes once, after
the section that it is in. The faults are those that the places report, in this order: a place that is
reached reports what is missing there or of the wrong kind, under its dotted path, and none below a section
with a fault is reached. So there are no faults exactly if the mapping conforms, and nothing but what it has
at these places matters, of a section only that it is one. -/
theorem faults_by_places (start : Text) (data : Entries) (h : Keyed (.sections entries)) :
    (((placesOf entries).map Place.path).Nodup ∧
      ∀ p : Place, p ∈ placesOf entries ↔ p.path ≠ [] ∧ at? p.path (.sections entries) = some p.asks) ∧
    faults start data entries = (placesOf entries).filterMap (Place.fault? start (.map data)) ∧
    (∀ p fault, Place.fault? start (.map data) p = some fault →
      fault.path = start ++ dotted p.path ∧ fault.path <:+: fault.message) ∧
    (∀ p q : Place, p.path <+: q.path → p.path ≠ q.path → (∃ inner, p.asks = .sections inner) →
      p.fault? start (.map data) ≠ none → q.fault? start (.map data) = none) ∧
    (faults start data entries = [] ↔ Conforms (.sections entries) (.map data)) ∧
    ∀ other : Entries,
      (∀ p ∈ placesOf entries, ((Value.map other).at? (p.path.map .text)).map Value.outline =
        ((Value.map data).at? (p.path.map .text)).map Value.outline) →
      faults start other entries = faults start data entries := by
  have hnodup : ((placesOf entries).map Place.path).Nodup := nodup_paths_places h
  refine ⟨⟨hnodup, fun p => mem_places_iff h⟩, faults_eq start data entries,
    fun p fault hfault => ⟨Place.path_of_fault? hfault, fault.path_infix_message⟩,
    fun p q hbelow hne ⟨inner, hasks⟩ hfault => fault?_below hasks hfault hbelow hne,
    faults_eq_nil_iff_conforms, fun other halike => ?_⟩
  rw [faults_eq, faults_eq]
  exact List.filterMap_congr fun p hp => fault?_congr halike hp

/-- A section in which a text is missing, a number for a section, and a missing number; a truth value passes
for one. -/
theorem faults_by_places_nested :
    let entries : List (Text × Schema) :=
      [([0x73], .sections [([0x61], .leaf .int), ([0x62], .leaf .text)]),
        ([0x74], .sections [([0x63], .leaf .bool)]), ([0x6E], .leaf .int)]
    let data : Entries :=
      [(.text [0x74], .scalar (.int 5)), (.text [0x78], .null),
        (.text [0x73], .map [(.text [0x61], .bool true), (.text [0x79], .null)])]
    Keyed (.sections entries) ∧
    faults [0x70, 0x2E] data entries =
      [.missing [0x70, 0x2E, 0x73, 0x2E, 0x62], .noSection [0x70, 0x2E, 0x74] "int",
        .missing [0x70, 0x2E, 0x6E]] := by
  intro entries data
  have hkeyed : Keyed (.sections entries) := by
    have hfirst : Keyed (.sections [([0x61], .leaf .int), ([0x62], .leaf .text)]) :=
      .sections (by decide) (by simp [Keyed.leaf])
    have hsecond : Keyed (.sections [([0x63], .leaf .bool)]) := .sections (by decide) (by simp [Keyed.leaf])
    exact .sections (by decide) (by simp [entries, hfirst, hsecond, Keyed.leaf])
  exact ⟨hkeyed, (faults_by_places [0x70, 0x2E] data hkeyed).2.1.trans (by decide)⟩

end Schema
end TypedText
