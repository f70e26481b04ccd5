import TypedText.Proofs.Config.Reading
import TypedText.Proofs.Config.Settings
import TypedText.Proofs.Yaml.Values

/-!
# TypedText.Proofs.Config.Loading

Loading the configuration of a user's file, by any loader that makes mappings with each key once. The
file may leave out what it likes: the defaults have everything (`defaults_conform`), so nothing is ever
missing. Which files are accepted is said of what they hold alone (`Acceptable`), and so is what comes of
them (`Completes`).

* `completes_withDefaults`: what shows of a user's sections over those of the defaults.
* `load_of_readYaml`: when there is a configuration, which one, and what is reported otherwise.
-/

namespace TypedText

theorem Text.ofString_append (s t : String) : ofString (s ++ t) = ofString s ++ ofString t := by
  simp [ofString]

theorem SchemaFault.missing_prefix_message_iff {fault : SchemaFault} :
    Text.ofString "Missing required key" <+: fault.message ↔ ∃ place, fault = .missing place := by
  constructor
  · rintro ⟨rest, h⟩
    have hhead := congrArg List.head? h
    cases fault with
    | missing place => exact ⟨place, rfl⟩
    | noSection place got => cases hhead
    | wrongKind place expected got => cases hhead
  · rintro ⟨place, rfl⟩
    refine ⟨Text.ofString ": " ++ place, ?_⟩
    rw [message, ← List.append_assoc, ← Text.ofString_append]
    rfl

theorem eq_ok_of_toOption {ε α : Type} {r : Except ε α} {a : α} (h : r.toOption = some a) :
    r = .ok a := by
  cases r with
  | error e => cases h
  | ok b => cases h; rfl

namespace Config

variable {user config : Entries}

theorem defaults_conform : wholeSchema.Conforms (.map defaults) := by
  have hfaults : Schema.faults [] defaults schema = [] := rfl
  exact Schema.faults_eq_nil_iff_conforms.mp hfaults

/-- The names of the sections. -/
def sectionNames : List Text :=
  schema.map Prod.fst

/-- The value of a setting: the user's, or else the default one. -/
def setting? (user : Entries) (s k : Scalar) : Option Value :=
  ((Value.map user).at? [s, k]).or ((Value.map defaults).at? [s, k])

/-- A user's entries that make a configuration: those of the schema are of the kind it asks for, and
the log level and the locale that come of them are ones. -/
structure Acceptable (user : Entries) : Prop where
  fits : wholeSchema.Fits (.map user)
  level : ∃ t, ∃ l : LogLevel, setting? user (key "logging") (key "level") = some (.text t) ∧
    t.upperRoot = Text.ofString l.name
  locale : ∃ t, setting? user (key "locale") (key "default") = some (.text t) ∧
    isBlankLocale t = false

/-- A configuration that has the user's entries, in the schema or not, and the defaults for the rest. -/
structure Completes (user config : Entries) : Prop where
  settings : ∀ s ∈ sectionNames, ∀ k, (Value.map config).at? [.text s, k] = setting? user (.text s) k
  others : ∀ k, (∀ s ∈ sectionNames, k ≠ .text s) →
    Entries.find? k config = Entries.find? k user

/-! ## The defaults -/

theorem exists_sections {s : Text} (h : s ∈ sectionNames) : ∃ keys, (s, .sections keys) ∈ schema := by
  obtain ⟨p, hp, rfl⟩ := List.mem_map.mp h
  have hall : ∀ p ∈ schema, ∃ keys, p.2 = .sections keys := by simp [schema]
  obtain ⟨keys, hkeys⟩ := hall p hp
  exact ⟨keys, by rw [← hkeys]; exact hp⟩

/-- A section of the defaults holds no mappings. -/
theorem exists_default_section {s : Text} (h : s ∈ sectionNames) :
    ∃ values, defaults.get? s = some (.map values) ∧
      ∀ k entries, Entries.find? k values ≠ some (.map entries) := by
  have hflat : ∀ values : Entries, (∀ p ∈ values, ∀ entries, p.2 ≠ .map entries) →
      ∀ k entries, Entries.find? k values ≠ some (.map entries) := by
    intro values hvalues k entries hfind
    obtain ⟨k', hmem, -⟩ := Entries.exists_mem_of_find? hfind
    exact hvalues _ hmem entries rfl
  simp only [sectionNames, schema, List.map_cons, List.map_nil, List.mem_cons, List.not_mem_nil,
    or_false] at h
  rcases h with rfl | rfl | rfl
  · exact ⟨_, rfl, hflat _ (by simp [textValue, Value.text])⟩
  · exact ⟨_, rfl, hflat _ (by simp [textValue, Value.text])⟩
  · exact ⟨_, rfl, hflat _ (by simp [textValue, Value.text, Value.bool])⟩

/-- The defaults have nothing but the sections. -/
theorem find?_defaults_eq_none {k : Scalar} (h : ∀ s ∈ sectionNames, k ≠ .text s) :
    Entries.find? k defaults = none := by
  rw [Option.eq_none_iff_forall_ne_some]
  intro v hv
  obtain ⟨k', hmem, hsame⟩ := Entries.exists_mem_of_find? hv
  have hkeys : ∀ p ∈ defaults, ∃ s ∈ sectionNames, p.1 = .text s := by
    simp [defaults, sectionNames, schema, key]
  obtain ⟨s, hs, rfl⟩ := hkeys _ hmem
  exact h s hs (Scalar.sameKey_text_iff.mp (Scalar.sameKey_symm hsame))

/-! ## A user's entries over the defaults -/

/-- **A user's entries are kept and completed.** -/
theorem completes_withDefaults (hkeys : (Value.map user).Proper)
    (hfits : wholeSchema.Fits (.map user)) : Completes user (withDefaults user) := by
  have hover := fun k => @Entries.find?_over defaults user k hkeys.distinct
  refine ⟨fun s hs k => ?_, fun k hk => ?_⟩
  · obtain ⟨values, hvalues, hflat⟩ := exists_default_section hs
    obtain ⟨keys, hschema⟩ := exists_sections hs
    rw [Entries.get?] at hvalues
    have hdefault : (Value.map defaults).at? [.text s, k] = Entries.find? k values := by
      simp [Value.at?, hvalues]
    rw [setting?, hdefault]
    cases huser : Entries.find? (.text s) user with
    | none => simp [Value.at?, withDefaults, hover, huser, hvalues]
    | some v =>
      have hsection := Schema.fits_sections_iff.mp hfits _ hschema v huser
      cases hsection with
      | @sections _ given _ =>
        have hgiven : given.Distinct := (hkeys.find? huser).distinct
        simp only [Value.at?, withDefaults, hover, huser, hvalues, Value.over_map_map,
          Option.bind_some, Entries.find?_over hgiven]
        cases Entries.find? k given with
        | none => simp
        | some w => simp [Value.over_eq_self (hflat k)]
  · rw [withDefaults, hover, find?_defaults_eq_none hk]
    cases Entries.find? k user with
    | none => rfl
    | some v => exact congrArg some (Value.over_eq_self (by simp))

theorem conforms_withDefaults_iff (hkeys : (Value.map user).Proper) :
    wholeSchema.Conforms (.map (withDefaults user)) ↔ wholeSchema.Fits (.map user) := by
  rw [withDefaults, ← Value.over_map_map]
  exact Schema.conforms_over_iff defaults_conform hkeys

/-- What comes of a user's entries has nothing wrong exactly if they are acceptable. -/
theorem valid_withDefaults_iff (hkeys : (Value.map user).Proper) :
    Valid (withDefaults user) ↔ Acceptable user := by
  have hsetting : wholeSchema.Fits (.map user) → ∀ {s k : String} {t : Text},
      Text.ofString s ∈ sectionNames →
      (getText? (withDefaults user) s k = some t ↔
        setting? user (key s) (key k) = some (.text t)) := by
    intro hfits s k t hs
    rw [getText?_eq_some_iff, key, (completes_withDefaults hkeys hfits).settings _ hs]
  constructor
  · intro h
    have hfits := (conforms_withDefaults_iff hkeys).mp h.conforms
    obtain ⟨level, l, hlevel, hl⟩ := h.level
    obtain ⟨locale, hlocale, hblank⟩ := h.locale
    exact ⟨hfits, ⟨level, l, (hsetting hfits (by decide)).mp hlevel, hl⟩,
      ⟨locale, (hsetting hfits (by decide)).mp hlocale, hblank⟩⟩
  · intro h
    obtain ⟨level, l, hlevel, hl⟩ := h.level
    obtain ⟨locale, hlocale, hblank⟩ := h.locale
    exact ⟨(conforms_withDefaults_iff hkeys).mpr h.fits,
      ⟨level, l, (hsetting h.fits (by decide)).mpr hlevel, hl⟩,
      ⟨locale, (hsetting h.fits (by decide)).mpr hlocale, hblank⟩⟩

/-! ## Loading a file -/

variable {loader : Yaml.Loader} {system : System} {tree : FileTree} {path : Path}

theorem hasEntry_of_readYaml (h : readYaml loader system tree path = .ok user) :
    system.hasEntry tree path = .ok true := by
  obtain ⟨content, hfound, -, -⟩ := readYaml_eq_ok_iff.mp h
  exact hfound

theorem proper_of_readYaml (hloader : loader.KeysOnce)
    (h : readYaml loader system tree path = .ok user) : (Value.map user).Proper := by
  obtain ⟨content, -, -, hholds⟩ := readYaml_eq_ok_iff.mp h
  cases hholds with
  | map hload => exact hloader _ _ hload
  | empty hload => exact .map List.Pairwise.nil (by simp)

theorem validate_eq_ok_iff : validate path user = .ok config ↔ Valid user ∧ config = user := by
  rw [← problems_eq_nil_iff, validate]
  cases problems user with
  | nil => simp [eq_comm]
  | cons problem rest => simp

theorem validate_of_not_valid (h : ¬ Valid user) :
    ∃ problems, problems ≠ [] ∧ validate path user = .error (.invalid path problems) := by
  rw [← problems_eq_nil_iff] at h
  refine ⟨problems user, h, ?_⟩
  rw [validate]
  cases hproblems : problems user with
  | nil => exact absurd hproblems h
  | cons problem rest => rfl

theorem load_outcome (h : readYaml loader system tree path = .ok user) :
    (load loader system tree path).outcome = validate path (withDefaults user) := by
  simp only [load, hasEntry_of_readYaml h, h]
  cases validate path (withDefaults user) <;> rfl

theorem defaults_valid : Valid defaults :=
  problems_eq_nil_iff.mp (by decide +kernel)

/-- A configuration that loads has nothing wrong, the defaults included. -/
theorem valid_of_load (h : (load loader system tree path).outcome = .ok config) : Valid config := by
  cases hread : readYaml loader system tree path with
  | ok user =>
    rw [load_outcome hread] at h
    obtain ⟨hvalid, rfl⟩ := validate_eq_ok_iff.mp h
    exact hvalid
  | error e =>
    simp only [load, hread] at h
    split at h
    · cases h
    · cases h
      exact defaults_valid
    · cases h

/-- **Loading a user's file.** Nothing is ever missing. There is a configuration exactly if the file's
entries are acceptable, and it is these completed by the defaults; otherwise the problems are
reported. -/
theorem load_of_readYaml (hloader : loader.KeysOnce)
    (h : readYaml loader system tree path = .ok user) :
    (∀ fault ∈ Schema.faults [] (withDefaults user) schema,
      (∀ place, fault ≠ .missing place) ∧
        ¬ Text.ofString "Missing required key" <+: fault.message) ∧
    ((∃ config, (load loader system tree path).outcome = .ok config) ↔ Acceptable user) ∧
    (¬ Acceptable user → ∃ problems, problems ≠ [] ∧
      (load loader system tree path).outcome = .error (.invalid path problems)) ∧
    ∀ config, (load loader system tree path).outcome = .ok config → Completes user config := by
  have hkeys := proper_of_readYaml hloader h
  have hvalid := valid_withDefaults_iff hkeys
  rw [load_outcome h]
  refine ⟨fun fault hfault => ?_, ?_, fun hunacceptable => ?_, fun config hconfig => ?_⟩
  · have hmissing := fun place => Schema.not_missing_faults_over defaults_conform hkeys place hfault
    refine ⟨hmissing, fun hmessage => ?_⟩
    obtain ⟨place, hplace⟩ := SchemaFault.missing_prefix_message_iff.mp hmessage
    exact hmissing place hplace
  · simp only [validate_eq_ok_iff, hvalid]
    simp
  · exact validate_of_not_valid (fun h => hunacceptable (hvalid.mp h))
  · obtain ⟨hconfigured, rfl⟩ := validate_eq_ok_iff.mp hconfig
    exact completes_withDefaults hkeys (hvalid.mp hconfigured).fits

/-- What a file has that sets the log level, and something that no setting is. -/
def levelEntries : Entries :=
  [(key "logging", .map [(key "level", textValue "info"), (key "colors", .bool false)])]

def levelPath : Path :=
  .ofText (Text.ofString "level.yml")

def levelTree : FileTree where
  home := []
  entries :=
    [([Text.ofString "level.yml"],
      .file ((Text.ofString "logging:\n  level: info\n  colors: false\n").flatMap Utf8.encodeUnit))]

theorem load_of_readYaml_level :
    readYaml .core .willing levelTree levelPath = .ok levelEntries ∧
    ∃ config, (load .core .willing levelTree levelPath).outcome = .ok config ∧
      (Value.map config).at? [key "logging", key "level"] = some (textValue "info") ∧
      (Value.map config).at? [key "logging", key "colors"] = some (.bool false) ∧
      (Value.map config).at? [key "locale", key "default"] = some (textValue "en") := by
  have hread : readYaml .core .willing levelTree levelPath = .ok levelEntries :=
    eq_ok_of_toOption (by decide +kernel)
  have hacceptable : Acceptable levelEntries :=
    (valid_withDefaults_iff (proper_of_readYaml Yaml.Loader.keysOnce_core hread)).mp
      (problems_eq_nil_iff.mp (by decide +kernel))
  obtain ⟨-, haccepted, -, hcompletes⟩ := load_of_readYaml Yaml.Loader.keysOnce_core hread
  obtain ⟨config, hconfig⟩ := haccepted.mpr hacceptable
  have hsettings := (hcompletes config hconfig).settings
  refine ⟨hread, config, hconfig, ?_, ?_, ?_⟩
  · exact (hsettings _ (by decide) _).trans (by decide +kernel)
  · exact (hsettings _ (by decide) _).trans (by decide +kernel)
  · exact (hsettings _ (by decide) _).trans (by decide +kernel)

end Config
end TypedText
