import TypedText.Config.Settings
import TypedText.Proofs.Value.Schema

/-!
# TypedText.Proofs.Config.Settings

What a configuration without problems is. Nothing is wrong with one exactly if it conforms to the schema,
its log level is one of the names of levels when put in capitals, and its locale is not blank
(`problems_eq_nil_iff`). Such a configuration has every setting that the program takes from one
(`ofEntries?_of_conforms`), and so do the defaults.
-/

namespace TypedText

theorem ValueKind.admits_text_iff {v : Value} :
    ValueKind.text.admits v = true ↔ ∃ t, v = .text t := by
  constructor
  · intro h
    match v, h with
    | .scalar (.text t), _ => exact ⟨t, rfl⟩
  · rintro ⟨t, rfl⟩
    rfl

theorem ValueKind.admits_bool_iff {v : Value} :
    ValueKind.bool.admits v = true ↔ ∃ b, v = .bool b := by
  constructor
  · intro h
    match v, h with
    | .scalar (.bool b), _ => exact ⟨b, rfl⟩
  · rintro ⟨b, rfl⟩
    rfl

theorem LogLevel.isSome_ofName?_iff {t : Text} :
    (LogLevel.ofName? t).isSome = true ↔ ∃ l : LogLevel, t = Text.ofString l.name := by
  rw [LogLevel.ofName?, List.find?_isSome]
  constructor
  · rintro ⟨l, -, h⟩
    exact ⟨l, (eq_of_beq h).symm⟩
  · rintro ⟨l, rfl⟩
    exact ⟨l, by cases l <;> simp [LogLevel.all], beq_self_eq_true _⟩

namespace Config

/-- What every configuration must have, as one schema. -/
abbrev wholeSchema : Schema := .sections schema

variable {entries : Entries}

theorem get?_eq_at? (entries : Entries) (s k : String) :
    get? entries s k = (Value.map entries).at? [key s, key k] := by
  simp only [get?, Value.at?, key]
  rw [Entries.get?]
  cases Entries.find? (.text (Text.ofString s)) entries with
  | none => rfl
  | some v => cases v <;> simp [Value.at?, Entries.get?]

theorem getText?_eq_some_iff {s k : String} {t : Text} :
    getText? entries s k = some t ↔ (Value.map entries).at? [key s, key k] = some (.text t) := by
  rw [← get?_eq_at?, getText?]
  constructor
  · intro h
    split at h
    · rename_i t' hget
      cases h
      exact hget
    · cases h
  · intro h
    rw [h]
    rfl

theorem getBool?_eq_some_iff {s k : String} {b : Bool} :
    getBool? entries s k = some b ↔ (Value.map entries).at? [key s, key k] = some (.bool b) := by
  rw [← get?_eq_at?, getBool?]
  constructor
  · intro h
    split at h
    · rename_i b' hget
      cases h
      exact hget
    · cases h
  · intro h
    rw [h]
    rfl

theorem exists_getText?_of_conforms (h : wholeSchema.Conforms (.map entries)) {s k : String}
    (hkind : wholeSchema.at? [Text.ofString s, Text.ofString k] = some (.leaf .text)) :
    ∃ t, getText? entries s k = some t := by
  obtain ⟨v, hv, hleaf⟩ := Schema.exists_at?_of_conforms h hkind
  obtain ⟨t, rfl⟩ := ValueKind.admits_text_iff.mp (Schema.conforms_leaf_iff.mp hleaf)
  exact ⟨t, getText?_eq_some_iff.mpr hv⟩

theorem exists_getBool?_of_conforms (h : wholeSchema.Conforms (.map entries)) {s k : String}
    (hkind : wholeSchema.at? [Text.ofString s, Text.ofString k] = some (.leaf .bool)) :
    ∃ b, getBool? entries s k = some b := by
  obtain ⟨v, hv, hleaf⟩ := Schema.exists_at?_of_conforms h hkind
  obtain ⟨b, rfl⟩ := ValueKind.admits_bool_iff.mp (Schema.conforms_leaf_iff.mp hleaf)
  exact ⟨b, getBool?_eq_some_iff.mpr hv⟩

/-- A configuration that conforms has all settings. -/
theorem ofEntries?_of_conforms (h : wholeSchema.Conforms (.map entries)) :
    ∃ s, Settings.ofEntries? entries = some s ∧
      getText? entries "capitalization" "word_separators" = some s.wordSeparators := by
  obtain ⟨locale, hlocale⟩ := exists_getText?_of_conforms h (s := "locale") (k := "default") rfl
  obtain ⟨separators, hseparators⟩ :=
    exists_getText?_of_conforms h (s := "capitalization") (k := "word_separators") rfl
  obtain ⟨level, hlevel⟩ := exists_getText?_of_conforms h (s := "logging") (k := "level") rfl
  obtain ⟨format, hformat⟩ := exists_getText?_of_conforms h (s := "logging") (k := "format") rfl
  obtain ⟨toFile, htoFile⟩ :=
    exists_getBool?_of_conforms h (s := "logging") (k := "file_enabled") rfl
  obtain ⟨file, hfile⟩ := exists_getText?_of_conforms h (s := "logging") (k := "file_path") rfl
  refine ⟨⟨locale, separators, level, format, toFile, file⟩, ?_, hseparators⟩
  simp [Settings.ofEntries?, hlocale, hseparators, hlevel, hformat, htoFile, hfile]

/-- A configuration with nothing wrong. -/
structure Valid (entries : Entries) : Prop where
  conforms : wholeSchema.Conforms (.map entries)
  level : ∃ t, ∃ l : LogLevel,
    getText? entries "logging" "level" = some t ∧ t.upperRoot = Text.ofString l.name
  locale : ∃ t, getText? entries "locale" "default" = some t ∧ isBlankLocale t = false

theorem valueProblems_eq_nil_iff {level locale : Text}
    (hlevel : getText? entries "logging" "level" = some level)
    (hlocale : getText? entries "locale" "default" = some locale) :
    valueProblems entries = [] ↔
      (∃ l : LogLevel, level.upperRoot = Text.ofString l.name) ∧ isBlankLocale locale = false := by
  rw [← LogLevel.isSome_ofName?_iff, valueProblems, hlevel, hlocale]
  simp only [Option.getD_some, List.append_eq_nil_iff]
  refine and_congr ?_ ?_
  · cases LogLevel.ofName? level.upperRoot <;> simp
  · by_cases hblank : isBlankLocale locale = true <;> simp [hblank]

theorem problems_eq_nil_iff : problems entries = [] ↔ Valid entries := by
  have hcases : problems entries = [] ↔
      wholeSchema.Conforms (.map entries) ∧ valueProblems entries = [] := by
    have hfaults : Schema.faults [] entries schema = [] ↔ wholeSchema.Conforms (.map entries) :=
      Schema.faults_eq_nil_iff_conforms
    rw [← hfaults, problems]
    cases Schema.faults [] entries schema with
    | nil => simp
    | cons fault rest => simp
  rw [hcases]
  constructor
  · rintro ⟨hconforms, hvalues⟩
    obtain ⟨level, hlevel⟩ :=
      exists_getText?_of_conforms hconforms (s := "logging") (k := "level") rfl
    obtain ⟨locale, hlocale⟩ :=
      exists_getText?_of_conforms hconforms (s := "locale") (k := "default") rfl
    obtain ⟨⟨l, hl⟩, hblank⟩ := (valueProblems_eq_nil_iff hlevel hlocale).mp hvalues
    exact ⟨hconforms, ⟨level, l, hlevel, hl⟩, ⟨locale, hlocale, hblank⟩⟩
  · rintro ⟨hconforms, ⟨level, l, hlevel, hl⟩, ⟨locale, hlocale, hblank⟩⟩
    exact ⟨hconforms, (valueProblems_eq_nil_iff hlevel hlocale).mpr ⟨⟨l, hl⟩, hblank⟩⟩

end Config
end TypedText
