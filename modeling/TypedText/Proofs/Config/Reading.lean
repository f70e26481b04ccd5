import Mathlib.Data.List.Infix
import TypedText.Config.File
import TypedText.Proofs.System

/-!
# TypedText.Proofs.Config.Reading

Reading a YAML file, by whatever loader and from whatever system. What is wrong with a path that can be
looked for, with opening the file, with the form of the document or with the kind of its value is reported
with the path. All else is passed on as it comes: that the path cannot be looked for, and what a loader
says of bytes or of a single value, which is the same for every path (`parse_of_nameless`).

* `Config.Nameless`: the content of a file for which there is such a fault, and the fault.
* `Config.PassedOn`: the faults that are passed on, and when.
* `readYaml_outcome`: there is a mapping, a fault that names the file, or one of those.
-/

namespace TypedText
namespace Config

variable {loader : Yaml.Loader} {system : System} {tree : FileTree} {path : Path}
  {content : List UInt8} {entries : Entries} {fault : LoadFault}

/-- The mapping that the content of a file stands for; one without a value stands for an empty one. -/
inductive Holds (loader : Yaml.Loader) (content : List UInt8) : Entries → Prop
  | map {entries : Entries} :
      loader (Utf8.stream content) = .ok (.map entries) → Holds loader content entries
  | empty : loader (Utf8.stream content) = .ok .null → Holds loader content []

/-- The content of a file at which reading fails with a fault that says nothing of the file. -/
inductive Nameless (loader : Yaml.Loader) (content : List UInt8) : LoadFault → Prop
  | undecodable {e : Utf8.DecodeError} :
      loader (Utf8.stream content) = .error (.undecodable e) → Nameless loader content (.undecodable e)
  | noSuchValue {reason : Text} :
      loader (Utf8.stream content) = .error (.noSuchValue reason) →
      Nameless loader content (.noSuchValue reason)
  | breakdown {b : Yaml.Breakdown} :
      loader (Utf8.stream content) = .error (.breakdown b) → Nameless loader content (.breakdown b)

/-- What reading a file passes on as it comes. -/
inductive PassedOn (loader : Yaml.Loader) (system : System) (tree : FileTree) (path : Path) :
    LoadFault → Prop
  | unchecked {e : FileError} :
      system.hasEntry tree path = .error e → PassedOn loader system tree path (.raised path e)
  | unopened {e : FileError} :
      system.hasEntry tree path = .ok true → system.read tree path = .error e → e.isSystem = false →
      PassedOn loader system tree path (.raised path e)
  | nameless {content : List UInt8} {fault : LoadFault} :
      system.hasEntry tree path = .ok true → system.read tree path = .ok content →
      Nameless loader content fault → PassedOn loader system tree path fault

/-- A fault that is reported, with the path of the file. -/
structure LoadFault.Names (fault : LoadFault) (path : Path) : Prop where
  named : path.text <:+: fault.message
  reported : fault.isReported = true

/-! ## Faults that name the file -/

section Named

theorem names_fileMissing : (LoadFault.fileMissing path).Names path :=
  ⟨(List.suffix_append _ path.text).isInfix, rfl⟩

theorem names_malformed : (LoadFault.malformed path).Names path :=
  ⟨(List.suffix_append _ path.text).isInfix, rfl⟩

theorem names_unreadable {e : FileError} : (LoadFault.unreadable path e).Names path := by
  refine ⟨?_, rfl⟩
  simp only [LoadFault.message, List.append_assoc]
  exact (List.prefix_append path.text _).isInfix.trans (List.suffix_append _ _).isInfix

theorem names_noMapping {got : String} : (LoadFault.noMapping path got).Names path :=
  ⟨List.infix_append _ path.text _, rfl⟩

end Named

/-! ## What a file holds -/

theorem parse_cases (loader : Yaml.Loader) (path : Path) (content : List UInt8) :
    (∃ entries, Holds loader content entries ∧ parse loader path content = .ok entries) ∨
      (∃ fault, Nameless loader content fault ∧ parse loader path content = .error fault) ∨
      ∃ fault, fault.Names path ∧ parse loader path content = .error fault := by
  simp only [parse]
  split
  · exact .inr (.inr ⟨_, names_malformed, rfl⟩)
  · rename_i e hload
    exact .inr (.inl ⟨_, .undecodable hload, rfl⟩)
  · rename_i reason hload
    exact .inr (.inl ⟨_, .noSuchValue hload, rfl⟩)
  · rename_i b hload
    exact .inr (.inl ⟨_, .breakdown hload, rfl⟩)
  · rename_i entries hload
    exact .inl ⟨entries, .map hload, rfl⟩
  · rename_i hload
    exact .inl ⟨[], .empty hload, rfl⟩
  · exact .inr (.inr ⟨_, names_noMapping, rfl⟩)

theorem parse_of_nameless (h : Nameless loader content fault) :
    parse loader path content = .error fault := by
  cases h with
  | undecodable hload => simp only [parse, hload]
  | noSuchValue hload => simp only [parse, hload]
  | breakdown hload => simp only [parse, hload]

theorem parse_of_holds (h : Holds loader content entries) : parse loader path content = .ok entries := by
  cases h with
  | map hload => simp only [parse, hload]
  | empty hload => simp only [parse, hload, Value.null]

/-! ## Reading a file -/

theorem readYaml_of_read (hfound : system.hasEntry tree path = .ok true)
    (hread : system.read tree path = .ok content) :
    readYaml loader system tree path = parse loader path content := by
  simp only [readYaml, hfound, hread]

theorem readYaml_of_passedOn (h : PassedOn loader system tree path fault) :
    readYaml loader system tree path = .error fault := by
  cases h with
  | unchecked hfound => simp only [readYaml, hfound]
  | unopened hfound hread hsystem => simp [readYaml, hfound, hread, hsystem]
  | nameless hfound hread hnameless =>
    rw [readYaml_of_read hfound hread, parse_of_nameless hnameless]

/-- How reading ends: with what the file holds, or a fault that is passed on, or one that names the file. -/
theorem readYaml_cases (loader : Yaml.Loader) (system : System) (tree : FileTree) (path : Path) :
    (∃ content entries, system.hasEntry tree path = .ok true ∧ system.read tree path = .ok content ∧
        Holds loader content entries ∧ readYaml loader system tree path = .ok entries) ∨
      (∃ fault, PassedOn loader system tree path fault) ∨
      ∃ fault, readYaml loader system tree path = .error fault ∧ fault.Names path := by
  cases hfound : system.hasEntry tree path with
  | error e => exact .inr (.inl ⟨_, .unchecked hfound⟩)
  | ok found =>
    cases found with
    | false => exact .inr (.inr ⟨_, by simp only [readYaml, hfound], names_fileMissing⟩)
    | true =>
      cases hread : system.read tree path with
      | error e =>
        by_cases hsystem : e.isSystem = true
        · have hyaml : readYaml loader system tree path = .error (.unreadable path e) := by
            simp only [readYaml, hfound, hread, if_pos hsystem]
          exact .inr (.inr ⟨_, hyaml, names_unreadable⟩)
        · exact .inr (.inl ⟨_, .unopened hfound hread (by simpa using hsystem)⟩)
      | ok content =>
        rw [readYaml_of_read hfound hread]
        rcases parse_cases loader path content with ⟨entries, hholds, hparse⟩ | hfails | hfails
        · exact .inl ⟨content, entries, rfl, rfl, hholds, hparse⟩
        · obtain ⟨fault, hnameless, -⟩ := hfails
          exact .inr (.inl ⟨fault, .nameless hfound hread hnameless⟩)
        · obtain ⟨fault, hnames, hparse⟩ := hfails
          exact .inr (.inr ⟨fault, hparse, hnames⟩)

theorem readYaml_eq_ok_iff :
    readYaml loader system tree path = .ok entries ↔
      ∃ content, system.hasEntry tree path = .ok true ∧ system.read tree path = .ok content ∧
        Holds loader content entries := by
  constructor
  · intro h
    rcases readYaml_cases loader system tree path with hholds | hfails | hfails
    · obtain ⟨content, found, hfound, hread, hholds, hyaml⟩ := hholds
      rw [hyaml] at h
      cases h
      exact ⟨content, hfound, hread, hholds⟩
    · obtain ⟨fault, hpassed⟩ := hfails
      rw [readYaml_of_passedOn hpassed] at h
      cases h
    · obtain ⟨fault, hyaml, -⟩ := hfails
      rw [hyaml] at h
      cases h
  · rintro ⟨content, hfound, hread, hholds⟩
    rw [readYaml_of_read hfound hread, parse_of_holds hholds]

/-- **Reading a YAML file** gives the mapping that it holds, if it is there and can be opened. Otherwise
there is a fault that names the file, unless it is one of those that are passed on as they come. -/
theorem readYaml_outcome (loader : Yaml.Loader) (system : System) (tree : FileTree) (path : Path) :
    (∀ entries, readYaml loader system tree path = .ok entries ↔
      ∃ content, system.hasEntry tree path = .ok true ∧ system.read tree path = .ok content ∧
        Holds loader content entries) ∧
    ((∀ fault, ¬ PassedOn loader system tree path fault) →
      (∃ entries, readYaml loader system tree path = .ok entries) ∨
        ∃ fault, readYaml loader system tree path = .error fault ∧ fault.Names path) ∧
    ∀ fault, PassedOn loader system tree path fault →
      readYaml loader system tree path = .error fault := by
  refine ⟨fun entries => readYaml_eq_ok_iff, fun hnone => ?_, fun fault => readYaml_of_passedOn⟩
  rcases readYaml_cases loader system tree path with hholds | hfails | hfails
  · obtain ⟨-, entries, -, -, -, hyaml⟩ := hholds
    exact .inl ⟨entries, hyaml⟩
  · obtain ⟨fault, hpassed⟩ := hfails
    exact absurd hpassed (hnone fault)
  · exact .inr hfails

/-- Files with a month that there is not, with a byte that starts nothing, with a word that is no truth
value, and with a list that has no end. -/
def faultyTree : FileTree where
  home := []
  entries :=
    [([Text.ofString "date.yml"],
      .file ((Text.ofString "since: 2020-13-45\n").flatMap Utf8.encodeUnit)),
     ([Text.ofString "byte.yml"], .file [0xFF]),
     ([Text.ofString "word.yml"],
      .file ((Text.ofString "since: !!bool maybe\n").flatMap Utf8.encodeUnit)),
     ([Text.ofString "list.yml"],
      .file ((Text.ofString "since: [2020\n").flatMap Utf8.encodeUnit))]

/-- A name of one byte too many. -/
def longPath : Path :=
  .ofText (List.replicate 256 0x61)

theorem readYaml_outcome_faulty :
    (readYaml .core .willing faultyTree (.ofText (Text.ofString "list.yml")) =
        .error (.malformed (.ofText (Text.ofString "list.yml"))) ∧
      ∃ fault, readYaml .core .willing faultyTree (.ofText (Text.ofString "list.yml")) = .error fault ∧
        fault.Names (.ofText (Text.ofString "list.yml"))) ∧
    readYaml .core .willing faultyTree (.ofText (Text.ofString "byte.yml")) =
      .error (.undecodable ⟨0, [0xFF], .invalidStart⟩) ∧
    readYaml .core .willing faultyTree longPath = .error (.raised longPath .nameTooLong) := by
  have hlist : readYaml .core .willing faultyTree (.ofText (Text.ofString "list.yml")) =
      .error (.malformed (.ofText (Text.ofString "list.yml"))) := by
    decide +kernel
  have hpassed := fun path => (readYaml_outcome .core .willing faultyTree path).2.2
  have hnone : ∀ fault,
      ¬ PassedOn .core .willing faultyTree (.ofText (Text.ofString "list.yml")) fault := by
    intro fault hfault
    have herror := hpassed _ fault hfault
    rw [hlist, Except.error.injEq] at herror
    subst herror
    cases hfault with
    | nameless _ _ hnameless => cases hnameless
  refine ⟨⟨hlist, ?_⟩, ?_, ?_⟩
  · rcases (readYaml_outcome .core .willing faultyTree _).2.1 hnone with ⟨entries, hok⟩ | herror
    · rw [hlist] at hok
      cases hok
    · exact herror
  · have hread : System.willing.read faultyTree (.ofText (Text.ofString "byte.yml")) = .ok [0xFF] := by
      decide +kernel
    exact hpassed _ _ (.nameless (by decide +kernel) hread (.undecodable (by decide +kernel)))
  · exact hpassed _ _ (.unchecked (by decide +kernel))

/-- Faults that do not name their files, and two that are not even reported. -/
theorem readYaml_unnamed :
    (readYaml .core .willing faultyTree (.ofText (Text.ofString "date.yml")) =
        .error (.noSuchValue (Text.ofString "month must be in 1..12")) ∧
      ¬ Text.ofString "date.yml" <:+:
        (LoadFault.noSuchValue (Text.ofString "month must be in 1..12")).message) ∧
    (∃ e, readYaml .core .willing faultyTree (.ofText (Text.ofString "byte.yml")) =
        .error (.undecodable e) ∧
      ¬ Text.ofString "byte.yml" <:+: (LoadFault.undecodable e).message) ∧
    (∃ b, readYaml .core .willing faultyTree (.ofText (Text.ofString "word.yml")) =
        .error (.breakdown b) ∧
      ¬ Text.ofString "word.yml" <:+: (LoadFault.breakdown b).message ∧
      (LoadFault.breakdown b).isReported = false) ∧
    readYaml .core .willing faultyTree longPath = .error (.raised longPath .nameTooLong) ∧
      (LoadFault.raised longPath .nameTooLong).isReported = false := by
  refine ⟨⟨by decide +kernel, by decide +kernel⟩, ⟨⟨0, [0xFF], .invalidStart⟩, ?_, ?_⟩,
    ⟨Yaml.Breakdown.noTruthValue (Text.ofString "maybe"), ?_, ?_, rfl⟩, by decide +kernel, rfl⟩
  · decide +kernel
  · decide +kernel
  · decide +kernel
  · decide +kernel

end Config
end TypedText
