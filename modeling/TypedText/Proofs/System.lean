import TypedText.Proofs.FileTree
import TypedText.System

/-!
# TypedText.Proofs.System

What a system does to a tree, whatever it refuses and wherever it breaks off. Making directories alters
no file, however it ends (`sameFiles_makeDirectories`). Writing a file alters that file only, and what is
in it then is what was to be written or, where the system broke off, a beginning of it
(`writes_writeFile`).

* `System.Writes`: how writing a file ends, with what has become of the tree by then.
-/

namespace TypedText
namespace System

open FileTree (SameFiles Wrote)

variable {s : System} {t : FileTree} {p : Path} {content : List UInt8}

theorem ask_eq_ok_iff {α : Type} {act : Act} {answer : Except FileError α} {a : α} :
    s.ask t act p answer = .ok a ↔ s.refusal? t act p = none ∧ answer = .ok a := by
  rw [ask]
  cases s.refusal? t act p <;> simp

theorem hasEntry_of_stat {e : FileEntry} (h : s.stat t p = .ok e) : s.hasEntry t p = .ok true := by
  rw [hasEntry, h]

theorem exists_hasEntry_of_openFile {kept : List UInt8 → List UInt8} {opened : FileTree}
    (h : t.openFile p kept = .ok opened) : ∃ found, willing.hasEntry t p = .ok found := by
  obtain ⟨place, hplace, -⟩ := FileTree.openFile_eq_ok h
  cases hentry : t.entryAt? place with
  | none =>
    have hstat : willing.stat t p = .error .notFound := by
      simp only [stat, ask, willing, FileTree.stat, hplace, hentry]
    exact ⟨false, by rw [hasEntry, hstat]; rfl⟩
  | some e => exact ⟨true, hasEntry_of_stat (FileTree.stat_eq_ok_iff.mpr ⟨place, hplace, hentry⟩)⟩

/-! ## Directories -/

theorem sameFiles_makeDirectory {made : FileTree} (h : s.makeDirectory t p = .ok made) :
    SameFiles t made :=
  FileTree.sameFiles_makeDirectory (ask_eq_ok_iff.mp h).2

theorem sameFiles_makeLast (s : System) (t : FileTree) (p : Path) : SameFiles t (s.makeLast t p).1 := by
  rw [makeLast]
  cases hmake : s.makeDirectory t p with
  | ok made => exact sameFiles_makeDirectory hmake
  | error e => exact .refl t

/-- By induction on how far up directories may be missing. -/
theorem sameFiles_makeDirectoriesUpTo (s : System) :
    ∀ (n : Nat) (t : FileTree) (p : Path), SameFiles t (s.makeDirectoriesUpTo n t p).1 := by
  intro n
  induction n with
  | zero => exact s.sameFiles_makeLast
  | succ n ih =>
    intro t p
    rw [makeDirectoriesUpTo]
    cases hmake : s.makeDirectory t p with
    | ok made => exact sameFiles_makeDirectory hmake
    | error e =>
      cases e with
      | notFound =>
        -- the one error that is answered, by making the directories above
        have habove := ih t p.parent
        cases hup : s.makeDirectoriesUpTo n t p.parent with
        | mk above failed? =>
          rw [hup] at habove
          cases failed? with
          | some e => exact habove
          | none => exact habove.trans (s.sameFiles_makeLast above p)
      | _ => exact .refl t

theorem sameFiles_makeDirectories (s : System) (t : FileTree) (p : Path) :
    SameFiles t (s.makeDirectories t p).1 :=
  s.sameFiles_makeDirectoriesUpTo p.names.length t p

theorem makeDirectories_of_stat (h : t.stat p = .ok .directory) :
    willing.makeDirectories t p = (t, none) := by
  have hmake : willing.makeDirectory t p = .error .alreadyExists := FileTree.makeDirectory_of_stat h
  have hdirectory : willing.isDirectory t p = .ok true := by
    have hstat : willing.stat t p = .ok .directory := h
    rw [isDirectory, hstat]
    rfl
  have hleft : willing.leftOf t p .alreadyExists = none := by
    rw [leftOf, if_neg (by decide), hdirectory]
  rw [makeDirectories]
  cases p.names.length with
  | zero => simp only [makeDirectoriesUpTo, makeLast, hmake, hleft]
  | succ n => simp only [makeDirectoriesUpTo, hmake, hleft]

/-! ## Writing a file -/

/-- How writing a file ends, with what has become of the tree by then. -/
inductive Writes (s : System) (t : FileTree) (p : Path) (content : List UInt8) :
    FileTree × Option FileError → Prop
  | refused {e : FileError} : Writes s t p content (t, some e)
  | device {place : Location} {gives : List UInt8} {e? : Option FileError} :
      t.locate p = .ok place → t.entryAt? place = some (.device gives) → Writes s t p content (t, e?)
  | whole {place : Location} {written : FileTree} :
      t.locate p = .ok place → Wrote t written place content → Writes s t p content (written, none)
  | short {place : Location} {opened written : FileTree} {count : Nat} {e : FileError} :
      t.locate p = .ok place → opened.read p = .ok [] → s.shortWrite? opened p = some (count, e) →
      Wrote t written place (content.take count) → Writes s t p content (written, some e)

theorem writes_writeFile (s : System) (t : FileTree) (p : Path) (content : List UInt8) :
    Writes s t p content (s.writeFile t p content) := by
  rw [writeFile, updateFile]
  cases hopen : s.openFile t p fun _ => [] with
  | error e => exact .refused
  | ok opened =>
    obtain ⟨place, hplace, hdevice | ⟨old, hwrote, hold⟩⟩ :=
      FileTree.openFile_eq_ok (ask_eq_ok_iff.mp hopen).2
    · obtain ⟨gives, hentry, rfl⟩ := hdevice
      have hextend : ∀ bytes, opened.extend p bytes = opened :=
        fun _ => FileTree.extend_of_device hplace hentry
      simp only [extend, hextend]
      split <;> exact .device hplace hentry
    · have hempty : old = [] := by
        rcases hold with hold | ⟨_, -, hold⟩ <;> exact hold
      subst hempty
      have hopened := hwrote.locate hplace
      have hextend : ∀ bytes, Wrote t (opened.extend p bytes) place ([] ++ bytes) :=
        fun _ => hwrote.trans (FileTree.wrote_extend hopened hwrote.entry)
      simp only [extend]
      cases hshort : s.shortWrite? opened p with
      | none => exact .whole hplace (hextend content)
      | some short => exact .short hplace (hwrote.read hopened) hshort (hextend _)

theorem writeFile_of_openFile {opened : FileTree} (h : t.openFile p (fun _ => []) = .ok opened)
    (content : List UInt8) : willing.writeFile t p content = (opened.extend p content, none) := by
  have hopen : willing.openFile t p (fun _ => []) = .ok opened := h
  rw [writeFile, updateFile, hopen]
  rfl

end System
end TypedText
