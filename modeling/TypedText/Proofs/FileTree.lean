import Mathlib.Data.List.Basic
import TypedText.FileTree

/-!
# TypedText.Proofs.FileTree

What changes of a file tree leave as it was. No change takes a directory or a link away, or makes one of
something else, so a path that leads somewhere leads to the same place afterwards (`Keeps.locate`). Beyond
that each change is said by the places whose content it may alter: making a directory alters none
(`sameFiles_makeDirectory`), and opening or extending a file alters its own only (`Wrote`).

* `FileTree.contentAt?`: what reading gives at a place, if anything there can be read.
* `FileTree.Keeps`, `FileTree.SameFiles`: that directories and links stay; that all files stay besides.
* `FileTree.Wrote`: that one file has this content, and the others what they had.
-/

namespace TypedText
namespace FileTree

variable {t t' t'' : FileTree} {p : Path} {at_ place l : Location} {name : Name} {names : List Name}
  {e : FileEntry} {content bytes : List UInt8}

/-- What reading gives at a place, if anything there can be read. -/
def contentAt? (t : FileTree) (place : Location) : Option (List UInt8) :=
  match t.entryAt? place with
  | some (.file content) => some content
  | some (.device gives) => some gives
  | _ => none

theorem locate_eq_ok_iff :
    t.locate p = .ok place ↔ p.fault? = none ∧ t.follow maxLinks (t.start p) p.names = .ok place := by
  rw [locate]
  cases p.fault? <;> simp

theorem stat_eq_ok_iff :
    t.stat p = .ok e ↔ ∃ place, t.locate p = .ok place ∧ t.entryAt? place = some e := by
  simp only [stat]
  cases t.locate p with
  | error e => simp
  | ok place =>
    simp only [Except.ok.injEq, exists_eq_left']
    cases t.entryAt? place <;> simp

theorem read_eq_ok_iff :
    t.read p = .ok content ↔ ∃ place, t.locate p = .ok place ∧ t.contentAt? place = some content := by
  simp only [read, stat, contentAt?]
  cases t.locate p with
  | error e => simp
  | ok place =>
    simp only [Except.ok.injEq, exists_eq_left']
    cases t.entryAt? place with
    | none => simp
    | some e => cases e <;> simp

theorem exists_stat_of_read (h : t.read p = .ok content) : ∃ e, t.stat p = .ok e := by
  rw [read] at h
  split at h
  · cases h
  all_goals exact ⟨_, ‹_›⟩

/-! ## Putting an entry -/

theorem lookup_map (place l : Location) (e : FileEntry) (entries : List (Location × FileEntry)) :
    (entries.map fun (k, old) => if k = place then (k, e) else (k, old)).lookup l =
      if l = place then (entries.lookup l).map fun _ => e else entries.lookup l := by
  induction entries with
  | nil => simp
  | cons entry rest ih =>
    obtain ⟨k, old⟩ := entry
    by_cases hk : l = k
    · subst hk
      by_cases hplace : l = place <;> simp [hplace]
    · have hl : (l == k) = false := by simpa using hk
      by_cases hplace : k = place
      · simp only [List.map_cons, if_pos hplace, List.lookup_cons, hl, ih]
      · simp only [List.map_cons, if_neg hplace, List.lookup_cons, hl, ih]

theorem lookup_put (t : FileTree) (place : Location) (e : FileEntry) (l : Location) :
    (t.put place e).entries.lookup l = if l = place then some e else t.entries.lookup l := by
  unfold put
  split
  · rename_i hsome
    obtain ⟨old, hold⟩ := Option.isSome_iff_exists.mp hsome
    rw [lookup_map]
    split
    · rename_i h
      rw [h, hold]
      rfl
    · rfl
  · rename_i hnone
    rw [Option.not_isSome_iff_eq_none] at hnone
    rw [List.lookup_append]
    split
    · rename_i h
      simp [h, hnone]
    · rename_i h
      have hl : (l == place) = false := by simpa using h
      simp [List.lookup_cons, hl]

theorem home_put (t : FileTree) (place : Location) (e : FileEntry) : (t.put place e).home = t.home := by
  unfold put
  split <;> rfl

/-- The top, which is always a directory, is the one place where nothing can be put. -/
theorem entryAt?_put (hplace : t.entryAt? place ≠ some .directory) (e : FileEntry) (l : Location) :
    (t.put place e).entryAt? l = if l = place then some e else t.entryAt? l := by
  cases l with
  | nil =>
    have hne : [] ≠ place := by
      rintro rfl
      exact hplace rfl
    rw [if_neg hne]
    rfl
  | cons name names => exact lookup_put t place e (name :: names)

/-- Nothing is at the place, or a file. -/
def Free (t : FileTree) (place : Location) : Prop :=
  t.entryAt? place = none ∨ ∃ content, t.entryAt? place = some (.file content)

theorem Free.ne_directory (h : t.Free place) : t.entryAt? place ≠ some .directory := by
  rcases h with h | ⟨content, h⟩ <;> simp [h]

theorem Free.ne_link (h : t.Free place) (target : Path) : t.entryAt? place ≠ some (.link target) := by
  rcases h with h | ⟨content, h⟩ <;> simp [h]

theorem contentAt?_put_file (h : t.Free place) (content : List UInt8) (l : Location) :
    (t.put place (.file content)).contentAt? l = if l = place then some content else t.contentAt? l := by
  by_cases hl : l = place
  · simp only [contentAt?, entryAt?_put h.ne_directory, if_pos hl]
  · simp only [contentAt?, entryAt?_put h.ne_directory, if_neg hl]

theorem contentAt?_put_directory (h : t.entryAt? place = none) (l : Location) :
    (t.put place .directory).contentAt? l = t.contentAt? l := by
  have hput := entryAt?_put (Free.ne_directory (.inl h)) .directory l
  by_cases hl : l = place
  · subst hl
    rw [if_pos rfl] at hput
    simp only [contentAt?, hput, h]
  · simp only [contentAt?, hput, if_neg hl]

/-! ## What stays -/

/-- Directories and links stay where they are, and no link is new. -/
structure Keeps (t t' : FileTree) : Prop where
  home : t'.home = t.home
  directories : ∀ l, t.entryAt? l = some .directory → t'.entryAt? l = some .directory
  links : ∀ l target, t'.entryAt? l = some (.link target) ↔ t.entryAt? l = some (.link target)

/-- Directories and links stay, and so do all files with their content; no file is new. -/
structure SameFiles (t t' : FileTree) : Prop extends Keeps t t' where
  content : ∀ l, t'.contentAt? l = t.contentAt? l

/-- The file at the place has this content; all other files have what they had. -/
structure Wrote (t t' : FileTree) (place : Location) (content : List UInt8) : Prop
    extends Keeps t t' where
  entry : t'.entryAt? place = some (.file content)
  content_eq : ∀ l, t'.contentAt? l = if l = place then some content else t.contentAt? l

theorem next_eq_ok (h : t.next at_ name = .ok l) :
    t.entryAt? at_ = some .directory ∧ l = Path.step at_ name := by
  simp only [next] at h
  cases hentry : t.entryAt? at_ with
  | none => rw [hentry] at h; cases h
  | some e =>
    rw [hentry] at h
    cases e with
    | directory =>
      simp only at h
      split at h
      · cases h
      · cases h
        exact ⟨rfl, rfl⟩
    | file content => cases h
    | link target => cases h
    | device gives => cases h

section Walk

variable {redirect redirect' : Location → Path → List Name → Except FileError Location}

theorem walk_link {target : Path} (hnext : t.next at_ name = .ok place)
    (hlink : t.entryAt? place = some (.link target)) :
    t.walk redirect at_ (name :: names) = redirect at_ target names := by
  simp only [walk, hnext, hlink]

theorem walk_onwards (hnext : t.next at_ name = .ok place)
    (hno : ∀ target, t.entryAt? place ≠ some (.link target)) :
    t.walk redirect at_ (name :: names) = t.walk redirect place names := by
  simp only [walk, hnext]

theorem exists_next_of_walk (h : t.walk redirect at_ (name :: names) = .ok l) :
    ∃ place, t.next at_ name = .ok place := by
  rw [walk] at h
  cases hnext : t.next at_ name with
  | error e => rw [hnext] at h; cases h
  | ok place => exact ⟨place, rfl⟩

theorem Keeps.next (h : Keeps t t') (hnext : t.next at_ name = .ok l) : t'.next at_ name = .ok l := by
  obtain ⟨hentry, -⟩ := next_eq_ok hnext
  rw [FileTree.next, hentry] at hnext
  rw [FileTree.next, h.directories at_ hentry]
  exact hnext

theorem Keeps.walk (h : Keeps t t')
    (hredirect : ∀ at_ target names, redirect at_ target names = .ok l →
      redirect' at_ target names = .ok l)
    (hwalk : t.walk redirect at_ names = .ok l) : t'.walk redirect' at_ names = .ok l := by
  induction names generalizing at_ with
  | nil => exact hwalk
  | cons name names ih =>
    obtain ⟨place, hnext⟩ := exists_next_of_walk hwalk
    by_cases hlink : ∃ target, t.entryAt? place = some (.link target)
    · obtain ⟨target, hlink⟩ := hlink
      rw [walk_link hnext hlink] at hwalk
      rw [walk_link (h.next hnext) ((h.links place target).mpr hlink)]
      exact hredirect at_ target names hwalk
    · have hno : ∀ target, t.entryAt? place ≠ some (.link target) := not_exists.mp hlink
      rw [walk_onwards hnext hno] at hwalk
      rw [walk_onwards (h.next hnext) fun target => (h.links place target).not.mpr (hno target)]
      exact ih hwalk

end Walk

namespace Keeps

/-- By induction on the links that may still be followed. -/
theorem follow (h : Keeps t t') (links : Nat) :
    ∀ {at_ names l}, t.follow links at_ names = .ok l → t'.follow links at_ names = .ok l := by
  induction links with
  | zero =>
    intro at_ names l hfollow
    exact h.walk (fun _ _ _ herror => by cases herror) hfollow
  | succ links ih =>
    intro at_ names l hfollow
    exact h.walk (fun _ _ _ hredirect => ih hredirect) hfollow

/-- A path that leads somewhere leads to the same place in the later tree. -/
theorem locate (h : Keeps t t') (hlocate : t.locate p = .ok place) : t'.locate p = .ok place := by
  rw [locate_eq_ok_iff, start] at hlocate ⊢
  rw [h.home]
  exact ⟨hlocate.1, h.follow maxLinks hlocate.2⟩

theorem refl (t : FileTree) : Keeps t t :=
  ⟨rfl, fun _ h => h, fun _ _ => Iff.rfl⟩

theorem trans (h : Keeps t t') (h' : Keeps t' t'') : Keeps t t'' where
  home := h'.home.trans h.home
  directories l hl := h'.directories l (h.directories l hl)
  links l target := (h'.links l target).trans (h.links l target)

theorem put (hfree : t.Free place) (hlink : ∀ target, e ≠ .link target) : Keeps t (t.put place e) where
  home := home_put t place e
  directories l hl := by
    have hne : l ≠ place := by
      rintro rfl
      exact hfree.ne_directory hl
    rw [entryAt?_put hfree.ne_directory, if_neg hne, hl]
  links l target := by
    rw [entryAt?_put hfree.ne_directory]
    split
    · rename_i hl
      subst hl
      simp [hlink target, hfree.ne_link target]
    · rfl

end Keeps

namespace SameFiles

theorem refl (t : FileTree) : SameFiles t t :=
  ⟨.refl t, fun _ => rfl⟩

theorem trans (h : SameFiles t t') (h' : SameFiles t' t'') : SameFiles t t'' where
  toKeeps := h.toKeeps.trans h'.toKeeps
  content l := (h'.content l).trans (h.content l)

theorem read (h : SameFiles t t') (hread : t.read p = .ok content) : t'.read p = .ok content := by
  rw [read_eq_ok_iff] at hread ⊢
  obtain ⟨place, hplace, hcontent⟩ := hread
  exact ⟨place, h.locate hplace, by rw [h.content, hcontent]⟩

end SameFiles

namespace Wrote

theorem put (h : t.Free place) (content : List UInt8) :
    Wrote t (t.put place (.file content)) place content where
  toKeeps := .put h (by simp)
  entry := by rw [entryAt?_put h.ne_directory, if_pos rfl]
  content_eq := contentAt?_put_file h content

/-- The last content is what counts. -/
theorem trans (h : Wrote t t' place content) (h' : Wrote t' t'' place bytes) :
    Wrote t t'' place bytes where
  toKeeps := h.toKeeps.trans h'.toKeeps
  entry := h'.entry
  content_eq l := by
    rw [h'.content_eq, h.content_eq]
    split <;> rfl

theorem of_sameFiles (h : SameFiles t t') (h' : Wrote t' t'' place content) :
    Wrote t t'' place content where
  toKeeps := h.toKeeps.trans h'.toKeeps
  entry := h'.entry
  content_eq l := by rw [h'.content_eq, h.content]

/-- Any path that leads to the place finds the content there. -/
theorem read (h : Wrote t t' place content) (hp : t'.locate p = .ok place) : t'.read p = .ok content :=
  read_eq_ok_iff.mpr ⟨place, hp, by rw [h.content_eq, if_pos rfl]⟩

/-- Paths that lead to other files lead to what they did before. -/
theorem read_of_ne (h : Wrote t t' place content) (hread : t.read p = .ok bytes)
    (hne : t.locate p ≠ .ok place) : t'.read p = .ok bytes := by
  rw [read_eq_ok_iff] at hread ⊢
  obtain ⟨l, hl, hcontent⟩ := hread
  have hlne : l ≠ place := by
    rintro rfl
    exact hne hl
  exact ⟨l, h.locate hl, by rw [h.content_eq, if_neg hlne, hcontent]⟩

theorem read_cases (h : Wrote t t' place content) (hread : t.read p = .ok bytes) :
    t'.read p = .ok bytes ∨ t'.locate p = .ok place ∧ t'.read p = .ok content := by
  by_cases hp : t.locate p = .ok place
  · exact .inr ⟨h.locate hp, h.read (h.locate hp)⟩
  · exact .inl (h.read_of_ne hread hp)

end Wrote

/-! ## Making a directory -/

theorem sameFiles_makeDirectory (h : t.makeDirectory p = .ok t') : SameFiles t t' := by
  simp only [makeDirectory] at h
  split at h
  · cases h
  · rename_i place _
    cases hentry : t.entryAt? place with
    | some e => rw [hentry] at h; cases h
    | none =>
      rw [hentry] at h
      cases h
      exact ⟨.put (.inl hentry) (by simp), contentAt?_put_directory hentry⟩

/-- The last name on a way that leads somewhere is looked for where the names before it lead; unless
something is there, that is where the whole way leads. -/
theorem exists_next_of_walk_concat
    {redirect redirect' : Location → Path → List Name → Except FileError Location}
    (hredirect : ∀ at_ target names, redirect at_ target (names ++ [name]) = .ok l →
      ∃ above place, redirect' at_ target names = .ok above ∧ t.next above name = .ok place ∧
        (t.entryAt? place = none → l = place))
    (hwalk : t.walk redirect at_ (names ++ [name]) = .ok l) :
    ∃ above place, t.walk redirect' at_ names = .ok above ∧ t.next above name = .ok place ∧
      (t.entryAt? place = none → l = place) := by
  induction names generalizing at_ with
  | nil =>
    obtain ⟨place, hnext⟩ := exists_next_of_walk hwalk
    refine ⟨at_, place, rfl, hnext, fun hnone => ?_⟩
    rw [List.nil_append, walk_onwards hnext (by simp [hnone]), walk] at hwalk
    exact (Except.ok.inj hwalk).symm
  | cons first names ih =>
    rw [List.cons_append] at hwalk
    obtain ⟨place, hnext⟩ := exists_next_of_walk hwalk
    by_cases hlink : ∃ target, t.entryAt? place = some (.link target)
    · obtain ⟨target, hlink⟩ := hlink
      rw [walk_link hnext hlink] at hwalk
      rw [walk_link hnext hlink]
      exact hredirect at_ target names hwalk
    · have hno : ∀ target, t.entryAt? place ≠ some (.link target) := not_exists.mp hlink
      rw [walk_onwards hnext hno] at hwalk
      rw [walk_onwards hnext hno]
      exact ih hwalk

theorem exists_next_of_follow_concat (links : Nat) :
    ∀ {at_ names l}, t.follow links at_ (names ++ [name]) = .ok l →
      ∃ above place, t.follow links at_ names = .ok above ∧ t.next above name = .ok place ∧
        (t.entryAt? place = none → l = place) := by
  induction links with
  | zero =>
    intro at_ names l hfollow
    exact exists_next_of_walk_concat (fun _ _ _ herror => by cases herror) hfollow
  | succ links ih =>
    intro at_ names l hfollow
    refine exists_next_of_walk_concat (fun at_ target names hredirect => ih ?_) hfollow
    rw [List.append_assoc]
    exact hredirect

theorem makeDirectory_of_stat (h : t.stat p = .ok .directory) :
    t.makeDirectory p = .error .alreadyExists := by
  obtain ⟨place, hlocate, hentry⟩ := stat_eq_ok_iff.mp h
  have hthere : ∃ l old, t.locateNew p = .ok l ∧ t.entryAt? l = some old := by
    obtain ⟨hfault, hfollow⟩ := locate_eq_ok_iff.mp hlocate
    simp only [locateNew, hfault]
    cases hlast : p.names.getLast? with
    | none =>
      rw [List.getLast?_eq_none_iff.mp hlast] at hfollow
      cases hfollow
      exact ⟨_, _, rfl, hentry⟩
    | some name =>
      rw [← List.dropLast_append_getLast? name hlast] at hfollow
      obtain ⟨above, l, habove, hnext, hnone⟩ := exists_next_of_follow_concat maxLinks hfollow
      simp only [habove]
      cases hl : t.entryAt? l with
      | none =>
        rw [← hnone hl, hentry] at hl
        cases hl
      | some old => exact ⟨l, old, hnext, hl⟩
  obtain ⟨l, old, hnew, hold⟩ := hthere
  simp only [makeDirectory, hnew, hold]

/-! ## Writing to a file -/

/-- What is opened is a device, or a file that holds what is kept of it from then on. -/
theorem openFile_eq_ok {kept : List UInt8 → List UInt8} (h : t.openFile p kept = .ok t') :
    ∃ place, t.locate p = .ok place ∧
      ((∃ gives, t.entryAt? place = some (.device gives) ∧ t' = t) ∨
        ∃ content, Wrote t t' place content ∧
          (content = [] ∨ ∃ old, t.contentAt? place = some old ∧ content = kept old)) := by
  simp only [openFile] at h
  cases hlocate : t.locate p with
  | error e => rw [hlocate] at h; cases h
  | ok place =>
    rw [hlocate] at h
    refine ⟨place, rfl, ?_⟩
    cases hentry : t.entryAt? place with
    | none =>
      simp only [hentry] at h
      cases h
      exact .inr ⟨[], .put (.inl hentry) [], .inl rfl⟩
    | some e =>
      cases e with
      | file old =>
        simp only [hentry] at h
        cases h
        refine .inr ⟨kept old, .put (.inr ⟨old, hentry⟩) (kept old), .inr ⟨old, ?_, rfl⟩⟩
        simp only [contentAt?, hentry]
      | device gives =>
        simp only [hentry] at h
        cases h
        exact .inl ⟨gives, rfl, rfl⟩
      | directory => simp only [hentry] at h; cases h
      | link target => simp only [hentry] at h; cases h

theorem extend_of_device {gives : List UInt8} (hlocate : t.locate p = .ok place)
    (hentry : t.entryAt? place = some (.device gives)) : t.extend p bytes = t := by
  simp only [extend, hlocate, hentry]

theorem wrote_extend (hlocate : t.locate p = .ok place)
    (hentry : t.entryAt? place = some (.file content)) :
    Wrote t (t.extend p bytes) place (content ++ bytes) := by
  simp only [extend, hlocate, hentry]
  exact .put (.inr ⟨content, hentry⟩) _

end FileTree
end TypedText
