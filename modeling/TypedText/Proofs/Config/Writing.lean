import TypedText.Proofs.Config.Loading
import TypedText.Proofs.Utf8

/-!
# TypedText.Proofs.Config.Writing

Writing the defaults, any number of times, to any paths, over what is there or not, on systems that may
refuse anything and break off anywhere. A call makes the directories above the path and then writes one
file in place; `WriteCall.Ended` says how it can end, with what has become of the tree by then.

* `Config.WriteCall`, `Config.treeAfter`: calls, and the tree that some of them leave behind.
* `Config.WriteCall.Careful`: what a call does to the tree it finds, by how it ends.
* `load_of_read_template`: the template loads as the defaults.
* `writeDefaults_run`: every call of a run is careful, and a file that was there holds what it held, or
  what a call has left in it.
-/

namespace TypedText
namespace Config

open FileTree (SameFiles Wrote)

/-- A call for the defaults to be written, over what is there if `force` says so, with the system as it is
by then. -/
structure WriteCall where
  path : Path
  force : Bool
  system : System

def WriteCall.run (call : WriteCall) (tree : FileTree) : Written :=
  writeDefaults call.system tree call.path call.force

/-- The tree after calls one after the other, however each of them ends. -/
def treeAfter (tree : FileTree) (calls : List WriteCall) : FileTree :=
  calls.foldl (fun tree call => (call.run tree).tree) tree

/-- The template is a document with the defaults in it. -/
def ReadsTemplate (loader : Yaml.Loader) : Prop :=
  loader (Utf8.stream templateBytes) = .ok (.map defaults)

/-- What a call does to the tree it finds. Where it writes, the file that the path leads to is the only one
that it may alter; where it fails otherwise, it alters none. A device keeps nothing of what is written to
it, and what is written can be loaded only where the system lets it be read. -/
structure WriteCall.Careful (call : WriteCall) (found : FileTree) (written : Written) : Prop where
  declines : call.system.hasEntry found call.path = .ok true → call.force = false →
    written.outcome = .ok false ∧ written.tree = found
  unchecked : ∀ e, call.system.hasEntry found call.path = .error e →
    written.outcome = .error e ∧ written.tree = found
  succeeds : ∀ opened, call.system = .willing → found.stat call.path.parent = .ok .directory →
    found.openFile call.path (fun _ => []) = .ok opened →
    (call.system.hasEntry found call.path = .ok true → call.force = true) →
    written.outcome = .ok true
  writes : written.outcome = .ok true →
    written.tree.read call.path = .ok templateBytes ∨
      ∃ gives, written.tree.stat call.path = .ok (.device gives)
  keeps_others : written.outcome = .ok true → ∀ path content, found.read path = .ok content →
    found.locate path ≠ written.tree.locate call.path → written.tree.read path = .ok content
  loads : written.outcome = .ok true →
    (∀ gives, written.tree.stat call.path ≠ .ok (.device gives)) →
    ∀ loader system, ReadsTemplate loader → system.refusal? written.tree .look call.path = none →
      system.refusal? written.tree .read call.path = none →
      (load loader system written.tree call.path).outcome = .ok defaults
  keeps_all : ∀ e, written.outcome = .error e → ∀ path content, found.read path = .ok content →
    written.tree.read path = .ok content ∨
      written.tree.locate path = written.tree.locate call.path ∧
        ∃ opened count, opened.read call.path = .ok [] ∧
          call.system.shortWrite? opened call.path = some (count, e) ∧
          written.tree.read path = .ok (templateBytes.take count)

/-- What calls may leave in a file that was there: the template, or as much of it as there was when the
system broke off. -/
inductive Left (calls : List WriteCall) : List UInt8 → Prop
  | whole : Left calls templateBytes
  | short {call : WriteCall} {opened : FileTree} {count : Nat} {e : FileError} :
      call ∈ calls → call.system.shortWrite? opened call.path = some (count, e) →
      Left calls (templateBytes.take count)

variable {system : System} {tree : FileTree} {path : Path} {content : List UInt8} {call : WriteCall}
  {found : FileTree} {written : Written}

/-! ## The template -/

theorem ofYaml_template : Value.ofYaml template = .ok (.map defaults) := by
  decide +kernel

theorem decodeFile_templateBytes : Utf8.decodeFile templateBytes = .ok template := by
  have hplain : ∀ c ∈ template, c.isSurrogate = false ∧ c.val ≠ 0x0D := by
    decide +kernel
  exact Utf8.decodeFile_encode (Text.hasSurrogate_eq_false_iff.mpr fun c hc => (hplain c hc).1)
    fun c hc => (hplain c hc).2

theorem readsTemplate_core : ReadsTemplate .core := by
  have hstream : Utf8.stream templateBytes = ⟨template, none⟩ := by
    rw [Utf8.stream, decodeFile_templateBytes]
  rw [ReadsTemplate, hstream, Yaml.Loader.core]
  exact ofYaml_template

theorem withDefaults_defaults : withDefaults defaults = defaults := by
  decide +kernel

theorem load_of_read_template {loader : Yaml.Loader} (hloader : ReadsTemplate loader)
    (hlook : system.refusal? tree .look path = none) (hopen : system.refusal? tree .read path = none)
    (h : tree.read path = .ok templateBytes) : (load loader system tree path).outcome = .ok defaults := by
  have hfound : system.hasEntry tree path = .ok true := by
    obtain ⟨e, hstat⟩ := FileTree.exists_stat_of_read h
    exact System.hasEntry_of_stat (System.ask_eq_ok_iff.mpr ⟨hlook, hstat⟩)
  have hread : readYaml loader system tree path = .ok defaults :=
    readYaml_eq_ok_iff.mpr ⟨_, hfound, System.ask_eq_ok_iff.mpr ⟨hopen, h⟩, .map hloader⟩
  rw [load_outcome hread, withDefaults_defaults]
  exact validate_eq_ok_iff.mpr ⟨defaults_valid, rfl⟩

/-! ## One call -/

/-- How a call can end, and what has become of the tree by then. -/
inductive WriteCall.Ended (call : WriteCall) (found : FileTree) (written : Written) : Prop
  | declined : written.outcome = .ok false → written.tree = found → Ended call found written
  | failed {e : FileError} :
      written.outcome = .error e → SameFiles found written.tree → Ended call found written
  | device {gives : List UInt8} :
      written.outcome = .ok true → SameFiles found written.tree →
      written.tree.stat call.path = .ok (.device gives) → Ended call found written
  | whole {place : Location} :
      written.outcome = .ok true → written.tree.locate call.path = .ok place →
      Wrote found written.tree place templateBytes → Ended call found written
  | short {place : Location} {opened : FileTree} {count : Nat} {e : FileError} :
      written.outcome = .error e → written.tree.locate call.path = .ok place →
      opened.read call.path = .ok [] → call.system.shortWrite? opened call.path = some (count, e) →
      Wrote found written.tree place (templateBytes.take count) → Ended call found written

theorem ended_run (call : WriteCall) (found : FileTree) : call.Ended found (call.run found) := by
  obtain ⟨path, force, system⟩ := call
  have hdirectories := system.sameFiles_makeDirectories found path.parent
  simp only [WriteCall.run, writeDefaults]
  split
  · exact .failed rfl (.refl found)
  · split
    · exact .declined rfl rfl
    · split
      · rename_i above e hmake
        rw [hmake] at hdirectories
        exact .failed rfl hdirectories
      · rename_i above hmake
        rw [hmake] at hdirectories
        have hwrites := system.writes_writeFile above path templateBytes
        split
        · rename_i written e hwrite
          rw [hwrite] at hwrites
          cases hwrites with
          | refused => exact .failed rfl hdirectories
          | device => exact .failed rfl hdirectories
          | short hplace hopened hshort hwrote =>
            exact .short rfl (hwrote.locate hplace) hopened hshort (.of_sameFiles hdirectories hwrote)
        · rename_i written hwrite
          rw [hwrite] at hwrites
          cases hwrites with
          | device hplace hentry =>
            exact .device rfl hdirectories (FileTree.stat_eq_ok_iff.mpr ⟨_, hplace, hentry⟩)
          | whole hplace hwrote =>
            exact .whole rfl (hwrote.locate hplace) (.of_sameFiles hdirectories hwrote)

theorem run_declined (h : call.system.hasEntry found call.path = .ok true) (hforce : call.force = false) :
    (call.run found).outcome = .ok false ∧ (call.run found).tree = found := by
  simp [WriteCall.run, writeDefaults, h, hforce]

theorem run_unchecked {e : FileError} (h : call.system.hasEntry found call.path = .error e) :
    (call.run found).outcome = .error e ∧ (call.run found).tree = found := by
  simp only [WriteCall.run, writeDefaults, h, and_self]

theorem run_succeeds {opened : FileTree} (hsystem : call.system = .willing)
    (hparent : found.stat call.path.parent = .ok .directory)
    (hopen : found.openFile call.path (fun _ => []) = .ok opened)
    (hforce : call.system.hasEntry found call.path = .ok true → call.force = true) :
    (call.run found).outcome = .ok true := by
  obtain ⟨there, hfound⟩ := System.exists_hasEntry_of_openFile hopen
  rw [hsystem] at hforce
  have hgoes : ¬ (there && !call.force) = true := by
    rintro hdeclines
    obtain ⟨rfl, hnot⟩ := Bool.and_eq_true_iff.mp hdeclines
    rw [hforce hfound] at hnot
    cases hnot
  simp only [WriteCall.run, writeDefaults, hsystem, hfound, if_neg hgoes,
    System.makeDirectories_of_stat hparent, System.writeFile_of_openFile hopen]

namespace WriteCall.Ended

theorem same (h : call.Ended found written) (hfalse : written.outcome = .ok false) :
    written.tree = found := by
  cases h with
  | declined _ hsame => exact hsame
  | failed herror => rw [herror] at hfalse; cases hfalse
  | device htrue => rw [htrue] at hfalse; cases hfalse
  | whole htrue => rw [htrue] at hfalse; cases hfalse
  | short herror => rw [herror] at hfalse; cases hfalse

/-- Success is to have written the whole of it, or something to a device. -/
theorem of_success (h : call.Ended found written) (htrue : written.outcome = .ok true) :
    (SameFiles found written.tree ∧ ∃ gives, written.tree.stat call.path = .ok (.device gives)) ∨
      ∃ place, written.tree.locate call.path = .ok place ∧
        Wrote found written.tree place templateBytes := by
  cases h with
  | declined hfalse => rw [hfalse] at htrue; cases htrue
  | failed herror => rw [herror] at htrue; cases htrue
  | device _ hsame hdevice => exact .inl ⟨hsame, _, hdevice⟩
  | whole _ hplace hwrote => exact .inr ⟨_, hplace, hwrote⟩
  | short herror => rw [herror] at htrue; cases htrue

/-- Failure is to have written nothing, or not all of it. -/
theorem of_failure {e : FileError} (h : call.Ended found written) (herror : written.outcome = .error e) :
    SameFiles found written.tree ∨
      ∃ place opened count, written.tree.locate call.path = .ok place ∧
        opened.read call.path = .ok [] ∧ call.system.shortWrite? opened call.path = some (count, e) ∧
        Wrote found written.tree place (templateBytes.take count) := by
  cases h with
  | declined hfalse => rw [hfalse] at herror; cases herror
  | failed _ hsame => exact .inl hsame
  | device htrue => rw [htrue] at herror; cases herror
  | whole htrue => rw [htrue] at herror; cases herror
  | short hshortError hplace hopened hshort hwrote =>
    rw [hshortError] at herror
    cases herror
    exact .inr ⟨_, _, _, hplace, hopened, hshort, hwrote⟩

theorem writes (h : call.Ended found written) (htrue : written.outcome = .ok true) :
    written.tree.read call.path = .ok templateBytes ∨
      ∃ gives, written.tree.stat call.path = .ok (.device gives) := by
  rcases h.of_success htrue with ⟨-, hdevice⟩ | ⟨place, hplace, hwrote⟩
  · exact .inr hdevice
  · exact .inl (hwrote.read hplace)

theorem keeps_others (h : call.Ended found written) (htrue : written.outcome = .ok true)
    (hread : found.read path = .ok content)
    (hne : found.locate path ≠ written.tree.locate call.path) :
    written.tree.read path = .ok content := by
  rcases h.of_success htrue with ⟨hsame, -⟩ | ⟨place, hplace, hwrote⟩
  · exact hsame.read hread
  · rw [hplace] at hne
    exact hwrote.read_of_ne hread hne

theorem keeps_all {e : FileError} (h : call.Ended found written) (herror : written.outcome = .error e)
    (hread : found.read path = .ok content) :
    written.tree.read path = .ok content ∨
      written.tree.locate path = written.tree.locate call.path ∧
        ∃ opened count, opened.read call.path = .ok [] ∧
          call.system.shortWrite? opened call.path = some (count, e) ∧
          written.tree.read path = .ok (templateBytes.take count) := by
  rcases h.of_failure herror with hsame | ⟨place, opened, count, hplace, hopened, hshort, hwrote⟩
  · exact .inl (hsame.read hread)
  · refine (hwrote.read_cases hread).imp_right fun ⟨hl, hwritten⟩ => ?_
    exact ⟨hl.trans hplace.symm, opened, count, hopened, hshort, hwritten⟩

/-- A file that was there holds what it held or what the call has left in it. -/
theorem read (h : call.Ended found written) (hread : found.read path = .ok content) :
    written.tree.read path = .ok content ∨
      ∃ left, Left [call] left ∧ written.tree.read path = .ok left := by
  cases h with
  | declined _ hsame => exact .inl (hsame ▸ hread)
  | failed _ hsame => exact .inl (hsame.read hread)
  | device _ hsame => exact .inl (hsame.read hread)
  | whole _ _ hwrote =>
    exact (hwrote.read_cases hread).imp_right fun hwritten => ⟨_, .whole, hwritten.2⟩
  | short _ _ _ hshort hwrote =>
    refine (hwrote.read_cases hread).imp_right fun hwritten => ⟨_, ?_, hwritten.2⟩
    exact .short List.mem_cons_self hshort

end WriteCall.Ended

theorem careful_run (call : WriteCall) (found : FileTree) : call.Careful found (call.run found) where
  declines := run_declined
  unchecked _ := run_unchecked
  succeeds _ := run_succeeds
  writes := (ended_run call found).writes
  keeps_others htrue _ _ hread := (ended_run call found).keeps_others htrue hread
  loads htrue hdevice loader system hloader hlook hopen := by
    rcases (ended_run call found).writes htrue with hread | ⟨gives, hgives⟩
    · exact load_of_read_template hloader hlook hopen hread
    · exact absurd hgives (hdevice gives)
  keeps_all _ herror _ _ hread := (ended_run call found).keeps_all herror hread

/-! ## A run of calls -/

theorem Left.mono {calls more : List WriteCall} (h : Left calls content) (hcalls : calls ⊆ more) :
    Left more content := by
  cases h with
  | whole => exact .whole
  | short hcall hshort => exact .short (hcalls hcall) hshort

/-- By induction on the calls, for whatever the file holds before them. -/
theorem read_treeAfter (calls : List WriteCall) :
    ∀ {tree content}, tree.read path = .ok content →
      (treeAfter tree calls).read path = .ok content ∨
        ∃ left, Left calls left ∧ (treeAfter tree calls).read path = .ok left := by
  induction calls with
  | nil => exact fun h => .inl h
  | cons call rest ih =>
    intro tree content h
    have hrest : ∀ {held},
        (∃ left, Left rest left ∧ (treeAfter tree (call :: rest)).read path = .ok left) →
        (treeAfter tree (call :: rest)).read path = .ok held ∨
          ∃ left, Left (call :: rest) left ∧ (treeAfter tree (call :: rest)).read path = .ok left := by
      rintro held ⟨left, hleft, hread⟩
      exact .inr ⟨left, hleft.mono (List.subset_cons_self call rest), hread⟩
    rcases (ended_run call tree).read h with hkept | ⟨left, hleft, hwritten⟩
    · exact (ih hkept).elim .inl hrest
    · refine (ih hwritten).elim (fun hread => .inr ⟨left, hleft.mono ?_, hread⟩) hrest
      simp

/-- **Writing the defaults is careful.** In a run of calls each one declines over what it finds unless it
is told to, alters at most the file that its path leads to, and leaves a file there that loads as the
defaults if it succeeds. So a file that was there at first holds what it held, or what some call has left
in it. -/
theorem writeDefaults_run (tree : FileTree) (calls : List WriteCall) :
    (∀ before call after, calls = before ++ call :: after →
      call.Careful (treeAfter tree before) (call.run (treeAfter tree before))) ∧
    ∀ path content, tree.read path = .ok content →
      (treeAfter tree calls).read path = .ok content ∨
        ∃ left, Left calls left ∧ (treeAfter tree calls).read path = .ok left :=
  ⟨fun before call _ _ => careful_run call (treeAfter tree before),
    fun _ _ h => read_treeAfter calls h⟩

def notePath : Path :=
  .ofText (Text.ofString "note")

/-- A tree with one file. -/
def noteTree : FileTree where
  home := []
  entries := [([Text.ofString "note"], .file [0x68])]

/-- A call for a path below a directory that is not there, and one for a path below the file. -/
def etcCall : WriteCall :=
  ⟨.ofText (Text.ofString "etc/app.yml"), false, .willing⟩

def belowNoteCall : WriteCall :=
  ⟨.ofText (Text.ofString "note/app.yml"), true, .willing⟩

/-- What the first of these calls leaves behind. -/
def etcTree : FileTree :=
  treeAfter noteTree [etcCall]

theorem writeDefaults_run_note :
    ((etcCall.run noteTree).outcome = .ok true ∧
      (load .core .willing etcTree etcCall.path).outcome = .ok defaults) ∧
    ((etcCall.run etcTree).outcome = .ok false ∧ (etcCall.run etcTree).tree = etcTree) ∧
    (belowNoteCall.run etcTree).outcome = .error .alreadyExists ∧
      (belowNoteCall.run etcTree).tree.read notePath = .ok [0x68] := by
  obtain ⟨htwice, -⟩ := writeDefaults_run noteTree [etcCall, etcCall]
  have hfirst : etcCall.Careful noteTree (etcCall.run noteTree) := htwice [] etcCall _ rfl
  have hsecond : etcCall.Careful etcTree (etcCall.run etcTree) := htwice [etcCall] etcCall _ rfl
  have hbelow : belowNoteCall.Careful etcTree (belowNoteCall.run etcTree) :=
    (writeDefaults_run noteTree [etcCall, belowNoteCall]).1 [etcCall] belowNoteCall _ rfl
  have hwritten : (etcCall.run noteTree).outcome = .ok true := by
    decide +kernel
  have hdevice : ∀ gives, (etcCall.run noteTree).tree.stat etcCall.path ≠ .ok (.device gives) := by
    intro gives hgives
    have hplace : (etcCall.run noteTree).tree.stat etcCall.path = .ok (.file templateBytes) := by
      decide +kernel
    cases hplace.symm.trans hgives
  have hnote : etcTree.read notePath = .ok [0x68] :=
    hfirst.keeps_others hwritten _ _ (by decide +kernel) (by decide +kernel)
  have herror : (belowNoteCall.run etcTree).outcome = .error .alreadyExists := by
    decide +kernel
  refine ⟨⟨hwritten, hfirst.loads hwritten hdevice _ _ readsTemplate_core rfl rfl⟩,
    hsecond.declines (by decide +kernel) rfl, herror, ?_⟩
  rcases hbelow.keeps_all _ herror _ _ hnote with hkept | ⟨-, opened, count, -, hshort, -⟩
  · exact hkept
  · cases hshort

/-- A device for whatever nobody wants to keep. -/
def nullTree : FileTree where
  home := []
  entries :=
    [([Text.ofString "dev"], .directory),
     ([Text.ofString "dev", Text.ofString "null"], .device [])]

def nullCall : WriteCall :=
  ⟨.ofText (Text.ofString "/dev/null"), true, .willing⟩

/-- A disk on which there is no room. -/
def fullDisk : System :=
  { System.willing with shortWrite? := fun _ _ => some (0, .other 28 "No space left on device") }

/-- A system that lets files be written and not be read. -/
def writeOnly : System :=
  { System.willing with
    refusal? := fun _ act _ => if act = .read then some (.other 13 "Permission denied") else none }

/-- A device does not hold the template afterwards, a file that there is no room for has lost what was in
it, and one that must not be read does not load. -/
theorem writeDefaults_unkept :
    ((nullCall.run nullTree).outcome = .ok true ∧
      (nullCall.run nullTree).tree.read nullCall.path = .ok [] ∧ templateBytes ≠ []) ∧
    (noteTree.read notePath = .ok [0x68] ∧
      (WriteCall.run ⟨notePath, true, fullDisk⟩ noteTree).outcome =
        .error (.other 28 "No space left on device") ∧
      (WriteCall.run ⟨notePath, true, fullDisk⟩ noteTree).tree.read notePath = .ok []) ∧
    (WriteCall.run ⟨notePath, true, writeOnly⟩ noteTree).outcome = .ok true ∧
      (load .core writeOnly (WriteCall.run ⟨notePath, true, writeOnly⟩ noteTree).tree notePath).outcome =
        .error (.unreadable notePath (.other 13 "Permission denied")) := by
  refine ⟨⟨by decide +kernel, by decide +kernel, by decide +kernel⟩,
    ⟨by decide +kernel, by decide +kernel, by decide +kernel⟩, by decide +kernel, by decide +kernel⟩

/-- What counts as found is what the path leads to before directories are made for it. Here it leads
nowhere until the directory before `..` is there, and then to the file. -/
example :
    System.willing.hasEntry noteTree (.ofText (Text.ofString "etc/../note")) = .ok false ∧
      (writeDefaults .willing noteTree (.ofText (Text.ofString "etc/../note")) false).outcome = .ok true ∧
      (writeDefaults .willing noteTree (.ofText (Text.ofString "etc/../note")) false).tree.locate
        (.ofText (Text.ofString "etc/../note")) = noteTree.locate notePath := by
  decide +kernel

end Config
end TypedText
