import TypedText.CommandLine.Run
import TypedText.Proofs.Config.Writing
import TypedText.Proofs.Console.Tags
import TypedText.Proofs.Unicode.FixedForms

/-!
# TypedText.Proofs.CommandLine.InitConfig

What is said of the configuration file that was written, or that was left as it was, on any console. The
line has the path in it as markup, after the file has been written: so tags in the path are not shown, and
one that the console refuses makes the run fail over a file that is there by then. The line is as it should
be if nothing in the path reads as markup and the console does not break it, and only then
(`initConfig_reports`).

* `Run.Tells`: a run shows a line of markup, if the console refuses none of its tags.
* `Run.ReportsOn`: what a run says about the path, by what became of the file.
* `ofArguments_initConfig`: any path can be given, but for the mark that ends the options.
-/

namespace TypedText

open Markup (tags visible marks InOrder NoMarkup IsBody openBracket closeBracket)

/-! ## Printable paths -/

namespace Text

theorem mem_of_mem_splitOn {separator c : CodePoint} {t part : Text} (h : part ∈ splitOn separator t)
    (hc : c ∈ part) : c ∈ t := by
  induction t generalizing part with
  | nil =>
    obtain rfl := List.mem_singleton.mp h
    exact hc
  | cons d rest ih =>
    rw [splitOn] at h
    split at h
    · rcases List.mem_cons.mp h with rfl | h
      · cases hc
      · exact List.mem_cons_of_mem _ (ih h hc)
    · split at h
      · rename_i hnil
        obtain rfl := List.mem_singleton.mp h
        exact List.mem_cons.mpr ((List.mem_cons.mp hc).imp_right (by simp))
      · rename_i first parts hparts
        rw [hparts] at ih
        rcases List.mem_cons.mp h with rfl | h
        · rcases List.mem_cons.mp hc with rfl | hc
          · exact List.mem_cons_self
          · exact List.mem_cons_of_mem _ (ih List.mem_cons_self hc)
        · exact List.mem_cons_of_mem _ (ih (List.mem_cons_of_mem _ h) hc)

theorem mem_intercalate {separator : Text} {c : CodePoint} {parts : List Text}
    (h : c ∈ intercalate separator parts) : c ∈ separator ∨ ∃ part ∈ parts, c ∈ part := by
  induction parts with
  | nil => cases h
  | cons part rest ih =>
    cases rest with
    | nil => exact .inr ⟨part, List.mem_cons_self, h⟩
    | cons next rest =>
      have hjoin : intercalate separator (part :: next :: rest) =
          part ++ separator ++ intercalate separator (next :: rest) := rfl
      rw [hjoin] at h
      rcases List.mem_append.mp h with h | h
      · rcases List.mem_append.mp h with h | h
        · exact .inr ⟨part, List.mem_cons_self, h⟩
        · exact .inl h
      · rcases ih h with h | ⟨other, hother, h⟩
        · exact .inl h
        · exact .inr ⟨other, List.mem_cons_of_mem _ hother, h⟩

theorem le_of_isPrintable {c : CodePoint} (h : isPrintable c = true) : 0x20 ≤ c.val := by
  have hcontrols : Unicode.Run.disjoint Unicode.printable [⟨0, 0x1F, 1⟩] = true := by decide +kernel
  have hnone := Unicode.Run.mem_eq_false_of_disjoint hcontrols h
  simp only [Unicode.Run.mem, Unicode.Run.contains] at hnone
  simp at hnone
  omega

end Text

/-- A path is written in units of the text it was read from, slashes and points. -/
theorem Path.mem_text_ofText {t : Text} {c : CodePoint} (h : c ∈ (Path.ofText t).text) :
    c ∈ t ∨ c = slash ∨ c = 0x2E := by
  rw [Path.text] at h
  split at h
  · exact .inr (.inr (List.mem_singleton.mp h))
  · rcases List.mem_append.mp h with h | h
    · exact .inr (.inl (List.eq_of_mem_replicate h))
    · rcases Text.mem_intercalate h with h | ⟨name, hname, h⟩
      · exact .inr (.inl (List.mem_singleton.mp h))
      · exact .inl (Text.mem_of_mem_splitOn (List.mem_filter.mp hname).1 h)

namespace Screen

theorem expandTabs_eq_self {t : Text} (h : ∀ c ∈ t, 0x20 ≤ c.val) (column : Nat) :
    expandTabs column t = t := by
  induction t generalizing column with
  | nil => rfl
  | cons c rest ih =>
    obtain ⟨hc, hrest⟩ := List.forall_mem_cons.mp h
    rw [expandTabs, if_neg (by omega), if_neg (by omega), ih hrest]

theorem shown_eq_self {t : Text} (h : ∀ c ∈ t, 0x20 ≤ c.val) : shown t = t := by
  have hkept : t.filter (fun c => !isDropped c) = t := by
    refine List.filter_eq_self.mpr fun c hc => ?_
    have hlow := h c hc
    simp [isDropped]
    omega
  rw [shown, hkept, expandTabs_eq_self h]

end Screen

namespace CommandLine

variable {c : CommandSpec} {o : OptionSpec} {t v name given : Text} {p q : Parsed} {rest : List Text}
  {items : List (Text × Reading)} {console : Console} {r : Run}

/-! ## Giving a path -/

theorem takeAll_joined {key : String} (h : takeJoined c o key v p = .ok q) (fuel : Nat) :
    takeAll c (fuel + 1) p ((t, .option o key (some v)) :: items) = takeAll c fuel q items := by
  rw [takeAll, if_pos (by simp [isOption])]
  simp only [h]

/-- A path that is joined to its option does not matter to how the arguments after it are read. -/
theorem ofArguments_joined {request : Request} (h : given ≠ [hyphen, hyphen])
    (hread : readAll programSpec (name :: rest) = .ok items)
    (htake : takeAll programSpec (2 * items.length + 3) ⟨[("--config", some given)], none, []⟩ items =
      .ok ⟨[("--config", some given)], some (name :: rest), []⟩)
    (hrequest : Request.ofArguments name rest = .ok (request, [])) :
    Invocation.ofArguments ((Text.ofString "--config=" ++ given) :: name :: rest) =
      .ok ⟨some given, none, request⟩ := by
  have hoption : read programSpec (Text.ofString "--config=" ++ given) =
      .ok (.option (valued "--config") "--config" (some given)) := rfl
  have hset : takeJoined programSpec (valued "--config") "--config" given ⟨[], none, []⟩ =
      .ok ⟨[("--config", some given)], none, []⟩ := by
    have hvalue : takeJoined programSpec (valued "--config") "--config" given ⟨[], none, []⟩ =
        setValue programSpec (valued "--config") given ⟨[], none, []⟩ := rfl
    rw [hvalue, setValue, if_neg h]
    rfl
  have hparsed : Parsed.ofArguments programSpec ((Text.ofString "--config=" ++ given) :: name :: rest) =
      .ok ⟨[("--config", some given)], some (name :: rest), []⟩ := by
    rw [Parsed.ofArguments, readAll, hoption]
    simp only [hread, Except.map, List.length_cons, Nat.mul_add, takeAll_joined hset, htake]
    rfl
  rw [Invocation.ofArguments, hparsed]
  simp only [Option.getD_some, hrequest]
  rfl

/-- Arguments that ask for a configuration file at a path. -/
def initConfigArguments (given : Text) (force : Bool) : List Text :=
  (Text.ofString "--config=" ++ given) :: Text.ofString "init-config" ::
    if force then [Text.ofString "--force"] else []

theorem ofArguments_initConfig (h : given ≠ [hyphen, hyphen]) (force : Bool) :
    Invocation.ofArguments (initConfigArguments given force) =
      .ok ⟨some given, none, .initConfig force⟩ := by
  cases force with
  | false => exact ofArguments_joined h rfl rfl rfl
  | true => exact ofArguments_joined h rfl rfl rfl

theorem le_of_mem_configPath {c : CodePoint} (hprintable : ∀ c ∈ given, Text.isPrintable c = true)
    (h : c ∈ (configPath (some given)).text) : 0x20 ≤ c.val := by
  cases given with
  | nil =>
    have hdefault : ∀ c ∈ (configPath (some [])).text, 0x20 ≤ c.val := by decide +kernel
    exact hdefault c h
  | cons d rest =>
    rcases Path.mem_text_ofText h with hmem | rfl | rfl
    · exact Text.le_of_isPrintable (hprintable c hmem)
    · decide
    · decide

/-! ## The lines -/

/-- What is shown of a path that was written, and of one that was left as it was. -/
def writtenLine (path : Text) : Text :=
  Text.ofString "Configuration written to " ++ path

def keptLine (path : Text) : Text :=
  path ++ Text.ofString " already exists. Use --force to overwrite it."

/-- The tags before a path that was written, and those around one that was left as it was. -/
def afterGreen (bodies : List Text) : List Text :=
  Text.ofString "green" :: Text.ofString "/green" :: bodies

def inYellow (bodies : List Text) : List Text :=
  Text.ofString "yellow" :: bodies ++ [Text.ofString "/yellow"]

theorem isBody_of_tagBody? {body : Text}
    (h : Markup.tagBody? (body ++ [closeBracket]) = some (body, [])) : IsBody body :=
  (Markup.tagBody?_eq_some_iff.mp h).1

theorem reads_written (t : Text) :
    tags (markup "[green]Configuration written to[/green] " t "") = afterGreen (tags t) ∧
      visible (markup "[green]Configuration written to[/green] " t "") = writtenLine (visible t) := by
  have hwords : Text.ofString "[green]Configuration written to[/green] " =
      openBracket :: (Text.ofString "green" ++ closeBracket ::
        (Text.ofString "Configuration written to" ++
          openBracket :: (Text.ofString "/green" ++ [closeBracket, 0x20]))) := by decide +kernel
  have hform : markup "[green]Configuration written to[/green] " t "" =
      openBracket :: (Text.ofString "green" ++ closeBracket ::
        (Text.ofString "Configuration written to" ++
          openBracket :: (Text.ofString "/green" ++ closeBracket :: ([0x20] ++ t)))) := by
    have hempty : Text.ofString "" = [] := rfl
    rw [markup, hwords, hempty]
    simp
  have hopen : IsBody (Text.ofString "green") := isBody_of_tagBody? (by decide)
  have hclose : IsBody (Text.ofString "/green") := isBody_of_tagBody? (by decide)
  have hclear : Markup.Clear (Text.ofString "Configuration written to") := by decide
  have hspace : Markup.Clear [0x20] := by decide
  have hshown : Text.ofString "Configuration written to " =
      Text.ofString "Configuration written to" ++ [0x20] := by decide +kernel
  rw [hform]
  constructor
  · rw [Markup.tags_tag hopen, Markup.tags_clear hclear, Markup.tags_tag hclose, Markup.tags_clear hspace,
      afterGreen]
  · rw [Markup.visible_tag hopen, Markup.visible_clear hclear, Markup.visible_tag hclose,
      Markup.visible_clear hspace, writtenLine, hshown, List.append_assoc]

theorem reads_kept (t : Text) :
    tags (markup "[yellow]" t " already exists.[/yellow] Use --force to overwrite it.") =
        inYellow (tags t) ∧
      visible (markup "[yellow]" t " already exists.[/yellow] Use --force to overwrite it.") =
        keptLine (visible t) := by
  have hform : markup "[yellow]" t " already exists.[/yellow] Use --force to overwrite it." =
      openBracket :: (Text.ofString "yellow" ++ closeBracket ::
        (t ++ 0x20 :: Text.ofString "already exists.[/yellow] Use --force to overwrite it.")) := by
    rw [markup, List.append_assoc]
    rfl
  have hopen : IsBody (Text.ofString "yellow") := isBody_of_tagBody? (by decide)
  have hfirst : (0x20 :: Text.ofString "already exists.[/yellow] Use --force to overwrite it.").find?
      Markup.isBracket ≠ some closeBracket := by decide
  have htags : tags (0x20 :: Text.ofString "already exists.[/yellow] Use --force to overwrite it.") =
      [Text.ofString "/yellow"] := by decide +kernel
  have hvisible : visible
      (0x20 :: Text.ofString "already exists.[/yellow] Use --force to overwrite it.") =
        Text.ofString " already exists. Use --force to overwrite it." := by decide +kernel
  rw [hform]
  constructor
  · rw [Markup.tags_tag hopen, Markup.tags_append (by decide) (by decide) hfirst, htags, inYellow,
      List.cons_append]
  · rw [Markup.visible_tag hopen, Markup.visible_append (by decide) (by decide) hfirst, hvisible,
      keptLine]

/-! ## What a run says -/

/-- The run ends with the status and shows the line, if the console refuses no tag of its markup; otherwise
it shows nothing and ends over the markup. -/
structure Run.Tells (r : Run) (console : Console) (status : Nat) (bodies : List Text) (line : Text) :
    Prop where
  inOrder : InOrder console.matching bodies →
    r.ending = .exit status ∧ r.shown = console.wrap line ++ [0x0A]
  not_inOrder : ¬ InOrder console.matching bodies →
    r.shown = [] ∧ ∃ e, r.ending = .failed (.markup e)

/-- What a run says about a path, by what became of the file there, and what it leaves. -/
structure Run.ReportsOn (r : Run) (console : Console) (found : FileTree) (path : Path)
    (written : Config.Written) : Prop where
  /-- What has been written by then stays written, whatever becomes of the report. -/
  tree_eq : r.tree = written.tree
  wrote : written.outcome = .ok true →
    r.Tells console 0 (afterGreen (tags path.text)) (writtenLine (visible path.text)) ∧
    (console.Lawful →
      (r.ending = .exit 0 ∧ r.shown = writtenLine path.text ++ [0x0A] ↔
        NoMarkup path.text ∧ console.wrap (writtenLine path.text) = writtenLine path.text))
  kept : written.outcome = .ok false →
    r.tree = found ∧ r.Tells console 1 (inYellow (tags path.text)) (keptLine (visible path.text)) ∧
    (console.Lawful →
      (r.ending = .exit 1 ∧ path.text ++ Text.ofString " already exists." <+: r.shown ↔
        NoMarkup path.text ∧
          path.text ++ Text.ofString " already exists." <+:
            console.wrap (keptLine path.text) ++ [0x0A]))
  fails : ∀ e, written.outcome = .error e → r.shown = [] ∧ r.ending = .failed (.file e)

theorem tells_ofLines {line : Text} (h : ∀ c ∈ visible line, 0x20 ≤ c.val) (console : Console)
    (tree : FileTree) (status : Nat) :
    (Run.ofLines console tree (.exit status) [line]).Tells console status (tags line)
      (visible line) where
  inOrder horder := by
    simp [Run.ofLines, Screen.line, Markup.render_of_inOrder horder, Screen.shown_eq_self h]
  not_inOrder horder := by
    obtain ⟨e, he⟩ := Markup.exists_render_error horder
    simp [Run.ofLines, Screen.line, he]

theorem tree_ofLines (console : Console) (tree : FileTree) (ending : Ending) (lines : List Text) :
    (Run.ofLines console tree ending lines).tree = tree := by
  induction lines with
  | nil => rfl
  | cons line rest ih =>
    rw [Run.ofLines]
    cases Screen.line console line with
    | error e => rfl
    | ok t => exact ih

/-- A run that ends with its status has shown its line. -/
theorem Run.Tells.ending_iff {status : Nat} {bodies : List Text} {line : Text}
    (h : r.Tells console status bodies line) :
    r.ending = .exit status ↔ InOrder console.matching bodies := by
  refine ⟨fun hending => ?_, fun horder => (h.inOrder horder).1⟩
  by_contra horder
  obtain ⟨-, e, he⟩ := h.not_inOrder horder
  rw [he] at hending
  cases hending

theorem noMarkup_of_marks_le {t : Text} (h : marks t ≤ marks (visible t)) : NoMarkup t := by
  by_contra hmarkup
  exact absurd (Markup.marks_visible_lt hmarkup) (Nat.not_lt.mpr h)

/-- A line with a path in it comes out as it should if and only if the path holds no markup and the line is
not broken: otherwise there are fewer brackets and backslashes in it than the path has. -/
theorem Run.Tells.written_iff {path : Text} (hconsole : console.Lawful)
    (h : r.Tells console 0 (afterGreen (tags path)) (writtenLine (visible path))) :
    r.ending = .exit 0 ∧ r.shown = writtenLine path ++ [0x0A] ↔
      NoMarkup path ∧ console.wrap (writtenLine path) = writtenLine path := by
  constructor
  · rintro ⟨hending, hshown⟩
    rw [(h.inOrder (h.ending_iff.mp hending)).2, List.append_left_inj] at hshown
    have hmarks := congrArg marks hshown
    rw [hconsole.marks_wrap, writtenLine, writtenLine, Markup.marks_append, Markup.marks_append] at hmarks
    have hno : NoMarkup path := noMarkup_of_marks_le (by omega)
    rw [Markup.visible_eq_self hno] at hshown
    exact ⟨hno, hshown⟩
  · rintro ⟨hno, hwrap⟩
    have horder : InOrder console.matching (afterGreen (tags path)) := by
      rw [Markup.tags_eq_nil hno]
      have hname : Text.ofString "green" ≠ [] := by decide
      exact hconsole.inOrder_pair hname (by decide)
    obtain ⟨hending, hshown⟩ := h.inOrder horder
    rw [Markup.visible_eq_self hno, hwrap] at hshown
    exact ⟨hending, hshown⟩

theorem Run.Tells.kept_iff {path : Text} (hconsole : console.Lawful)
    (h : r.Tells console 1 (inYellow (tags path)) (keptLine (visible path))) :
    r.ending = .exit 1 ∧ path ++ Text.ofString " already exists." <+: r.shown ↔
      NoMarkup path ∧
        path ++ Text.ofString " already exists." <+: console.wrap (keptLine path) ++ [0x0A] := by
  constructor
  · rintro ⟨hending, hshown⟩
    rw [(h.inOrder (h.ending_iff.mp hending)).2] at hshown
    have hwords : marks (Text.ofString " already exists. Use --force to overwrite it.") = 0 := by decide
    have hend : marks [0x0A] = 0 := by decide
    obtain ⟨rest, hrest⟩ := hshown
    have hmarks := congrArg marks hrest
    simp only [Markup.marks_append, hconsole.marks_wrap, keptLine] at hmarks
    have hno : NoMarkup path := noMarkup_of_marks_le (by omega)
    rw [Markup.visible_eq_self hno] at hrest
    exact ⟨hno, rest, hrest⟩
  · rintro ⟨hno, hbegins⟩
    have horder : InOrder console.matching (inYellow (tags path)) := by
      rw [Markup.tags_eq_nil hno]
      have hname : Text.ofString "yellow" ≠ [] := by decide
      exact hconsole.inOrder_pair hname (by decide)
    obtain ⟨hending, hshown⟩ := h.inOrder horder
    rw [Markup.visible_eq_self hno] at hshown
    exact ⟨hending, hshown ▸ hbegins⟩

theorem tells_written {path : Text} (h : ∀ c ∈ path, 0x20 ≤ c.val) (console : Console)
    (tree : FileTree) :
    (Run.ofLines console tree (.exit 0)
      [markup "[green]Configuration written to[/green] " path ""]).Tells console 0
        (afterGreen (tags path)) (writtenLine (visible path)) := by
  have hline : ∀ c ∈ writtenLine (visible path), 0x20 ≤ c.val := by
    have hwords : ∀ c ∈ Text.ofString "Configuration written to ", 0x20 ≤ c.val := by decide
    exact fun c hc => (List.mem_append.mp hc).elim (hwords c)
      fun hc => h c ((Markup.visible_sublist path).subset hc)
  obtain ⟨htags, hvisible⟩ := reads_written path
  have htells := tells_ofLines (by rwa [hvisible]) console tree 0
  rwa [htags, hvisible] at htells

theorem tells_kept {path : Text} (h : ∀ c ∈ path, 0x20 ≤ c.val) (console : Console)
    (tree : FileTree) :
    (Run.ofLines console tree (.exit 1)
      [markup "[yellow]" path " already exists.[/yellow] Use --force to overwrite it."]).Tells console 1
        (inYellow (tags path)) (keptLine (visible path)) := by
  have hline : ∀ c ∈ keptLine (visible path), 0x20 ≤ c.val := by
    have hwords : ∀ c ∈ Text.ofString " already exists. Use --force to overwrite it.", 0x20 ≤ c.val := by
      decide
    exact fun c hc => (List.mem_append.mp hc).elim
      (fun hc => h c ((Markup.visible_sublist path).subset hc)) (hwords c)
  obtain ⟨htags, hvisible⟩ := reads_kept path
  have htells := tells_ofLines (by rwa [hvisible]) console tree 1
  rwa [htags, hvisible] at htells

/-! ## The whole run -/

theorem reportsOn_runInitConfig {path : Path} (h : ∀ c ∈ path.text, 0x20 ≤ c.val) (platform : Platform)
    (tree : FileTree) (force : Bool) :
    (runInitConfig platform tree path force).ReportsOn platform.console tree path
      (Config.writeDefaults platform.system tree path force) := by
  have hended : Config.WriteCall.Ended ⟨path, force, platform.system⟩ tree
      (Config.writeDefaults platform.system tree path force) := Config.ended_run _ tree
  cases houtcome : (Config.writeDefaults platform.system tree path force).outcome with
  | error e =>
    simp only [runInitConfig, houtcome]
    refine ⟨rfl, fun htrue => ?_, fun hfalse => ?_, fun e' herror => ?_⟩
    · cases houtcome.symm.trans htrue
    · cases houtcome.symm.trans hfalse
    · cases houtcome.symm.trans herror
      exact ⟨rfl, rfl⟩
  | ok wrote =>
    cases wrote with
    | true =>
      have htells := tells_written h platform.console
        (Config.writeDefaults platform.system tree path force).tree
      simp only [runInitConfig, houtcome]
      refine ⟨tree_ofLines _ _ _ _, fun _ => ⟨htells, fun hconsole => htells.written_iff hconsole⟩,
        fun hfalse => ?_, fun e herror => ?_⟩
      · cases houtcome.symm.trans hfalse
      · cases houtcome.symm.trans herror
    | false =>
      have htells := tells_kept h platform.console
        (Config.writeDefaults platform.system tree path force).tree
      simp only [runInitConfig, houtcome]
      refine ⟨tree_ofLines _ _ _ _, fun htrue => ?_,
        fun hfalse => ⟨?_, htells, fun hconsole => htells.kept_iff hconsole⟩, fun e herror => ?_⟩
      · cases houtcome.symm.trans htrue
      · rw [tree_ofLines, hended.same hfalse]
      · cases houtcome.symm.trans herror

/-- **What is said of the configuration file.** A printable path can be given whatever it is, but for the
mark that ends the options. However it is given, the file is written or left as it was first, and then a
line is shown with the path in it as markup: without its tags, or not at all where the console refuses one.
So the run says what it did, with the path as it is, if nothing in the path reads as markup and the console
does not break the line, and only then. -/
theorem initConfig_reports {given : Text} (hprintable : ∀ c ∈ given, Text.isPrintable c = true)
    (platform : Platform) (tree : FileTree) (force : Bool) :
    (given ≠ [hyphen, hyphen] → Invocation.ofArguments (initConfigArguments given force) =
      .ok ⟨some given, none, .initConfig force⟩) ∧
    ∀ arguments level,
      Invocation.ofArguments arguments = .ok ⟨some given, level, .initConfig force⟩ →
      (run platform tree arguments).ReportsOn platform.console tree (configPath (some given))
        (Config.writeDefaults platform.system tree (configPath (some given)) force) := by
  refine ⟨fun h => ofArguments_initConfig h force, fun arguments level hasked => ?_⟩
  have hrun : run platform tree arguments =
      runInitConfig platform tree (configPath (some given)) force := by
    simp only [run, hasked, runInvocation]
  rw [hrun]
  exact reportsOn_runInitConfig (fun c hc => le_of_mem_configPath hprintable hc) platform tree force

/-- A path with a bracket that begins no tag, and the tree with the file there. -/
def numberedText : Text :=
  Text.ofString "[1].yml"

def numberedTree : FileTree :=
  (Config.writeDefaults .willing (.empty []) (configPath (some numberedText)) false).tree

theorem initConfig_reports_numbered :
    (∀ c ∈ numberedText, Text.isPrintable c = true) ∧
    ((run .plain (.empty []) (initConfigArguments numberedText false)).ending = .exit 0 ∧
      (run .plain (.empty []) (initConfigArguments numberedText false)).shown =
        Text.ofString "Configuration written to [1].yml\n" ∧
      (run .plain (.empty []) (initConfigArguments numberedText false)).tree = numberedTree) ∧
    (run .plain numberedTree (initConfigArguments numberedText false)).ending = .exit 1 ∧
      (run .plain numberedTree (initConfigArguments numberedText false)).tree = numberedTree ∧
      Text.ofString "[1].yml already exists." <+:
        (run .plain numberedTree (initConfigArguments numberedText false)).shown := by
  have hprintable : ∀ c ∈ numberedText, Text.isPrintable c = true := by decide +kernel
  have hno : NoMarkup (configPath (some numberedText)).text :=
    Markup.visible_eq_self_iff.mp (by decide +kernel)
  obtain ⟨hgiven, hreports⟩ := initConfig_reports hprintable .plain (.empty []) false
  have hasked := hgiven (by decide)
  have hfirst := hreports _ none hasked
  obtain ⟨hexit, hshown⟩ :=
    ((hfirst.wrote (by decide +kernel)).2 Console.lawful_wide).mpr ⟨hno, rfl⟩
  have hsecond := (initConfig_reports hprintable .plain numberedTree false).2 _ none hasked
  obtain ⟨hsame, -, hiff⟩ := hsecond.kept (by decide +kernel)
  obtain ⟨hrefused, hprefix⟩ := (hiff Console.lawful_wide).mpr ⟨hno, by decide +kernel⟩
  exact ⟨hprintable, ⟨hexit, hshown, hfirst.tree_eq⟩, hrefused, hsame, hprefix⟩

/-- A tag in a path is not shown; after one that closes nothing the file is there, but nothing is said
of it. -/
theorem initConfig_reports_tag :
    ((Config.writeDefaults .willing (.empty []) (.ofText (Text.ofString "[b]x.yml")) false).outcome =
        .ok true ∧
      (run .plain (.empty []) (["--config", "[b]x.yml", "init-config"].map Text.ofString)).shown =
        Text.ofString "Configuration written to x.yml\n" ∧
      (run .plain (.empty []) (["--config", "[b]x.yml", "init-config"].map Text.ofString)).shown ≠
        Text.ofString "Configuration written to [b]x.yml\n") ∧
    (Config.writeDefaults .willing (.empty []) (.ofText (Text.ofString "x[/b].yml")) false).outcome =
      .ok true ∧
    (run .plain (.empty []) (["--config", "x[/b].yml", "init-config"].map Text.ofString)).ending =
      .failed (.markup (.unmatched (Text.ofString "[/b]") 41)) ∧
    System.willing.hasEntry
      (run .plain (.empty []) (["--config", "x[/b].yml", "init-config"].map Text.ofString)).tree
      (.ofText (Text.ofString "x[/b].yml")) = .ok true := by
  have hshown : (run .plain (.empty []) (["--config", "[b]x.yml", "init-config"].map Text.ofString)).shown =
      Text.ofString "Configuration written to x.yml\n" := by
    decide +kernel
  refine ⟨⟨by decide +kernel, hshown, ?_⟩, by decide +kernel, by decide +kernel, by decide +kernel⟩
  rw [hshown]
  decide +kernel

end CommandLine
end TypedText
