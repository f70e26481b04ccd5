import TypedText.CommandLine.Run
import TypedText.Proofs.Config.Loading
import TypedText.Proofs.Representation
import TypedText.Proofs.Separators

/-!
# TypedText.Proofs.CommandLine.Separators

The separators of a configuration, and the requests that take them from there. A configuration is
accepted with any text for its separators. They are the code points of that text, so there are none if
it holds an unpaired surrogate, and a request that takes them fails then, whatever its own text. In no
other case does such a request fail over a text that is not its own (`separators_accepted`).

* `Request.TakesSeparators`: the requests that take the separators of the configuration.
* `report_cases`, `Run.ending_ofLines`: how a run ends that shows what it found.
-/

namespace TypedText

theorem Separators.ofText_reportsUnpaired {t : Text} (h : ¬ t.Paired) :
    ReportsUnpaired (Separators.ofText t) := by
  obtain ⟨u, i, herr⟩ := Text.codePoints_reportsUnpaired h
  exact ⟨u, i, by rw [Separators.ofText, herr]⟩

namespace CommandLine

open Config (defaults key)

variable {platform : Platform} {tree : FileTree} {logger : Logger} {s : Settings} {t : Text}
  {cs : List CodePoint} {separators : Separators} {given locale : Option Text}
  {mode : Option CapitalizeMode} {i : Invocation} {config : Entries}

/-- The requests that take the separators of the configuration, and their texts. -/
inductive Request.TakesSeparators : Request → Text → Prop
  | analyze (t : Text) : TakesSeparators (.analyze t none) t
  | capitalize (t : Text) {mode : Option CapitalizeMode} (locale : Option Text) :
      mode.getD .eachWord = .eachWord → TakesSeparators (.capitalize t mode locale none) t

/-! ## How a run ends -/

/-- A run that shows lines ends as it should, unless a line is no markup. -/
theorem Run.ending_ofLines (console : Console) (tree : FileTree) (ending : Ending)
    (lines : List Text) :
    (Run.ofLines console tree ending lines).ending = ending ∨
      ∃ e, (Run.ofLines console tree ending lines).ending = .failed (.markup e) := by
  induction lines with
  | nil => exact .inl rfl
  | cons markup rest ih =>
    rw [Run.ofLines]
    cases Screen.line console markup with
    | error e => exact .inr ⟨e, rfl⟩
    | ok t => exact ih

theorem Run.ofLines_exit_ne_text (console : Console) (tree : FileTree) (status : Nat)
    (lines : List Text) (e : TextError) :
    (Run.ofLines console tree (.exit status) lines).ending ≠ .failed (.text e) := by
  rcases Run.ending_ofLines console tree (.exit status) lines with hend | ⟨e', hend⟩
  · rw [hend]; simp
  · rw [hend]; simp

/-- A report is complete unless one of the findings fails. -/
theorem report_cases (fs : List Finding) :
    (report fs).2 = .exit 0 ∨
      ∃ f ∈ fs, ∃ e, f.value = .error e ∧ (report fs).2 = .failed (.text e) := by
  induction fs with
  | nil => exact .inl rfl
  | cons f rest ih =>
    rw [report]
    cases hvalue : f.value with
    | error e => exact .inr ⟨f, List.mem_cons_self, e, hvalue, rfl⟩
    | ok t =>
      rcases ih with hexit | ⟨g, hg, e, hfails, hending⟩
      · exact .inl hexit
      · exact .inr ⟨g, List.mem_cons_of_mem _ hg, e, hfails, hending⟩

/-- All that there is to say about a text without unpaired surrogates can be said. -/
theorem findings_encoded (h : Encodes t cs) :
    ∀ f ∈ findings t separators, ∃ line, f.value = .ok line := by
  obtain ⟨capitalization, hcapitalization⟩ := Capitalization.classify_complete .unicode cs
  have hcapitalization := (Text.capitalization_encoded h).trans hcapitalization
  simp [findings, Text.codePointCount_encoded h, hcapitalization, Text.lettersAllUpper_encoded h,
    Text.lettersAllLower_encoded h, Text.eachWordCapitalized_encoded h, Text.looksLikeUrl_encoded h,
    Text.insideQuoteOrAfterDigit_encoded h, Except.map]

theorem runAnalyze_of_paired (hseparators : chosenSeparators s given = .ok separators)
    (h : t.Paired) (e : TextError) :
    (runAnalyze platform tree logger s t given).ending ≠ .failed (.text e) := by
  obtain ⟨cs, hcs⟩ := Text.paired_iff_encodes.mp h
  have hreport : (report (findings t separators)).2 = .exit 0 := by
    rcases report_cases (findings t separators) with hexit | ⟨f, hf, e, herr, -⟩
    · exact hexit
    · obtain ⟨line, hline⟩ := findings_encoded hcs f hf
      rw [herr] at hline
      cases hline
  simp only [runAnalyze, hseparators, hreport]
  exact Run.ofLines_exit_ne_text _ _ 0 _ e

theorem runCapitalize_of_paired (hmode : mode.getD .eachWord = .eachWord)
    (hseparators : chosenSeparators s given = .ok separators) (h : t.Paired) (e : TextError) :
    (runCapitalize platform tree logger s t mode locale given).ending ≠ .failed (.text e) := by
  obtain ⟨cs, hcs⟩ := Text.paired_iff_encodes.mp h
  have hanswer : ∀ l : Locale, ∃ r, capitalized s t mode l given = .ok r := by
    intro l
    simp only [capitalized, hmode, hseparators, Text.capitalizeEachWord]
    exact ⟨_, Text.run_planEachWord hcs⟩
  obtain ⟨r, hr⟩ := hanswer (some (givenOr s.locale locale))
  simp only [runCapitalize, hr]
  exact Run.ofLines_exit_ne_text _ _ 0 _ e

/-! ## Requests that take the separators of the configuration -/

theorem openLog_ne_text {level : Option Text} {e : TextError} :
    openLog platform.system tree s level ≠ .error (.text e) := by
  simp only [openLog]
  split
  · simp
  · split
    · split
      · simp
      · split <;> simp
    · simp

/-- Neither loading the configuration nor opening the log is what fails over a text. -/
theorem runConfigured_ne_text {request : FileTree → Logger → Settings → Run} {e : TextError}
    (hload : (Config.load platform.loader platform.system tree (configPath i.config)).outcome = .ok config)
    (hs : Settings.ofEntries? config = some s)
    (hrequest : ∀ tree logger, (request tree logger s).ending ≠ .failed (.text e)) :
    (runConfigured platform tree i request).ending ≠ .failed (.text e) := by
  simp only [runConfigured, hload, hs]
  split
  · rename_i failure hlog
    rintro ⟨⟩
    exact openLog_ne_text hlog
  · exact hrequest _ _

theorem runInvocation_of_separators
    (hload : (Config.load platform.loader platform.system tree (configPath i.config)).outcome = .ok config)
    (hs : Settings.ofEntries? config = some s) (hrequest : i.request.TakesSeparators t)
    (hseparators : s.separators = .ok separators) (h : t.Paired) (e : TextError) :
    (runInvocation platform tree i).ending ≠ .failed (.text e) := by
  have hchosen : chosenSeparators s none = .ok separators := hseparators
  obtain ⟨path, level, request⟩ := i
  cases hrequest with
  | analyze =>
    exact runConfigured_ne_text hload hs fun _ _ => runAnalyze_of_paired hchosen h e
  | capitalize _ locale hmode =>
    exact runConfigured_ne_text hload hs fun _ _ => runCapitalize_of_paired hmode hchosen h e

theorem runInvocation_of_no_separators {e : TextError} {opened : FileTree × Logger}
    (hload : (Config.load platform.loader platform.system tree (configPath i.config)).outcome = .ok config)
    (hs : Settings.ofEntries? config = some s) (hrequest : i.request.TakesSeparators t)
    (hseparators : s.separators = .error e) (hlog : openLog platform.system tree s i.logLevel = .ok opened) :
    (runInvocation platform tree i).ending = .failed (.text e) := by
  obtain ⟨path, level, request⟩ := i
  cases hrequest with
  | analyze =>
    simp only [runInvocation, runConfigured, hload, hs, hlog, runAnalyze, chosenSeparators,
      hseparators]
    rfl
  | capitalize _ locale hmode =>
    simp only [runInvocation, runConfigured, hload, hs, hlog, runCapitalize, capitalized, hmode,
      chosenSeparators, hseparators]
    rfl

/-- **The separators of a configuration that is accepted** are the code points of a text that it has,
unless that text holds an unpaired surrogate. A request that takes them fails over them in that case,
and in any other fails over no text but its own. -/
theorem separators_accepted (config : Entries) :
    (∀ path entries, Config.validate path entries = .ok config →
      ∃ s, Settings.ofEntries? config = some s ∧
        Config.getText? config "capitalization" "word_separators" = some s.wordSeparators ∧
        (s.wordSeparators.Paired → ∃ cs ns, s.wordSeparators.codePoints = .ok cs ∧
          s.separators = .ok ns ∧ ns.Lists cs) ∧
        (¬ s.wordSeparators.Paired → ReportsUnpaired s.separators)) ∧
    ∀ (platform : Platform) tree i t,
      (Config.load platform.loader platform.system tree (configPath i.config)).outcome = .ok config →
      i.request.TakesSeparators t →
      ∃ s, Settings.ofEntries? config = some s ∧
        (s.wordSeparators.Paired → t.Paired →
          ∀ e, (runInvocation platform tree i).ending ≠ .failed (.text e)) ∧
        (¬ s.wordSeparators.Paired →
          ∀ opened, openLog platform.system tree s i.logLevel = .ok opened →
          ∃ u n, (runInvocation platform tree i).ending = .failed (.text (.unpaired u n))) := by
  have hseparators : ∀ s : Settings, s.wordSeparators.Paired → ∃ cs ns,
      s.wordSeparators.codePoints = .ok cs ∧ s.separators = .ok ns ∧ ns.Lists cs := by
    intro s h
    obtain ⟨cs, hcs⟩ := Text.paired_iff_encodes.mp h
    exact ⟨cs, _, Text.codePoints_eq_ok_iff.mpr hcs, Separators.ofText_encoded hcs,
      Separators.lists_ofCodePoints cs⟩
  refine ⟨fun path entries hvalid => ?_, fun platform tree i t hload hrequest => ?_⟩
  · obtain ⟨hvalid, rfl⟩ := Config.validate_eq_ok_iff.mp hvalid
    obtain ⟨s, hs, htext⟩ := Config.ofEntries?_of_conforms hvalid.conforms
    exact ⟨s, hs, htext, hseparators s, Separators.ofText_reportsUnpaired⟩
  · obtain ⟨s, hs, -⟩ := Config.ofEntries?_of_conforms (Config.valid_of_load hload).conforms
    refine ⟨s, hs, fun hpaired ht => ?_, fun hunpaired opened hlog => ?_⟩
    · obtain ⟨cs, ns, -, hns, -⟩ := hseparators s hpaired
      exact runInvocation_of_separators hload hs hrequest hns ht
    · obtain ⟨u, n, herr⟩ := Separators.ofText_reportsUnpaired hunpaired
      exact ⟨u, n, runInvocation_of_no_separators hload hs hrequest herr hlog⟩

theorem separators_accepted_defaults :
    (Config.validate Config.defaultPath defaults = .ok defaults ∧
      ∃ s cs ns, Settings.ofEntries? defaults = some s ∧ s.wordSeparators.codePoints = .ok cs ∧
        s.separators = .ok ns ∧ ns.Lists cs) ∧
    ∀ e, (runInvocation .plain (.empty []) ⟨none, none, .analyze [0x61] none⟩).ending ≠
      .failed (.text e) := by
  have hvalid : Config.validate Config.defaultPath defaults = .ok defaults :=
    Config.validate_eq_ok_iff.mpr ⟨Config.defaults_valid, rfl⟩
  have hspace : ∀ s, Settings.ofEntries? defaults = some s → s.wordSeparators.Paired := by
    rintro s ⟨⟩
    decide
  refine ⟨⟨hvalid, ?_⟩, ?_⟩
  · obtain ⟨s, hs, -, hlists, -⟩ := (separators_accepted defaults).1 _ _ hvalid
    obtain ⟨cs, ns, hcs, hns, h⟩ := hlists (hspace s hs)
    exact ⟨s, cs, ns, hs, hcs, hns, h⟩
  · obtain ⟨s, hs, hpaired, -⟩ :=
      (separators_accepted defaults).2 .plain (.empty []) ⟨none, none, .analyze [0x61] none⟩ [0x61] rfl
        (.analyze _)
    exact hpaired (hspace s hs) (by decide)

/-- Separators that are half of a pair. -/
def halfEntries : Entries :=
  Config.withDefaults
    [(key "capitalization", .map [(key "word_separators", .text [0xD800])])]

def halfTree : FileTree where
  home := []
  entries :=
    [([Text.ofString "half.yml"],
      .file ((Text.ofString "capitalization:\n  word_separators: \"\\ud800\"\n").flatMap
        Utf8.encodeUnit))]

def halfPath : Path :=
  .ofText (Text.ofString "half.yml")

/-- They are accepted, and the request that takes them fails. -/
theorem separators_accepted_half :
    Config.validate halfPath halfEntries = .ok halfEntries ∧
    (Config.load .core .willing halfTree halfPath).outcome = .ok halfEntries ∧
    (∃ s, Settings.ofEntries? halfEntries = some s ∧ s.separators = .error (.unpaired 0xD800 0)) ∧
    (run .plain halfTree (["--config", "half.yml", "capitalize", "abc", "--mode", "each-word"].map
      Text.ofString)).ending = .failed (.text (.unpaired 0xD800 0)) := by
  have hvalid : Config.validate halfPath halfEntries = .ok halfEntries :=
    eq_ok_of_toOption (by decide +kernel)
  have hload : (Config.load .core .willing halfTree halfPath).outcome = .ok halfEntries :=
    eq_ok_of_toOption (by decide +kernel)
  exact ⟨hvalid, hload, ⟨_, rfl, rfl⟩, by decide +kernel⟩

end CommandLine
end TypedText
