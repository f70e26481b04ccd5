import TypedText.Capitalization
import TypedText.Capitalize
import TypedText.CommandLine.Request
import TypedText.Config.File
import TypedText.Console.Screen
import TypedText.TrailingContext

/-!
# TypedText.CommandLine.Run

Carrying out an invocation on a file tree. What has been shown before a fault stays shown, and what
has been written stays written.

* `Platform`: what a run relies on and the library does not define.
* `Run`: the tree, what was shown, and how it ended.
* `run`: the run of a command line.
-/

namespace TypedText
namespace CommandLine

structure Platform where
  loader : Yaml.Loader
  system : System
  console : Console

/-- The loader of the core tags, a system that refuses nothing, and a console on which every line fits. -/
def Platform.plain : Platform where
  loader := .core
  system := .willing
  console := .wide

/-- A fault that ends a run without an exit status of its own. -/
inductive Failure
  | text (e : TextError)
  | markup (e : MarkupError)
  | file (e : FileError)
  /-- Loading the configuration file ended in an error that is not expected there. -/
  | breakdown (b : Yaml.Breakdown)
  /-- The template for log lines holds no field. -/
  | logFormat (template : Text)
  deriving DecidableEq, Repr

def Failure.message : Failure → Text
  | .text e => Text.ofString e.message
  | .markup e => e.message
  | .file e => Text.ofString e.message
  | .breakdown b => b.message
  | .logFormat template => Log.noTemplate template

def Failure.ofLoad? : Config.LoadFault → Option Failure
  | .raised _ e => if e.isSystem then some (.file e) else none
  | .breakdown b => some (.breakdown b)
  | _ => none

inductive Ending
  | exit (status : Nat)
  /-- The arguments were refused: the last line of what was said about it. -/
  | usage (line : Text)
  | failed (e : Failure)
  deriving DecidableEq, Repr

structure Run where
  tree : FileTree
  shown : Text
  ending : Ending

namespace Run

/-- The lines of markup, one after the other, up to the first that is no markup; then the ending. -/
def ofLines (console : Console) (tree : FileTree) (ending : Ending) : List Text → Run
  | [] => ⟨tree, [], ending⟩
  | markup :: rest =>
    match Screen.line console markup with
    | .error e => ⟨tree, [], .failed (.markup e)⟩
    | .ok t =>
      let r := ofLines console tree ending rest
      { r with shown := t ++ r.shown }

def failed (tree : FileTree) (e : Failure) : Run :=
  ⟨tree, [], .failed e⟩

end Run

/-! ## Set-up -/

/-- The text given for an option; an empty one counts as none, for which `other` stands. -/
def givenOr (other : Text) : Option Text → Text
  | none => other
  | some [] => other
  | some t => t

def configPath (config : Option Text) : Path :=
  match config with
  | none => Config.defaultPath
  | some [] => Config.defaultPath
  | some t => .ofText t

def markup (before : String) (t : Text) (after : String) : Text :=
  Text.ofString before ++ t ++ Text.ofString after

def configurationProblem (e : Config.LoadFault) : List Text :=
  [markup "[red]Configuration error:[/red] " (Markup.escape e.message) "",
   Text.ofString "Please fix the configuration file or delete it to use defaults."]

/-- Where log lines go: how they are written, from which level on, and the file if there is one. -/
structure Logger where
  level : Nat
  template : Text
  file : Option Path

/-- The file for log lines, with `..` carried out on the names. -/
def logPath (tree : FileTree) (t : Text) : Path where
  slashes := 1
  names := (Path.ofText t).lexical tree.home

/-- Opens the log. A file that cannot be opened is done without, unless it cannot be named. -/
def openLog (system : System) (tree : FileTree) (s : Settings) (level : Option Text) :
    Except Failure (FileTree × Logger) :=
  let template := Log.orDefault s.logFormat
  let logger : Logger := ⟨Log.levelNumber (givenOr s.logLevel level), template, none⟩
  if !Log.isTemplate template then .error (.logFormat template)
  else if s.logToFile then
    let path := logPath tree s.logFile
    match system.openFile tree path id with
    | .ok tree => .ok (tree, { logger with file := some path })
    | .error e => if e.isSystem then .ok (tree, logger) else .error (.file e)
  else .ok (tree, logger)

/-- Appends the line for a message. A line that cannot be written is done without. -/
def Logger.debug (l : Logger) (system : System) (tree : FileTree) (message : Text) : FileTree :=
  if l.level ≤ LogLevel.debug.number then
    match l.file, Log.line? l.template ⟨.debug, Log.root ++ ".cli", message⟩ with
    | some path, some line =>
      match Utf8.encode? (line ++ [0x0A]) with
      | some bytes => (system.appendFile tree path bytes).1
      | none => tree
    | _, _ => tree
  else tree

/-! ## Requests -/

def chosenSeparators (s : Settings) (given : Option Text) : Except TextError Separators :=
  match given with
  | some t => Separators.ofText t
  | none => s.separators

def yesNo (b : Bool) : Text :=
  Text.ofString (if b then "[green]yes[/green]" else "[red]no[/red]")

def showSeparators (ns : Separators) : Text :=
  let numbers := ", ".intercalate (ns.map toString)
  Text.ofString s!"[{numbers}]"

/-- One line of an analysis: its label, and what stands after it unless that fails. -/
structure Finding where
  label : String
  value : Except TextError Text

def findings (t : Text) (separators : Separators) : List Finding :=
  [⟨"[bold]Text:[/bold] ", .ok (Markup.quote t)⟩,
   ⟨"Code points: ", t.codePointCount.map fun n => Text.ofString (toString n)⟩,
   ⟨"Capitalization: ", t.capitalization.map fun c => markup "[cyan]" (Text.ofString c.name) "[/cyan]"⟩,
   ⟨"Identical after upcase: ", t.lettersAllUpper.map yesNo⟩,
   ⟨"Identical after downcase: ", t.lettersAllLower.map yesNo⟩,
   ⟨"Identical after capitalize each word: ", (t.eachWordCapitalized separators).map yesNo⟩,
   ⟨"Looks like URL: ", t.looksLikeUrl.map yesNo⟩,
   ⟨"Inside double quote or after digit: ", t.insideQuoteOrAfterDigit.map yesNo⟩]

/-- The lines of findings up to the first that fails, and how the run ends with them. -/
def report : List Finding → List Text × Ending
  | [] => ([], .exit 0)
  | f :: rest =>
    match f.value with
    | .error e => ([], .failed (.text e))
    | .ok t =>
      match report rest with
      | (lines, ending) => (markup f.label t "" :: lines, ending)

def runAnalyze (platform : Platform) (tree : FileTree) (logger : Logger) (s : Settings) (t : Text)
    (given : Option Text) : Run :=
  match chosenSeparators s given with
  | .error e => .failed tree (.text e)
  | .ok separators =>
    let message :=
      Text.ofString "Analyzing " ++ t.quoted ++ Text.ofString " with separators " ++
        showSeparators separators
    let tree := logger.debug platform.system tree message
    match report (findings t separators) with
    | (lines, ending) => .ofLines platform.console tree ending lines

def capitalized (s : Settings) (t : Text) (mode : Option CapitalizeMode) (locale : Locale)
    (given : Option Text) : Except TextError Text :=
  match mode.getD .eachWord with
  | .first => t.capitalizeFirst locale
  | .firstLowerRest => t.capitalizeFirstLowerRest locale
  | .eachWord =>
    match chosenSeparators s given with
    | .error e => .error e
    | .ok separators => t.capitalizeEachWord separators locale

def runCapitalize (platform : Platform) (tree : FileTree) (logger : Logger) (s : Settings) (t : Text)
    (mode : Option CapitalizeMode) (locale given : Option Text) : Run :=
  let locale := givenOr s.locale locale
  let message :=
    Text.ofString "Capitalizing " ++ t.quoted ++ Text.ofString " in mode " ++
      Text.ofString (CapitalizeMode.title mode) ++ Text.ofString " for locale " ++ locale
  let tree := logger.debug platform.system tree message
  match capitalized s t mode (some locale) given with
  | .error e => .failed tree (.text e)
  | .ok t => .ofLines platform.console tree (.exit 0) [Markup.quote t]

/-- The path is shown as it is, so brackets in it may read as markup. -/
def runInitConfig (platform : Platform) (tree : FileTree) (path : Path) (force : Bool) : Run :=
  let w := Config.writeDefaults platform.system tree path force
  match w.outcome with
  | .error e => .failed w.tree (.file e)
  | .ok true =>
    .ofLines platform.console w.tree (.exit 0)
      [markup "[green]Configuration written to[/green] " path.text ""]
  | .ok false =>
    .ofLines platform.console w.tree (.exit 1)
      [markup "[yellow]" path.text " already exists.[/yellow] Use --force to overwrite it."]

/-- A request that needs the configuration. A configuration that loads has all settings. -/
def runConfigured (platform : Platform) (tree : FileTree) (i : Invocation)
    (request : FileTree → Logger → Settings → Run) : Run :=
  match (Config.load platform.loader platform.system tree (configPath i.config)).outcome with
  | .error e =>
    match Failure.ofLoad? e with
    | some failure => .failed tree failure
    | none => .ofLines platform.console tree (.exit 1) (configurationProblem e)
  | .ok entries =>
    match Settings.ofEntries? entries with
    | none => ⟨tree, [], .exit 1⟩
    | some s =>
      match openLog platform.system tree s i.logLevel with
      | .error e => .failed tree e
      | .ok (tree, logger) => request tree logger s

def runInvocation (platform : Platform) (tree : FileTree) (i : Invocation) : Run :=
  match i.request with
  | .initConfig force => runInitConfig platform tree (configPath i.config) force
  | .analyze t given =>
    runConfigured platform tree i fun tree logger s => runAnalyze platform tree logger s t given
  | .capitalize t mode locale given =>
    runConfigured platform tree i fun tree logger s =>
      runCapitalize platform tree logger s t mode locale given

def lastLine (t : Text) : Text :=
  (t.splitOn 0x0A).getLastD []

def run (platform : Platform) (tree : FileTree) (arguments : List Text) : Run :=
  match Invocation.ofArguments arguments with
  | .ok i => runInvocation platform tree i
  | .error .help => ⟨tree, [], .exit 0⟩
  | .error (.usage program message) => ⟨tree, [], .usage (lastLine (usageLine program message))⟩

end CommandLine
end TypedText
