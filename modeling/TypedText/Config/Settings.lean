import TypedText.Log
import TypedText.Path
import TypedText.Separators
import TypedText.Unicode.Spaces
import TypedText.Value.Merge
import TypedText.Value.Schema

/-!
# TypedText.Config.Settings

The configuration: its defaults, the file they are written to, what a configuration must look like,
and the settings that the program takes from one.

* `Config.defaults`, `Config.template`: the defaults, and the commented file that holds them.
* `Config.problems`: everything that is wrong with a configuration.
* `Settings.ofEntries?`: the settings of a configuration that has them all.
-/

namespace TypedText
namespace Config

def key (s : String) : Scalar :=
  .text (Text.ofString s)

def textValue (s : String) : Value :=
  .text (Text.ofString s)

def defaultFormat : String :=
  "%(asctime)s - %(name)s - %(levelname)s - %(message)s"

def defaults : Entries :=
  [(key "locale", .map [(key "default", textValue "en")]),
   (key "capitalization", .map [(key "word_separators", textValue " ")]),
   (key "logging", .map
     [(key "level", textValue "WARNING"),
      (key "format", textValue defaultFormat),
      (key "file_enabled", .bool false),
      (key "file_path", textValue "ime_text.log")])]

/-- Where the configuration is unless another place is given. -/
def defaultPath : Path :=
  .ofText (Text.ofString "ime_text_config.yml")

def templateLines : List String :=
  ["# IME Text Utilities Configuration",
   "# ================================",
   "# Command-line arguments override these settings.",
   "",
   "# Locale settings",
   "# ---------------",
   "locale:",
   "  # Locale tag used for case mapping (e.g. en, en_US, tr-TR, de)",
   "  default: en",
   "",
   "# Capitalization settings",
   "# -----------------------",
   "capitalization:",
   "  # Every character in this string starts a new word for",
   "  # \"capitalize each word\" (order and repetitions don't matter)",
   "  word_separators: \" \"",
   "",
   "# Logging settings",
   "# ----------------",
   "logging:",
   "  # Log level: DEBUG, INFO, WARNING, ERROR, CRITICAL",
   "  level: WARNING",
   "  # Log format",
   "  format: \"" ++ defaultFormat ++ "\"",
   "  # Also log to a file",
   "  file_enabled: false",
   "  file_path: ime_text.log"]

def template : Text :=
  templateLines.flatMap fun line => Text.ofString line ++ [0x0A]

def schema : List (Text × Schema) :=
  let t := Text.ofString
  [(t "locale", .sections [(t "default", .leaf .text)]),
   (t "capitalization", .sections [(t "word_separators", .leaf .text)]),
   (t "logging", .sections
     [(t "level", .leaf .text),
      (t "format", .leaf .text),
      (t "file_enabled", .leaf .bool),
      (t "file_path", .leaf .text)])]

/-- A user's configuration with everything that it leaves out. -/
def withDefaults (user : Entries) : Entries :=
  Entries.over defaults user

inductive Problem
  | schema (fault : SchemaFault)
  | unknownLevel (level : Text)
  | blankLocale
  deriving DecidableEq, Repr

def levelNames : String :=
  ", ".intercalate (LogLevel.all.map LogLevel.name)

namespace Problem

def message : Problem → Text
  | schema fault => fault.message
  | unknownLevel level =>
    let names := levelNames
    Text.ofString "Invalid value for logging.level: " ++ level ++
      Text.ofString s!" (expected one of {names})"
  | blankLocale => Text.ofString "Invalid value for locale.default: must not be empty"

end Problem

def get? (entries : Entries) (sectionKey valueKey : String) : Option Value :=
  match entries.get? (Text.ofString sectionKey) with
  | some (.map values) => Entries.get? values (Text.ofString valueKey)
  | _ => none

def getText? (entries : Entries) (sectionKey valueKey : String) : Option Text :=
  match get? entries sectionKey valueKey with
  | some (.scalar (.text t)) => some t
  | _ => none

def getBool? (entries : Entries) (sectionKey valueKey : String) : Option Bool :=
  match get? entries sectionKey valueKey with
  | some (.scalar (.bool b)) => some b
  | _ => none

def isBlankLocale (t : Text) : Bool :=
  t.all fun c => Unicode.Run.mem c.val Unicode.blanks

/-- The two values that a schema cannot check. -/
def valueProblems (entries : Entries) : List Problem :=
  let level := (getText? entries "logging" "level").getD []
  let locale := (getText? entries "locale" "default").getD []
  (if (LogLevel.ofName? level.upperRoot).isNone then [.unknownLevel level] else []) ++
    if isBlankLocale locale then [.blankLocale] else []

/-- What is wrong with a configuration. Values are looked at only if all have the right kind. -/
def problems (entries : Entries) : List Problem :=
  match Schema.faults [] entries schema with
  | [] => valueProblems entries
  | faults => faults.map .schema

end Config

/-- What the program takes from a configuration. -/
structure Settings where
  locale : Text
  wordSeparators : Text
  logLevel : Text
  logFormat : Text
  logToFile : Bool
  logFile : Text
  deriving DecidableEq, Repr

namespace Settings

def ofEntries? (entries : Entries) : Option Settings := do
  let locale ← Config.getText? entries "locale" "default"
  let wordSeparators ← Config.getText? entries "capitalization" "word_separators"
  let logLevel ← Config.getText? entries "logging" "level"
  let logFormat ← Config.getText? entries "logging" "format"
  let logToFile ← Config.getBool? entries "logging" "file_enabled"
  let logFile ← Config.getText? entries "logging" "file_path"
  pure ⟨locale, wordSeparators, logLevel, logFormat, logToFile, logFile⟩

def separators (s : Settings) : Except TextError Separators :=
  Separators.ofText s.wordSeparators

end Settings
end TypedText
