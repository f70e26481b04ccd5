import TypedText.Config.Settings
import TypedText.System
import TypedText.Yaml.Loader

/-!
# TypedText.Config.File

The configuration file: reading it, and writing the defaults for a start.

* `Config.readYaml`: the mapping that a YAML file holds.
* `Config.load`: the configuration of a file, with the defaults for what it leaves out. A file that is
  not there is no fault.
* `Config.writeDefaults`: writes the template, over an existing file only if told to.

The loader of YAML and the system are any; the template is written in place, so where the system breaks
off there may be less in the file than there was.
-/

namespace TypedText
namespace Config

inductive LoadFault
  /-- An error of the file system that is passed on as it came. -/
  | raised (path : Path) (e : FileError)
  /-- The file is no UTF-8. -/
  | undecodable (e : Utf8.DecodeError)
  /-- A value in the file has the form of some kind of value, but there is no such value. -/
  | noSuchValue (reason : Text)
  | breakdown (b : Yaml.Breakdown)
  | fileMissing (path : Path)
  | malformed (path : Path)
  | unreadable (path : Path) (e : FileError)
  | noMapping (path : Path) (got : String)
  | invalid (path : Path) (problems : List Problem)
  deriving DecidableEq, Repr

namespace LoadFault

/-- Whether the error is one for wrong values, as callers expect. -/
def isReported : LoadFault → Bool
  | raised _ e => !e.isSystem
  | breakdown _ => false
  | _ => true

/-- The operating system names the path with its errors. -/
def wording (path : Path) (e : FileError) : Text :=
  Text.ofString e.message ++ if e.isSystem then Text.ofString ": " ++ path.text.quoted else []

/-- What a YAML reader would say is wrong with a malformed file is not part of the message. -/
def message : LoadFault → Text
  | raised path e => wording path e
  | undecodable e => Text.ofString e.message
  | noSuchValue reason => reason
  | breakdown b => b.message
  | fileMissing path => Text.ofString "YAML file not found: " ++ path.text
  | malformed path => Text.ofString "Error parsing YAML file " ++ path.text
  | unreadable path e =>
    Text.ofString "Error reading YAML file " ++ path.text ++ Text.ofString ": " ++ wording path e
  | noMapping path got =>
    Text.ofString "YAML file " ++ path.text ++
      Text.ofString s!" must contain a mapping at the root level, got {got}"
  | invalid path problems =>
    Text.ofString "Invalid configuration in " ++ path.text ++ Text.ofString ":\n  " ++
      Text.intercalate (Text.ofString "\n  ") (problems.map Problem.message)

end LoadFault

variable (loader : Yaml.Loader) (system : System)

def parse (path : Path) (content : List UInt8) : Except LoadFault Entries :=
  match loader (Utf8.stream content) with
  | .error .malformed => .error (.malformed path)
  | .error (.undecodable e) => .error (.undecodable e)
  | .error (.noSuchValue reason) => .error (.noSuchValue reason)
  | .error (.breakdown b) => .error (.breakdown b)
  | .ok (.map entries) => .ok entries
  | .ok (.scalar .null) => .ok []
  | .ok v => .error (.noMapping path v.kind)

def readYaml (tree : FileTree) (path : Path) : Except LoadFault Entries :=
  match system.hasEntry tree path with
  | .error e => .error (.raised path e)
  | .ok false => .error (.fileMissing path)
  | .ok true =>
    match system.read tree path with
    | .ok content => parse loader path content
    | .error e => if e.isSystem then .error (.unreadable path e) else .error (.raised path e)

def validate (path : Path) (entries : Entries) : Except LoadFault Entries :=
  match problems entries with
  | [] => .ok entries
  | ps => .error (.invalid path ps)

/-- A configuration or why there is none, and what was logged on the way. -/
structure Loaded where
  outcome : Except LoadFault Entries
  log : List LogEntry

def info (message : Text) : LogEntry := ⟨.info, message⟩

def warning (message : Text) : LogEntry := ⟨.warning, message⟩

def debug (message : Text) : LogEntry := ⟨.debug, message⟩

def about (path : Path) (before after : String) : Text :=
  Text.ofString before ++ path.text ++ Text.ofString after

def load (tree : FileTree) (path : Path) : Loaded :=
  match system.hasEntry tree path with
  | .error e => ⟨.error (.raised path e), []⟩
  | .ok false =>
    ⟨.ok defaults, [info (about path "Configuration file " " not found. Using defaults.")]⟩
  | .ok true =>
    match readYaml loader system tree path with
    | .error e => ⟨.error e, []⟩
    | .ok user =>
      let log :=
        if user.isEmpty then
          [warning (about path "Configuration file " " is empty. Using defaults.")]
        else []
      match validate path (withDefaults user) with
      | .error e => ⟨.error e, log⟩
      | .ok entries => ⟨.ok entries, log ++ [debug (about path "Loaded configuration from " "")]⟩

def templateBytes : List UInt8 :=
  template.flatMap Utf8.encodeUnit

structure Written where
  outcome : Except FileError Bool
  tree : FileTree
  log : List LogEntry

def writeDefaults (tree : FileTree) (path : Path) (force : Bool) : Written :=
  match system.hasEntry tree path with
  | .error e => ⟨.error e, tree, []⟩
  | .ok found =>
    if found && !force then
      ⟨.ok false, tree,
        [warning (about path "Configuration file " " already exists. Not overwriting.")]⟩
    else
      match system.makeDirectories tree path.parent with
      | (tree, some e) => ⟨.error e, tree, []⟩
      | (tree, none) =>
        match system.writeFile tree path templateBytes with
        | (tree, some e) => ⟨.error e, tree, []⟩
        | (tree, none) =>
          ⟨.ok true, tree, [info (about path "Default configuration file written to " "")]⟩

end Config
end TypedText
