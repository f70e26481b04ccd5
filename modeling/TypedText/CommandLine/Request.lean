import TypedText.CommandLine.Arguments
import TypedText.Log

/-!
# TypedText.CommandLine.Request

What the program is asked to do: to analyze a text, to capitalize one, or to write a configuration
file to start from.

* `Invocation`: a request with the options that go with all of them.
* `Invocation.ofArguments`: the invocation that arguments stand for.
-/

namespace TypedText
namespace CommandLine

inductive CapitalizeMode
  | first
  | firstLowerRest
  | eachWord
  deriving DecidableEq, Repr

namespace CapitalizeMode

def name : CapitalizeMode → String
  | first => "first"
  | firstLowerRest => "first-lower-rest"
  | eachWord => "each-word"

def all : List CapitalizeMode :=
  [first, firstLowerRest, eachWord]

def ofName? (t : Text) : Option CapitalizeMode :=
  all.find? fun m => Text.ofString m.name == t

/-- How a log line names a choice of mode, which is an empty list if the mode has no name. -/
def title (m : Option CapitalizeMode) : String :=
  match m with
  | some m => m.name
  | none => "[]"

end CapitalizeMode

inductive Request
  | analyze (text : Text) (separators : Option Text)
  /-- Without a mode, each word is capitalized. -/
  | capitalize (text : Text) (mode : Option CapitalizeMode) (locale separators : Option Text)
  | initConfig (force : Bool)
  deriving DecidableEq, Repr

structure Invocation where
  config : Option Text
  logLevel : Option Text
  request : Request
  deriving DecidableEq, Repr

def programName : String := "ime-text"

def subcommands : List String := ["analyze", "capitalize", "init-config"]

/-- A level may be given in any case. -/
def logLevelOption : OptionSpec where
  names := ["--log-level"]
  takesValue := true
  normalise := Text.upperRoot
  choices := LogLevel.all.map LogLevel.name

def modeOption : OptionSpec where
  names := ["--mode"]
  takesValue := true
  normalise := id
  choices := CapitalizeMode.all.map CapitalizeMode.name

def programSpec : CommandSpec where
  program := programName
  options := [helpOption, valued "--config", logLevelOption]
  positional := .subcommand "command" subcommands

def analyzeSpec : CommandSpec where
  program := programName ++ " analyze"
  options := [helpOption, valued "--separators"]
  positional := .one "text"

def capitalizeSpec : CommandSpec where
  program := programName ++ " capitalize"
  options := [helpOption, modeOption, valued "--locale", valued "--separators"]
  positional := .one "text"

def initConfigSpec : CommandSpec where
  program := programName ++ " init-config"
  options := [helpOption, flag "--force"]
  positional := .none

/-- The mode asked for: the first one if the option is not given, none if it is given no value. -/
def Parsed.mode (p : Parsed) : Option CapitalizeMode :=
  match p.given? "--mode" with
  | none => some .first
  | some value? => value?.bind CapitalizeMode.ofName?

def Parsed.text (p : Parsed) : Text :=
  (p.positional.getD []).headD []

/-- The request of a subcommand, and arguments that it does not know. -/
def Request.ofArguments (name : Text) (arguments : List Text) :
    Except Refusal (Request × List Text) :=
  match name.toString? with
  | some "analyze" =>
    match Parsed.ofArguments analyzeSpec arguments with
    | .error e => .error e
    | .ok p => .ok (.analyze p.text (p.valueOrEmpty? "--separators"), p.unknown)
  | some "capitalize" =>
    match Parsed.ofArguments capitalizeSpec arguments with
    | .error e => .error e
    | .ok p =>
      .ok (.capitalize p.text p.mode (p.value? "--locale") (p.valueOrEmpty? "--separators"),
        p.unknown)
  | some "init-config" =>
    match Parsed.ofArguments initConfigSpec arguments with
    | .error e => .error e
    | .ok p => .ok (.initConfig (p.has "--force"), p.unknown)
  | _ =>
    .error (programSpec.refuse (Text.ofString "argument command: " ++
      invalidChoice name subcommands))

/-- Arguments that neither the program nor its subcommand knows are refused last. -/
def Invocation.ofArguments (arguments : List Text) : Except Refusal Invocation :=
  match Parsed.ofArguments programSpec arguments with
  | .error e => .error e
  | .ok p =>
    match p.positional.getD [] with
    | [] => .error (programSpec.refuse [])
    | name :: rest =>
      match Request.ofArguments name rest with
      | .error e => .error e
      | .ok (request, unknown) =>
        match p.unknown ++ unknown with
        | [] => .ok ⟨p.value? "--config", p.value? "--log-level", request⟩
        | unknown =>
          .error (programSpec.refuse (Text.ofString "unrecognized arguments: " ++
            Text.intercalate [0x20] unknown))

def usageLine (program : String) (message : Text) : Text :=
  Text.ofString program ++ Text.ofString ": error: " ++ message

end CommandLine
end TypedText
