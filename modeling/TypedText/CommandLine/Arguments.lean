import TypedText.Text.Quoted
import TypedText.Unicode.Run
import TypedText.Unicode.Spaces

/-!
# TypedText.CommandLine.Arguments

Reading the arguments of a command by what it takes: options, which start with a hyphen and may have a
value, and one positional argument or a subcommand that takes the rest. The beginning of a long option
is enough if no other option begins like it, a value may follow an equals sign, everything after `--`
is positional, and so are negative numbers and what has a space in it.

* `CommandSpec`, `OptionSpec`: what a command takes. Only long options take values.
* `Parsed.ofArguments`: what was given, what was left over, or why the command cannot be run.
-/

namespace TypedText
namespace CommandLine

/-- An option by all its names, shortest first, with what its value must be if it takes one. -/
structure OptionSpec where
  names : List String
  takesValue : Bool
  /-- Brings the value into the form in which the choices are given. -/
  normalise : Text → Text
  choices : List String

inductive Positional
  | none
  | one (name : String)
  /-- The name of a subcommand, and all arguments after it. -/
  | subcommand (name : String) (choices : List String)

structure CommandSpec where
  program : String
  options : List OptionSpec
  positional : Positional

inductive Refusal
  /-- Help was asked for instead. -/
  | help
  | usage (program : String) (message : Text)

/-- What was given: options by their last name, the last one first, with their values if they have
any; the positional arguments; and arguments that the command does not know. -/
structure Parsed where
  values : List (String × Option Text)
  positional : Option (List Text)
  unknown : List Text

namespace OptionSpec

def key (o : OptionSpec) : String :=
  o.names.getLastD ""

def title (o : OptionSpec) : String :=
  "/".intercalate o.names

end OptionSpec

def helpOption : OptionSpec where
  names := ["-h", "--help"]
  takesValue := false
  normalise := id
  choices := []

def flag (name : String) : OptionSpec where
  names := [name]
  takesValue := false
  normalise := id
  choices := []

def valued (name : String) : OptionSpec where
  names := [name]
  takesValue := true
  normalise := id
  choices := []

def quotedChoices (choices : List String) : Text :=
  Text.intercalate (Text.ofString ", ") (choices.map fun c => (Text.ofString c).quoted)

def invalidChoice (value : Text) (choices : List String) : Text :=
  Text.ofString "invalid choice: " ++ value.quoted ++ Text.ofString " (choose from " ++
    quotedChoices choices ++ Text.ofString ")"

/-- How one argument reads before it is known what it belongs to. -/
inductive Reading
  | plain
  /-- The mark after which all arguments are positional. -/
  | terminator
  /-- An option with its name as completed, and what the same argument joins to it. -/
  | option (o : OptionSpec) (name : String) (joined? : Option Text)
  | unknownOption

namespace CommandSpec

def refuse (c : CommandSpec) (message : Text) : Refusal :=
  .usage c.program message

def refuseOption (c : CommandSpec) (o : OptionSpec) (message : Text) : Refusal :=
  c.refuse (Text.ofString "argument " ++ Text.ofString o.title ++ Text.ofString ": " ++ message)

def names (c : CommandSpec) : List (String × OptionSpec) :=
  c.options.flatMap fun o => o.names.map fun n => (n, o)

def find? (c : CommandSpec) (name : Text) : Option (String × OptionSpec) :=
  c.names.find? fun (n, _) => Text.ofString n == name

end CommandSpec

def hyphen : CodePoint := 0x2D

def isHyphen (c : CodePoint) : Bool :=
  c == hyphen

def beforeEquals (t : Text) : Text :=
  t.takeWhile (·.val ≠ 0x3D)

def afterEquals? (t : Text) : Option Text :=
  match t.dropWhile (·.val ≠ 0x3D) with
  | [] => none
  | _ :: rest => some rest

/-- A decimal digit of any script. -/
def isDigit (c : CodePoint) : Bool :=
  Unicode.Run.mem c.val Unicode.decimalDigits

def withoutLineEnd (t : Text) : Text :=
  if t.getLast?.any (·.val == 0x0A) then t.dropLast else t

/-- A hyphen, then digits, perhaps with a point before the last ones; a line may end there. -/
def isNegativeNumber (t : Text) : Bool :=
  match withoutLineEnd t with
  | c :: rest =>
    isHyphen c &&
      match rest.dropWhile isDigit with
      | [] => !rest.isEmpty
      | d :: fraction => d.val == 0x2E && !fraction.isEmpty && fraction.all isDigit
  | [] => false

def candidates (c : CommandSpec) (t : Text) : List (String × OptionSpec × Option Text) :=
  match t with
  | _ :: d :: rest =>
    if isHyphen d then
      let start := beforeEquals t
      (c.names.filter fun (n, _) => start.isPrefixOf (Text.ofString n)).map fun (n, o) =>
        (n, o, afterEquals? t)
    else
      c.names.filterMap fun (n, o) =>
        if Text.ofString n = t.take 2 then some (n, o, some rest)
        else if t.isPrefixOf (Text.ofString n) then some (n, o, none)
        else none
  | _ => []

def read (c : CommandSpec) (t : Text) : Except Refusal Reading :=
  match t with
  | [] => .ok .plain
  | u :: rest =>
    if !isHyphen u then .ok .plain
    else if rest = [hyphen] then .ok .terminator
    else
      match c.find? t with
      | some (n, o) => .ok (.option o n none)
      | none =>
        if rest.isEmpty then .ok .plain
        else
          match afterEquals? t, c.find? (beforeEquals t) with
          | some v, some (n, o) => .ok (.option o n (some v))
          | _, _ =>
            match candidates c t with
            | [(n, o, joined?)] => .ok (.option o n joined?)
            | [] =>
              if isNegativeNumber t || t.any (·.val = 0x20) then .ok .plain else .ok .unknownOption
            | many =>
              .error (c.refuse (Text.ofString "ambiguous option: " ++ t ++
                Text.ofString " could match " ++
                Text.intercalate (Text.ofString ", ")
                  (many.map fun (n, _, _) => Text.ofString n)))

def readAll (c : CommandSpec) : List Text → Except Refusal (List (Text × Reading))
  | [] => .ok []
  | t :: rest =>
    match read c t with
    | .error e => .error e
    | .ok .terminator => .ok ((t, .terminator) :: rest.map fun t => (t, .plain))
    | .ok r => (readAll c rest).map fun rs => (t, r) :: rs

/-- Records a value, if it is one of the choices. The mark after which all arguments are positional
is no value: an option that is joined to it has been given, but without one. -/
def setValue (c : CommandSpec) (o : OptionSpec) (v : Text) (p : Parsed) : Except Refusal Parsed :=
  if v = [hyphen, hyphen] then .ok { p with values := (o.key, none) :: p.values }
  else
    let v := o.normalise v
    if o.choices.isEmpty || o.choices.any fun choice => Text.ofString choice == v then
      .ok { p with values := (o.key, some v) :: p.values }
    else .error (c.refuseOption o (invalidChoice v o.choices))

def setFlag (o : OptionSpec) (p : Parsed) : Except Refusal Parsed :=
  if o.key = helpOption.key then .error .help
  else .ok { p with values := (o.key, none) :: p.values }

def ignoredValue (c : CommandSpec) (o : OptionSpec) (v : Text) : Refusal :=
  c.refuseOption o (Text.ofString "ignored explicit argument " ++ v.quoted)

/-- Short options run together in one argument: `o` and those whose letters are joined to it. A
letter that is no option's makes all that is left from it on a value, which `o` does not take. -/
def cluster (c : CommandSpec) (o : OptionSpec) : Text → Except Refusal (List OptionSpec)
  | [] => .ok [o]
  | u :: rest =>
    match c.find? [hyphen, u] with
    | none => .error (ignoredValue c o (u :: rest))
    | some (_, next) => (cluster c next rest).map (o :: ·)

def setFlags (p : Parsed) : List OptionSpec → Except Refusal Parsed
  | [] => .ok p
  | o :: rest =>
    match setFlag o p with
    | .error e => .error e
    | .ok p => setFlags p rest

def takeJoined (c : CommandSpec) (o : OptionSpec) (name : String) (joined : Text) (p : Parsed) :
    Except Refusal Parsed :=
  if o.takesValue then setValue c o joined p
  else if name.length = 2 && !joined.isEmpty then
    match cluster c o joined with
    | .error e => .error e
    | .ok flags => setFlags p flags
  else .error (ignoredValue c o joined)

/-- An option and what follows it: the next argument is its value, if it takes one. -/
def takeOption (c : CommandSpec) (o : OptionSpec) (rest : List (Text × Reading)) (p : Parsed) :
    Except Refusal (Parsed × List (Text × Reading)) :=
  if o.takesValue then
    match rest with
    | (v, .plain) :: rest => (setValue c o v p).map fun p => (p, rest)
    | _ => .error (c.refuseOption o (Text.ofString "expected one argument"))
  else (setFlag o p).map fun p => (p, rest)

def isOption : Text × Reading → Bool
  | (_, .option _ _ _) => true
  | (_, .unknownOption) => true
  | _ => false

/-- Whether a positional argument starts here: `--` may stand before it. -/
def startsPositional : List (Text × Reading) → Bool
  | (_, .plain) :: _ => true
  | (_, .terminator) :: (_, .plain) :: _ => true
  | _ => false

def takePositional (c : CommandSpec) (p : Parsed) (items : List (Text × Reading)) :
    Parsed × List (Text × Reading) :=
  if p.positional.isSome || !startsPositional items then (p, items)
  else
    match c.positional with
    | .none => (p, items)
    | .subcommand _ _ => ({ p with positional := some (items.map (·.1)) }, [])
    | .one _ =>
      match items with
      | (v, .plain) :: (_, .terminator) :: rest => ({ p with positional := some [v] }, rest)
      | (v, .plain) :: rest => ({ p with positional := some [v] }, rest)
      | _ :: (v, _) :: rest => ({ p with positional := some [v] }, rest)
      | rest => (p, rest)

/-- Options and positional arguments in turn, as long as options are left. Every step takes an
argument, so their number bounds the number of steps. -/
def takeAll (c : CommandSpec) : Nat → Parsed → List (Text × Reading) → Except Refusal Parsed
  | 0, p, _ => .ok p
  | fuel + 1, p, items =>
    if items.any isOption then
      match items with
      | (_, .option o name (some joined)) :: rest =>
        match takeJoined c o name joined p with
        | .error e => .error e
        | .ok p => takeAll c fuel p rest
      | (_, .option o _ none) :: rest =>
        match takeOption c o rest p with
        | .error e => .error e
        | .ok (p, rest) => takeAll c fuel p rest
      | (t, .unknownOption) :: rest =>
        takeAll c fuel { p with unknown := p.unknown ++ [t] } rest
      | items =>
        match takePositional c p items with
        | (p, rest) =>
          if rest.length < items.length then takeAll c fuel p rest
          else
            takeAll c fuel
              { p with unknown := p.unknown ++ (items.takeWhile (!isOption ·)).map (·.1) }
              (items.dropWhile (!isOption ·))
    else
      match takePositional c p items with
      | (p, rest) => .ok { p with unknown := p.unknown ++ rest.map (·.1) }

def missing? (c : CommandSpec) (p : Parsed) : Option String :=
  match c.positional, p.positional with
  | .one name, none => some name
  | .subcommand name _, none => some name
  | _, _ => none

def Parsed.ofArguments (c : CommandSpec) (arguments : List Text) : Except Refusal Parsed :=
  match readAll c arguments with
  | .error e => .error e
  | .ok items =>
    match takeAll c (2 * items.length + 2) ⟨[], none, []⟩ items with
    | .error e => .error e
    | .ok p =>
      match missing? c p with
      | some name =>
        .error (c.refuse (Text.ofString "the following arguments are required: " ++
          Text.ofString name))
      | none => .ok p

/-- Whether an option was given, and what with: the last time counts. -/
def Parsed.given? (p : Parsed) (key : String) : Option (Option Text) :=
  p.values.lookup key

def Parsed.has (p : Parsed) (key : String) : Bool :=
  (p.given? key).isSome

def Parsed.value? (p : Parsed) (key : String) : Option Text :=
  (p.given? key).join

def Parsed.valueOrEmpty? (p : Parsed) (key : String) : Option Text :=
  (p.given? key).map (·.getD [])

end CommandLine
end TypedText
