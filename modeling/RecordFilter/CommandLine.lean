import RecordFilter.Request

/-!
# Command line

The arguments of the program are read from left to right. Before the name of a command only the
options of the program itself may stand, after it those of the command and one positional
argument if the command takes one. A long option may carry its value after `=`, short ones may be
written together, and after `--` every argument is positional. The first argument that does not
fit decides: the command line is then misused.
-/

namespace RecordFilter.CommandLine

/-- What the program can be told to do. -/
inductive Command where
  | check (filter : String) (readOnly : Bool) (policy : Policy)
  | group (filter : String) (allowed : List String) (pretty : Bool) (policy : Policy)
  | stringify (input : Option String) (outer inner : Connective)
  | overview
  | manual (topic : String)
  deriving DecidableEq, Repr

/-- What a command line asks for. -/
inductive Invocation where
  | command (c : Command)
  | version
  | help
  /-- The arguments fit no command. -/
  | misuse
  deriving DecidableEq, Repr

/-- The meaning of an option. -/
inductive OptionName where
  | verbose
  | help
  | version
  | readOnly
  | lenient
  | allowed
  | pretty
  | input
  | outer
  | inner
  deriving DecidableEq, Repr

/-- How often an option may be given, and whether a value follows it. -/
inductive OptionUse where
  /-- No value, any number of times. -/
  | counted
  /-- No value, at most once. -/
  | flag
  /-- No value, and nothing after it counts. -/
  | final
  /-- A value, at most once. -/
  | value
  /-- A value, any number of times. -/
  | values
  deriving DecidableEq, Repr

/-- An option as it may be written. -/
structure OptionSpec where
  name : OptionName
  use : OptionUse
  short : Option Char
  long : String

def OptionUse.takesValue : OptionUse → Bool
  | .value | .values => true
  | _ => false

def OptionUse.once : OptionUse → Bool
  | .flag | .value => true
  | _ => false

/-- Options that may stand anywhere. -/
def commonOptions : List OptionSpec :=
  [⟨.verbose, .counted, some 'v', "verbose"⟩, ⟨.help, .final, some 'h', "help"⟩]

def programOptions : List OptionSpec :=
  ⟨.version, .final, some 'V', "version"⟩ :: commonOptions

inductive CommandName where
  | check
  | group
  | stringify
  | docs
  | doc
  deriving DecidableEq, Repr

namespace CommandName

def ofWord? : String → Option CommandName
  | "check" => some .check
  | "group" => some .group
  | "stringify" => some .stringify
  | "docs" => some .docs
  | "doc" => some .doc
  | _ => none

/-- The command takes one positional argument; the others take none. -/
def takesArgument : CommandName → Bool
  | .check | .group | .doc => true
  | .stringify | .docs => false

def options : CommandName → List OptionSpec
  | .check =>
    [⟨.readOnly, .flag, none, "syntax-only"⟩, ⟨.lenient, .flag, none, "lenient"⟩] ++ commonOptions
  | .group =>
    [⟨.allowed, .values, some 'k', "keys"⟩, ⟨.pretty, .flag, some 'p', "pretty"⟩,
      ⟨.lenient, .flag, none, "lenient"⟩] ++ commonOptions
  | .stringify =>
    [⟨.input, .value, some 'i', "input"⟩, ⟨.outer, .value, none, "operator"⟩,
      ⟨.inner, .value, none, "sub-operator"⟩] ++ commonOptions
  | .docs | .doc => commonOptions

end CommandName

/-- An option that was given, with its value if it takes one. -/
structure Given where
  name : OptionName
  value : String
  deriving DecidableEq, Repr

/-- What was read of the arguments. -/
structure Arguments where
  given : List Given
  positional : List String
  deriving DecidableEq, Repr

/-- Why reading arguments ends early. -/
inductive Stop where
  | help
  | version
  | misuse
  deriving DecidableEq, Repr

namespace Arguments

def empty : Arguments :=
  ⟨[], []⟩

def has (a : Arguments) (name : OptionName) : Bool :=
  a.given.any (·.name == name)

def values (a : Arguments) (name : OptionName) : List String :=
  (a.given.filter (·.name == name)).map Given.value

/-- The value of an option given at most once. -/
def value? (a : Arguments) (name : OptionName) : Option String :=
  (a.values name).head?

end Arguments

/-- A connective that can join groups. -/
def readConnective? (word : String) : Option Connective :=
  match Connective.ofWord? word with
  | some .not => none
  | other => other

def acceptsValue (name : OptionName) (value : String) : Bool :=
  match name with
  | .outer | .inner => (readConnective? value).isSome
  | _ => true

def give (spec : OptionSpec) (value : String) (a : Arguments) : Except Stop Arguments :=
  match spec.name with
  | .help => .error .help
  | .version => .error .version
  | name =>
    if spec.use.once && a.has name then .error .misuse
    else if acceptsValue name value then .ok { a with given := a.given ++ [⟨name, value⟩] }
    else .error .misuse

/-- The text up to the first `=`, and the text after it if there is one. -/
def splitAtEquals (s : List Char) : List Char × Option (List Char) :=
  match s.dropWhile (· != '=') with
  | [] => (s, none)
  | _ :: value => (s.takeWhile (· != '='), some value)

/-- An option whose value is the next argument. -/
structure Pending where
  spec : OptionSpec
  arguments : Arguments

/-- Reads a long option, without its dashes. -/
def readLong (specs : List OptionSpec) (s : List Char) (a : Arguments) :
    Except Stop (Arguments ⊕ Pending) :=
  let (long, attached) := splitAtEquals s
  match specs.find? (·.long == String.ofList long) with
  | none => .error .misuse
  | some spec =>
    match spec.use.takesValue, attached with
    | true, some value => (give spec (String.ofList value) a).map .inl
    | true, none => .ok (.inr ⟨spec, a⟩)
    | false, some _ => .error .misuse
    | false, none => (give spec "" a).map .inl

/-- Reads short options written together, without their dash. What stands after one that takes a
value is its value. -/
def readShort (specs : List OptionSpec) : List Char → Arguments →
    Except Stop (Arguments ⊕ Pending)
  | [], a => .ok (.inl a)
  | c :: rest, a =>
    match specs.find? (·.short == some c) with
    | none => .error .misuse
    | some spec =>
      if spec.use.takesValue then
        match rest with
        | [] => .ok (.inr ⟨spec, a⟩)
        | '=' :: value => (give spec (String.ofList value) a).map .inl
        | value => (give spec (String.ofList value) a).map .inl
      else
        match give spec "" a with
        | .ok a => readShort specs rest a
        | .error stop => .error stop

/-- Reads an argument as options; `none` if it is no option but a lone dash or does not start
with one. -/
def readOptions? (specs : List OptionSpec) (argument : String) (a : Arguments) :
    Option (Except Stop (Arguments ⊕ Pending)) :=
  match argument.toList with
  | '-' :: '-' :: s => some (readLong specs s a)
  | '-' :: c :: s => some (readShort specs (c :: s) a)
  | _ => none

/-- Takes note of positional arguments; `limit` of them are allowed. -/
def givePositional (limit : Nat) (arguments : List String) (a : Arguments) :
    Except Stop Arguments :=
  if a.positional.length + arguments.length ≤ limit then
    .ok { a with positional := a.positional ++ arguments }
  else .error .misuse

/-- Reads the arguments of a command with at most `limit` positional ones. -/
def readArguments (specs : List OptionSpec) (limit : Nat) : List String → Arguments →
    Except Stop Arguments
  | [], a => .ok a
  | argument :: rest, a =>
    if argument = "--" then givePositional limit rest a
    else
      match readOptions? specs argument a with
      | none => do
        let a ← givePositional limit [argument] a
        readArguments specs limit rest a
      | some (.error stop) => .error stop
      | some (.ok (.inl a)) => readArguments specs limit rest a
      | some (.ok (.inr pending)) =>
        match rest with
        | [] => .error .misuse
        | value :: rest =>
          if value.toList.head? = some '-' ∧ value ≠ "-" then .error .misuse
          else do
            let a ← give pending.spec value pending.arguments
            readArguments specs limit rest a

def Arguments.policy (a : Arguments) : Policy :=
  if a.has .lenient then .lenient else .strict

/-- The fields that the options allow: every value is a list with commas between its fields. -/
def Arguments.allowed (a : Arguments) : List String :=
  (a.values .allowed).flatMap fun value => value.splitOn ","

def Arguments.connective (a : Arguments) (name : OptionName) (standard : Connective) : Connective :=
  ((a.value? name).bind readConnective?).getD standard

/-- The command with its arguments; `none` if its positional argument is missing. -/
def makeCommand? (name : CommandName) (a : Arguments) : Option Command :=
  match name, a.positional with
  | .check, [filter] => some (.check filter (a.has .readOnly) a.policy)
  | .group, [filter] => some (.group filter a.allowed (a.has .pretty) a.policy)
  | .stringify, [] =>
    some (.stringify (a.value? .input) (a.connective .outer .and) (a.connective .inner .or))
  | .docs, [] => some .overview
  | .doc, [topic] => some (.manual topic)
  | _, _ => none

def Stop.invocation : Stop → Invocation
  | .help => .help
  | .version => .version
  | .misuse => .misuse

def readCommand (name : CommandName) (arguments : List String) : Invocation :=
  match readArguments name.options (if name.takesArgument then 1 else 0) arguments .empty with
  | .error stop => stop.invocation
  | .ok a =>
    match makeCommand? name a with
    | some c => .command c
    | none => .misuse

def readHelp : List String → Invocation
  | [] => .help
  | [word] => if word = "help" ∨ (CommandName.ofWord? word).isSome then .help else .misuse
  | _ => .misuse

def Invocation.ofArguments : List String → Invocation
  | [] => .misuse
  | argument :: rest =>
    match CommandName.ofWord? argument with
    | some name => readCommand name rest
    | none =>
      if argument = "help" then readHelp rest
      else
        match readOptions? programOptions argument .empty with
        | some (.ok _) => Invocation.ofArguments rest
        | some (.error stop) => stop.invocation
        | none => .misuse

/-- What running a command line comes to. -/
inductive Outcome where
  /-- The text is printed. -/
  | printed (text : String)
  | failed (failure : RequestFailure)
  | helped
  | misused

def Outcome.exitCode : Outcome → Nat
  | .printed _ | .helped => 0
  | .failed _ => 1
  | .misused => 2

def versionText : String := "sieve 0.1.0\n"

def line (text : String) : String :=
  text ++ "\n"

/-- Runs a command. `input` is what stands on the standard input, if anything is piped there. -/
def Command.run (input : Option String) : Command → Except RequestFailure String
  | .check filter readOnly policy => do
    match ← checkFilter policy readOnly filter with
    | .valid => return line "Syntax is valid"
    | .canonical text => return line text
  | .group filter allowed pretty policy => do
    let value ← groupFilter policy allowed filter
    return line (if pretty then value.prettyText else value.text)
  | .stringify given outer inner => do
    let text ← filterOfGroups outer inner (given <|> input)
    return line text
  | .overview => return Manual.overview
  | .manual topic => do
    let topic ← openManual topic
    return topic.text

def Invocation.run (input : Option String) : Invocation → Outcome
  | .command c =>
    match c.run input with
    | .ok text => .printed text
    | .error failure => .failed failure
  | .version => .printed versionText
  | .help => .helped
  | .misuse => .misused

/-- The command line needs the standard input. -/
def Invocation.readsInput : Invocation → Bool
  | .command (.stringify none _ _) => true
  | _ => false

end RecordFilter.CommandLine
