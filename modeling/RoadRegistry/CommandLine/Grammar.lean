namespace RoadRegistry.CommandLine

inductive Refusal where
  | help
  | version
  | nothingGiven
  | missingCommand
  | unknownCommand
  | unknownArgument
  | missingValue
  | unwantedValue
  | repeated
  | rejectedValue
  deriving DecidableEq, Repr

/-- Help and the version are no errors when they were asked for. -/
def Refusal.exitCode : Refusal → UInt8
  | .help | .version => 0
  | _ => 2

inductive OptionKind where
  | help
  | version
  | flag
  | value (check : String → Option Refusal)

structure OptionSpec where
  name : String
  short : Option Char := none
  kind : OptionKind

structure CommandSpec where
  name : String
  options : List OptionSpec
  commands : List CommandSpec := []

namespace OptionSpec

def help : OptionSpec := { name := "help", short := some 'h', kind := .help }

def version : OptionSpec := { name := "version", short := some 'V', kind := .version }

def flag (name : String) : OptionSpec := { name, kind := .flag }

def text (name : String) (short : Option Char) : OptionSpec :=
  { name, short, kind := .value fun _ => none }

def path (name : String) (short : Option Char) : OptionSpec :=
  { name, short, kind := .value fun value => if value.isEmpty then some .missingValue else none }

def choice (name : String) (read : String → Option α) : OptionSpec :=
  { name, kind := .value fun value => if (read value).isSome then none else some .rejectedValue }

end OptionSpec

namespace CommandSpec

def long? (spec : CommandSpec) (name : String) : Option OptionSpec :=
  spec.options.find? fun option => option.name = name

def short? (spec : CommandSpec) (c : Char) : Option OptionSpec :=
  spec.options.find? fun option => option.short = some c

def command? (spec : CommandSpec) (name : String) : Option CommandSpec :=
  spec.commands.find? fun command => command.name = name

def hasHelpCommand (spec : CommandSpec) : Bool := !spec.commands.isEmpty

end CommandSpec

end RoadRegistry.CommandLine
