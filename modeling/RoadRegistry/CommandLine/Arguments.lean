import RoadRegistry.CommandLine.Parser
import RoadRegistry.Config.Basic

namespace RoadRegistry.CommandLine

inductive Command where
  | start (mode : Option LogMode) (bootstrapServers : Option String) (passive : Bool)
  | inspect (road : Option String) (json : Bool)
  | validateConfig
  | showConfig (format : String)
  | generateConfig (output : Option String) (environment : String)
  deriving DecidableEq, Repr

structure Arguments where
  config : Option String
  logLevel : Option String
  command : Command
  deriving DecidableEq, Repr

namespace Arguments

def shared : List OptionSpec := [.text "config" (some 'c'), .text "log-level" none, .help]

def startSpec : CommandSpec where
  name := "start"
  options :=
    [.choice "mode" LogMode.ofName?, .text "bootstrap-servers" none, .flag "passive"] ++ shared

def inspectSpec : CommandSpec where
  name := "inspect"
  options := [.text "road" none, .flag "json"] ++ shared

def validateSpec : CommandSpec where
  name := "validate"
  options := shared

def showSpec : CommandSpec where
  name := "show"
  options := [.text "format" none] ++ shared

def generateSpec : CommandSpec where
  name := "generate"
  options := [.path "output" (some 'o'), .text "env" none] ++ shared

def configSpec : CommandSpec where
  name := "config"
  options := shared
  commands := [validateSpec, showSpec, generateSpec]

def spec : CommandSpec where
  name := "registry"
  options := shared ++ [.version]
  commands := [startSpec, configSpec, inspectSpec]

def value? (name : String) (given : Given) : Option String :=
  (given.find? fun option => option.1 = name).bind (·.2)

def isGiven (name : String) (given : Given) : Bool := given.any fun option => option.1 = name

/-- The value of an option that every command takes: the innermost one counts. -/
def sharedValue? (name : String) (levels : List (String × Given)) : Option String :=
  (levels.filterMap fun level => value? name level.2).getLast?

def command? : List (String × Given) → Option Command
  | [_, ("start", given)] =>
    some (.start ((value? "mode" given).bind LogMode.ofName?) (value? "bootstrap-servers" given)
      (isGiven "passive" given))
  | [_, ("inspect", given)] => some (.inspect (value? "road" given) (isGiven "json" given))
  | [_, _, ("validate", _)] => some .validateConfig
  | [_, _, ("show", given)] => some (.showConfig ((value? "format" given).getD "toml"))
  | [_, _, ("generate", given)] =>
    some (.generateConfig (value? "output" given) ((value? "env" given).getD "dev"))
  | _ => none

def read (words : List String) : Except Refusal Arguments := do
  let levels ← parse spec {} words
  match command? levels with
  | some command =>
    return {
      config := sharedValue? "config" levels
      logLevel := sharedValue? "log-level" levels
      command }
  | none => .error .missingCommand

end Arguments

end RoadRegistry.CommandLine
