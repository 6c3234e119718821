import RoadRegistry.CommandLine.Grammar

namespace RoadRegistry.CommandLine

abbrev Given := List (String × Option String)

/-- The options of one command as far as they are read. An option is taken in when the next one
comes, or at the end: only then is it missed that its value is absent, wrong, or given twice. -/
structure Level where
  given : Given := []
  pending : Option (OptionSpec × Option String) := none

namespace Level

def wantsValue (level : Level) : Bool :=
  match level.pending with
  | some (_, none) => true
  | _ => false

def isGiven (level : Level) (name : String) : Bool :=
  level.given.any fun option => option.1 = name

def note (option : OptionSpec) (value : Option String) (level : Level) : Except Refusal Level :=
  if level.isGiven option.name then .error .repeated
  else
    let refusal := match option.kind, value with
      | .value check, some text => check text
      | _, _ => none
    match refusal with
    | some refusal => .error refusal
    | none => .ok { level with given := level.given ++ [(option.name, value)] }

def settle (level : Level) : Except Refusal Level :=
  match level.pending with
  | none => .ok level
  | some (_, none) => .error .missingValue
  | some (option, some value) => { level with pending := none }.note option (some value)

def open? (option : OptionSpec) (level : Level) : Except Refusal Level := do
  let level ← level.settle
  match option.kind with
  | .help => .error .help
  | .version => .error .version
  | .flag => level.note option none
  | .value _ => return { level with pending := some (option, none) }

def attach (option : OptionSpec) (value : String) (level : Level) : Except Refusal Level :=
  match option.kind with
  | .value _ => do (← level.settle).note option (some value)
  | _ => .error .unwantedValue

def supply (value : String) (level : Level) : Level :=
  { level with pending := level.pending.map fun (option, _) => (option, some value) }

end Level

/-- Options by their letters in one word. What follows an option that takes a value is the value,
with or without an equals sign before it. -/
def readLetters (spec : CommandSpec) : List Char → Level → Except Refusal Level
  | [], level => .ok level
  | c :: rest, level =>
    match spec.short? c with
    | none => .error .unknownArgument
    | some option =>
      match option.kind, rest with
      | .value _, '=' :: value => level.attach option (String.ofList value)
      | .value _, first :: value => level.attach option (String.ofList (first :: value))
      | _, _ => do readLetters spec rest (← level.open? option)

def readName (spec : CommandSpec) (word : List Char) (level : Level) : Except Refusal Level :=
  let name := word.takeWhile (· ≠ '=')
  match spec.long? (String.ofList name) with
  | none => .error .unknownArgument
  | some option =>
    match word.dropWhile (· ≠ '=') with
    | [] => level.open? option
    | _ :: value => level.attach option (String.ofList value)

def helpOn (spec : CommandSpec) : List String → Refusal
  | [] => .help
  | name :: rest =>
    match spec.command? name with
    | some command => helpOn command rest
    | none =>
      if name = "help" && spec.hasHelpCommand && rest.isEmpty then .help else .unknownCommand

def stray (spec : CommandSpec) : Refusal :=
  if spec.commands.isEmpty then .unknownArgument else .unknownCommand

def strayBehindMark (spec : CommandSpec) (word : String) : Refusal :=
  if (spec.command? word).isSome || (word = "help" && spec.hasHelpCommand) then .unknownArgument
  else stray spec

def finish (spec : CommandSpec) (level : Level) : Except Refusal (List (String × Given)) := do
  let level ← level.settle
  if spec.commands.isEmpty then return [(spec.name, level.given)]
  else if level.given.isEmpty then .error .nothingGiven
  else .error .missingCommand

def parse (spec : CommandSpec) (level : Level) :
    List String → Except Refusal (List (String × Given))
  | [] => finish spec level
  | word :: rest =>
    if !level.wantsValue && word = "help" && spec.hasHelpCommand then .error (helpOn spec rest)
    else
      match if level.wantsValue then none else spec.command? word with
      | some command => do
        let inner ← parse command {} rest
        let level ← level.settle
        return (spec.name, level.given) :: inner
      | none =>
        match word.toList with
        | ['-', '-'] =>
          match rest with
          | [] => finish spec level
          | word :: _ => .error (strayBehindMark spec word)
        | '-' :: '-' :: name => do parse spec (← readName spec name level) rest
        | '-' :: c :: letters => do parse spec (← readLetters spec (c :: letters) level) rest
        | _ =>
          if level.wantsValue then parse spec (level.supply word) rest else .error (stray spec)

end RoadRegistry.CommandLine
