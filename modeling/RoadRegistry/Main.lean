import RoadRegistry.CommandLine.Commands

open RoadRegistry.CommandLine

partial def drain (input : IO.FS.Stream) : IO Unit := do
  if (← input.getLine).isEmpty then return () else drain input

def attempt (action : IO α) : IO (Option α) := do
  match ← action.toBaseIO with
  | .ok value => return some value
  | .error _ => return none

def perform : Work → IO Outcome
  | .done outcome => return outcome
  | .probe path next => do perform (next (← attempt (IO.FS.realPath path)).isSome)
  | .read path next => do perform (next (← attempt (IO.FS.readFile path)))
  | .write path content next => do
    let written ← attempt (IO.FS.writeFile path content)
    perform (next written.isSome)
  | .wait next => do
    drain (← IO.getStdin)
    perform next

def usage (refusal : Refusal) : String :=
  match refusal with
  | .help => "roadworks [--config FILE] [--log-level LEVEL] start | inspect | config"
  | .version => "roadworks 0.1.0"
  | .nothingGiven | .missingCommand => "a command is required: start, inspect or config"
  | .unknownCommand => "there is no such command"
  | .unknownArgument => "unexpected argument"
  | .missingValue => "an option lacks its value"
  | .unwantedValue => "a flag takes no value"
  | .repeated => "an option cannot be used twice"
  | .rejectedValue => "an option does not take this value"

def main (words : List String) : IO UInt32 := do
  match Arguments.read words with
  | .error refusal =>
    IO.eprintln (usage refusal)
    return refusal.exitCode.toUInt32
  | .ok arguments =>
    let outcome ← perform arguments.work
    IO.print outcome.output
    match outcome.failure with
    | some report => IO.eprintln ("Error: " ++ report.message)
    | none => pure ()
    return outcome.exitCode.toUInt32
