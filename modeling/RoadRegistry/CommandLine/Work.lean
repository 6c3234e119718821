import RoadRegistry.CommandLine.Disk
import RoadRegistry.Report

namespace RoadRegistry.CommandLine

structure Outcome where
  output : String := ""
  failure : Option Report := none

def Outcome.exitCode (outcome : Outcome) : UInt8 := if outcome.failure.isSome then 1 else 0

inductive Work where
  | done (outcome : Outcome)
  | probe (path : String) (next : Bool → Work)
  | read (path : String) (next : Option String → Work)
  | write (path content : String) (next : Bool → Work)
  | wait (next : Work)

namespace Work

def fail (report : Report) : Work := .done { failure := some report }

def print (output : String) : Work := .done { output }

def onDisk : Work → Disk → Outcome × Disk
  | .done outcome, disk => (outcome, disk)
  | .probe path next, disk => (next (disk.hasPath path)).onDisk disk
  | .read path next, disk => (next (disk.read? path)).onDisk disk
  | .write path content next, disk =>
    match disk.write? path content with
    | some written => (next true).onDisk written
    | none => (next false).onDisk disk
  | .wait next, disk => next.onDisk disk

end Work

end RoadRegistry.CommandLine
