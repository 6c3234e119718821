namespace RoadRegistry

/-- Milliseconds by which a pass may be late without moving the rhythm. -/
def tolerance : Nat := 5

/-- The first pass runs one interval after the task was first looked at. A pass that is late by more
than a little moves the rhythm, and passes that were missed are not made up for. -/
structure ScheduledTask where
  interval : Nat
  /-- When the next pass is due; not known before the first look. -/
  deadline : Option Nat := none
  ended : Bool := false
  deriving DecidableEq, Repr

namespace ScheduledTask

def arm (task : ScheduledTask) (now : Nat) : ScheduledTask :=
  if task.ended then task
  else { task with deadline := some (task.deadline.getD (now + task.interval)) }

def runTo (now : Nat) (task : ScheduledTask) : Nat × ScheduledTask :=
  match task.deadline with
  | none => (0, task)
  | some deadline =>
    if task.ended || now < deadline then (0, task)
    else
      let count := (now - deadline) / task.interval + 1
      (count, { task with deadline := some (deadline + count * task.interval) })

/-- A look at `now`, however late it may be. Within the tolerance several passes can be due. -/
def lookAt (now : Nat) : Nat → ScheduledTask → Nat × ScheduledTask
  | 0, task => (0, task)
  | looks + 1, task =>
    match task.deadline with
    | none => (0, task)
    | some deadline =>
      if task.ended || now < deadline then (0, task)
      else
        let late := tolerance < now - deadline
        let next := if late then now + task.interval else deadline + task.interval
        let (count, task) := lookAt now looks { task with deadline := some next }
        (count + 1, task)

end ScheduledTask

structure Schedule where
  now : Nat := 0
  /-- The last value sent to the tasks; `true` asks them to end. -/
  stopping : Bool := false
  /-- Nobody can send any more, which ends the tasks too. -/
  abandoned : Bool := false
  tasks : List ScheduledTask := []
  deriving DecidableEq, Repr

namespace Schedule

def endTasks (s : Schedule) : Schedule :=
  if s.stopping || s.abandoned then
    { s with tasks := s.tasks.map fun task => { task with ended := true } }
  else s

def add (s : Schedule) (interval : Nat) : Schedule :=
  { s with tasks := s.tasks ++ [{ interval }] }

def forTasks (s : Schedule) (step : ScheduledTask → Nat × ScheduledTask) : Nat × Schedule :=
  let results := s.tasks.map step
  (results.foldl (fun total result => total + result.1) 0, { s with tasks := results.map (·.2) })

def elapse (s : Schedule) (millis : Nat) : Nat × Schedule :=
  let s := s.endTasks
  let now := s.now + millis
  { s with now }.forTasks fun task => ScheduledTask.runTo now (task.arm s.now)

def leap (s : Schedule) (millis : Nat) : Nat × Schedule :=
  let s := { s.endTasks with now := s.now + millis }
  s.forTasks fun task => ScheduledTask.lookAt s.now (tolerance + 1) (task.arm s.now)

def send (s : Schedule) (stopping : Bool) : Schedule := { s with stopping }

def abandon (s : Schedule) : Schedule := { s with abandoned := true }

def lastEnded (s : Schedule) : Option Bool := s.tasks.getLast?.map (·.ended)

end Schedule

end RoadRegistry
