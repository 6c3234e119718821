import RoadRegistry.Inspection.Scan
import RoadRegistry.Inspection.Schedule
import RoadRegistry.Reaction.Basic
import RoadRegistry.Reaction.Script
import RoadRegistry.Topic.Admin

namespace RoadRegistry

structure Surroundings where
  rehearsed : Rehearsed
  patchLog : Log
  topics : TopicAdmin

namespace Surroundings

def rehearsedPart : Part Surroundings Rehearsed :=
  ⟨Surroundings.rehearsed, fun rehearsed s => { s with rehearsed }⟩

def patchLogPart : Part Surroundings Log :=
  ⟨Surroundings.patchLog, fun patchLog s => { s with patchLog }⟩

def topicsPart : Part Surroundings TopicAdmin :=
  ⟨Surroundings.topics, fun topics s => { s with topics }⟩

def now (s : Surroundings) : UInt64 := s.rehearsed.clock.now

def emitter : Emitter Surroundings := Emitter.within patchLogPart Emitter.toLog

def bind (agent : Agent V Surroundings) (same : V → V → Bool) : Binding V Surroundings :=
  ⟨agent, emitter, same⟩

end Surroundings

def Agent.idle : Agent V E where
  added _ _ state := (.returned [], state)
  updated _ _ _ state := (.returned [], state)
  removed _ _ state := (.returned (), state)
  inspected _ _ state := (.returned [], state)

/-- A gated reaction and scheduled inspectors that share one agent, one emitter and everything these
act on. -/
structure Bench (V : Type) where
  reaction : Gated Reaction
  schedule : Schedule := {}
  documents : List (String × V) := []
  surroundings : Surroundings

namespace Bench

variable {V : Type}

def change (b : Binding V Surroundings) (key : String) (change : Change V) (bench : Bench V) :
    Bench V :=
  let notice :=
    Gated.notify (Reaction.notify b) (fun _ => none) key change bench.reaction bench.surroundings
  { bench with reaction := notice.observer, surroundings := notice.shared }

def scan (b : Binding V Surroundings) (bench : Bench V) : ScanReport × Bench V :=
  let inspector : Inspector V Surroundings := ⟨b.agent, b.emitter, Surroundings.now⟩
  let (report, surroundings) := inspector.scan bench.documents bench.surroundings
  (report, { bench with surroundings })

def scanTimes (b : Binding V Surroundings) : Nat → Bench V → Bench V
  | 0, bench => bench
  | count + 1, bench => scanTimes b count (bench.scan b).2

def run (b : Binding V Surroundings) (step : Schedule → Nat × Schedule) (bench : Bench V) :
    Bench V :=
  let (count, schedule) := step bench.schedule
  scanTimes b count { bench with schedule }

def pass (b : Binding V Surroundings) (millis : Nat) (bench : Bench V) : Bench V :=
  bench.run b fun schedule => schedule.elapse (millis + 1)

/-- Moves time on at once, and then by one more millisecond. -/
def leap (b : Binding V Surroundings) (millis : Nat) (bench : Bench V) : Bench V :=
  (bench.run b fun schedule => schedule.leap millis).pass b 0

def spawn (b : Binding V Surroundings) (interval : Nat) (bench : Bench V) : Bench V :=
  { bench with schedule := bench.schedule.add interval }.pass b 0

def shutdown (b : Binding V Surroundings) (value : Option Bool) (bench : Bench V) : Bench V :=
  let schedule := match value with
    | some stopping => bench.schedule.send stopping
    | none => bench.schedule.abandon
  let bench := { bench with schedule }.pass b 0
  { bench with schedule := bench.schedule.endTasks }

def ask (call : Surroundings → Outcome α × Surroundings) (bench : Bench V) :
    Outcome α × Bench V :=
  let (outcome, surroundings) := call bench.surroundings
  (outcome, { bench with surroundings })

end Bench

end RoadRegistry
