import RoadRegistry.Reaction.Agent

namespace RoadRegistry

structure ScanReport where
  inspected : Nat := 0
  emitted : Nat := 0
  failed : Nat := 0
  startedAt : UInt64 := 0
  finishedAt : UInt64 := 0
  deriving DecidableEq, Repr

structure Inspector (V E : Type) where
  agent : Agent V E
  emitter : Emitter E
  now : E → UInt64

namespace Inspector

variable {V E : Type}

def inspect (i : Inspector V E) (state : ScanReport × E) (document : String × V) :
    ScanReport × E :=
  let (report, shared) := state
  let (key, value) := document
  let report := { report with inspected := report.inspected + 1 }
  match i.agent.inspected key value shared with
  | (.failed _, shared) | (.panicked, shared) =>
    ({ report with failed := report.failed + 1 }, shared)
  | (.returned [], shared) => (report, shared)
  | (.returned operations, shared) =>
    match i.emitter ⟨key, operations⟩ shared with
    | (.ok (), shared) => ({ report with emitted := report.emitted + 1 }, shared)
    | (.error _, shared) => ({ report with failed := report.failed + 1 }, shared)

def scan (i : Inspector V E) (documents : List (String × V)) (shared : E) : ScanReport × E :=
  let startedAt := i.now shared
  let (report, shared) := documents.foldl i.inspect ({}, shared)
  ({ report with startedAt, finishedAt := i.now shared }, shared)

end Inspector

end RoadRegistry
