import RoadRegistry.Log.Basic

namespace RoadRegistry

structure Reader where
  positions : List Int
  deriving DecidableEq, Repr

namespace Reader

def after (position : Int) (records : List Record) : Int :=
  match records.getLast? with
  | some record => record.offset + 1
  | none => position

def fresh (position : Int) (p : Partition) : List Record :=
  p.records.filter fun record => position ≤ record.offset

/-- Everything retained that was not read before. A partition the reader has no position for is
read from the start. -/
def collect : List Int → List Partition → List Record × List Int
  | positions, [] => ([], positions)
  | positions, p :: rest =>
    let position := positions.headD 0
    let records := fresh position p
    let (others, positions) := collect positions.tail rest
    (records ++ others, after position records :: positions)

def poll (reader : Reader) (log : Log) : Except StoreError (List Record × Reader) := do
  log.checkAvailable
  let (records, positions) := collect reader.positions log.partitions
  return (records, ⟨positions⟩)

end Reader

def Log.openReader (log : Log) : Except StoreError Reader := do
  log.checkAvailable
  return ⟨log.partitions.map fun _ => 0⟩

end RoadRegistry
