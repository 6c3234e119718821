import RoadRegistry.Hash.XxHash64
import RoadRegistry.Log.Record
import RoadRegistry.Report

namespace RoadRegistry

structure Partition where
  records : List Record
  nextOffset : Nat
  deriving DecidableEq, Repr

structure Log where
  topic : String
  partitions : List Partition
  unavailable : Option String
  nonempty : partitions ≠ []
  deriving DecidableEq, Repr

/-- The scan that compacts a partition. It goes from the last record to the first, so that a key
which it has seen belongs to a record that supersedes the present one. -/
structure Sweep where
  seen : List Bytes
  kept : List Record
  removed : Nat

def Sweep.start : Sweep := ⟨[], [], 0⟩

-- What is kept goes in front, which leaves it in the order of the log.
def Sweep.visit (sweep : Sweep) (record : Record) : Sweep :=
  if record.key ∈ sweep.seen then { sweep with removed := sweep.removed + 1 }
  else { sweep with seen := record.key :: sweep.seen, kept := record :: sweep.kept }

namespace Partition

def empty : Partition := ⟨[], 0⟩

def sweep (p : Partition) : Sweep := p.records.reverse.foldl Sweep.visit .start

def compact (p : Partition) : Partition := { p with records := p.sweep.kept }

def deleteBelow (p : Partition) (bound : Int) : Partition :=
  { p with records := p.records.filter fun record => bound ≤ record.offset }

def earliest (p : Partition) : Int :=
  match p.records with
  | record :: _ => record.offset
  | [] => p.nextOffset

end Partition

namespace Log

def partitionCount (log : Log) : Nat := log.partitions.length

def create (topic : String) (partitions : Nat) : Log where
  topic
  partitions := List.replicate (max partitions 1) .empty
  unavailable := none
  nonempty := by simp only [ne_eq, List.replicate_eq_nil_iff]; omega

def route (log : Log) (key : Bytes) : Nat :=
  (XxHash64.hash 0 key).toNat % log.partitionCount

def partition? (log : Log) (index : Int) : Option Partition :=
  if index < 0 then none else log.partitions[index.toNat]?

def recordsOf (log : Log) (index : Int) : List Record :=
  match log.partition? index with
  | some p => p.records
  | none => []

def size (log : Log) : Nat :=
  log.partitions.foldl (fun total p => total + p.records.length) 0

def setUnavailable (log : Log) (message : String) : Log := { log with unavailable := some message }

def setAvailable (log : Log) : Log := { log with unavailable := none }

def checkAvailable (log : Log) : Except StoreError Unit :=
  match log.unavailable with
  | some message => .error (.io log.topic message)
  | none => .ok ()

def nextRecord (log : Log) (key : Bytes) (value : Option Bytes) : Record where
  partition := log.route key
  offset := (log.partitions[log.route key]?.getD .empty).nextOffset
  key
  value

def push (log : Log) (record : Record) (index : Nat) : Log where
  topic := log.topic
  partitions := log.partitions.modify index fun p =>
    ⟨p.records ++ [record], p.nextOffset + 1⟩
  unavailable := log.unavailable
  nonempty := by
    intro h
    have := congrArg List.length h
    rw [List.length_modify] at this
    exact log.nonempty (List.eq_nil_of_length_eq_zero this)

def append (log : Log) (key : Bytes) (value : Option Bytes) :
    Except StoreError (Position × Log) := do
  log.checkAvailable
  let record := log.nextRecord key value
  return (record.position, log.push record (log.route key))

def mapPartitions (log : Log) (f : Partition → Partition) : Log where
  topic := log.topic
  partitions := log.partitions.map f
  unavailable := log.unavailable
  nonempty := by simpa using log.nonempty

def compact (log : Log) : Nat × Log :=
  (log.partitions.foldl (fun removed p => removed + p.sweep.removed) 0,
    log.mapPartitions Partition.compact)

def deleteRecords (log : Log) (index bound : Int) : Nat × Log :=
  if index < 0 then (0, log)
  else
    let kept : Log := {
      topic := log.topic
      partitions := log.partitions.modify index.toNat fun p => p.deleteBelow bound
      unavailable := log.unavailable
      nonempty := by
        intro h
        have := congrArg List.length h
        rw [List.length_modify] at this
        exact log.nonempty (List.eq_nil_of_length_eq_zero this) }
    (log.size - kept.size, kept)

def offsets (log : Log) (f : Partition → Int) : Dictionary Int Int :=
  log.partitions.zipIdx.foldr (fun (p, index) d => d.insert (index : Int) (f p)) .empty

def endOffsets (log : Log) : Except StoreError (Dictionary Int Int) := do
  log.checkAvailable
  return log.offsets fun p => p.nextOffset

def earliestOffsets (log : Log) : Except StoreError (Dictionary Int Int) := do
  log.checkAvailable
  return log.offsets Partition.earliest

end Log

end RoadRegistry
