import RoadRegistry.Replica.Observer

namespace RoadRegistry

structure JournalEntry (V : Type) where
  recorder : String
  key : String
  change : Change V
  readBack : Option (Option V)

structure Journal (V : Type) where
  clock : Clock
  entries : List (JournalEntry V) := []

/-- An observer that writes every change down in a journal that it shares with others. -/
structure Recorder where
  name : String
  readBack : Bool := false
  millis : UInt64 := 0
  /-- The key at which the recorder panics, once it has written the entry. -/
  panicAt : Option String := none

def Recorder.notify : Notify V Recorder (Journal V) := fun get key change o journal =>
  let entry := {
    recorder := o.name
    key
    change
    readBack := if o.readBack then some (get key) else none }
  ⟨o, ⟨journal.clock.advance o.millis, journal.entries ++ [entry]⟩, o.panicAt == some key⟩

end RoadRegistry
