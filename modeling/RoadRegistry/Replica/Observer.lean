import RoadRegistry.Clock

namespace RoadRegistry

/-- How the value of a key changed. A key that was never seen and one that was removed are both
without a value. -/
inductive Change (V : Type) where
  | new (value : V)
  | update (old new : V)
  | remove (old : V)
  deriving Repr

def Change.between : Option V → Option V → Option (Change V)
  | none, some value => some (.new value)
  | some old, some value => some (.update old value)
  | some old, none => some (.remove old)
  | none, none => none

structure Notice (O E : Type) where
  observer : O
  shared : E
  panicked : Bool := false

/-- What an observer does: it may look keys up in the replica. -/
abbrev Notify (V O E : Type) := (String → Option V) → String → Change V → O → E → Notice O E

namespace Notify

/-- Tells every observer in turn. One that panics keeps the change from those after it. -/
def all (notify : Notify V O E) (get : String → Option V) (key : String) (change : Change V) :
    List O → E → Notice (List O) E
  | [], shared => ⟨[], shared, false⟩
  | observer :: rest, shared =>
    let notice := notify get key change observer shared
    if notice.panicked then ⟨notice.observer :: rest, notice.shared, true⟩
    else
      let others := all notify get key change rest notice.shared
      ⟨notice.observer :: others.observer, others.shared, others.panicked⟩

end Notify

structure Gate where
  muted : Bool := false
  suppressed : Nat := 0
  deriving DecidableEq, Repr

structure Gated (O : Type) where
  gate : Gate
  inner : O

namespace Gated

def mute (o : Gated O) : Gated O := { o with gate := { o.gate with muted := true } }

def unmute (o : Gated O) : Gated O := { o with gate := { o.gate with muted := false } }

def notify (inner : Notify V O E) : Notify V (Gated O) E := fun get key change o shared =>
  if o.gate.muted then
    ⟨{ o with gate := { o.gate with suppressed := o.gate.suppressed + 1 } }, shared, false⟩
  else
    let notice := inner get key change o.inner shared
    ⟨{ o with inner := notice.observer }, notice.shared, notice.panicked⟩

end Gated

end RoadRegistry
