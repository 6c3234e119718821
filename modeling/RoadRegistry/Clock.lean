namespace RoadRegistry

structure Clock where
  now : UInt64
  deriving DecidableEq, Repr

namespace Clock

/-- Time past the end of the word starts again at zero. -/
def advance (clock : Clock) (millis : UInt64) : Clock := ⟨clock.now + millis⟩

def set (_ : Clock) (millis : UInt64) : Clock := ⟨millis⟩

end Clock

structure Duration where
  millis : Nat
  deriving DecidableEq, Repr

namespace Duration

def ofSeconds (seconds : Nat) : Duration := ⟨seconds * 1000⟩

def fraction (millis : Nat) : String :=
  if millis = 0 then ""
  else if millis % 100 = 0 then "." ++ toString (millis / 100)
  else if millis % 10 = 0 then
    "." ++ toString (millis / 100) ++ toString (millis / 10 % 10)
  else "." ++ toString (millis / 100) ++ toString (millis / 10 % 10) ++ toString (millis % 10)

/-- Whole and broken seconds from one second on, milliseconds below, and `0ns` for no time. -/
def text (d : Duration) : String :=
  if 1000 ≤ d.millis then toString (d.millis / 1000) ++ fraction (d.millis % 1000) ++ "s"
  else if d.millis = 0 then "0ns"
  else toString d.millis ++ "ms"

end Duration

end RoadRegistry
