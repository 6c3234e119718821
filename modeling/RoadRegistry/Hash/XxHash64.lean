import RoadRegistry.Bytes

namespace RoadRegistry.XxHash64

def prime1 : UInt64 := 0x9E3779B185EBCA87
def prime2 : UInt64 := 0xC2B2AE3D27D4EB4F
def prime3 : UInt64 := 0x165667B19E3779F9
def prime4 : UInt64 := 0x85EBCA77C2B2AE63
def prime5 : UInt64 := 0x27D4EB2F165667C5

def rotateLeft (x : UInt64) (n : UInt64) : UInt64 := (x <<< n) ||| (x >>> (64 - n))

def littleEndian : Bytes → UInt64
  | [] => 0
  | b :: rest => b.toUInt64 ||| (littleEndian rest <<< 8)

def mixLane (lane word : UInt64) : UInt64 :=
  rotateLeft (lane + word * prime2) 31 * prime1

structure Lanes where
  first : UInt64
  second : UInt64
  third : UInt64
  fourth : UInt64

namespace Lanes

def start (seed : UInt64) : Lanes :=
  ⟨seed + prime1 + prime2, seed + prime2, seed, seed - prime1⟩

def feed (lanes : Lanes) (bytes : Bytes) : Lanes :=
  ⟨mixLane lanes.first (littleEndian (bytes.take 8)),
    mixLane lanes.second (littleEndian ((bytes.drop 8).take 8)),
    mixLane lanes.third (littleEndian ((bytes.drop 16).take 8)),
    mixLane lanes.fourth (littleEndian ((bytes.drop 24).take 8))⟩

def feedStripes : Nat → Lanes → Bytes → Lanes
  | 0, lanes, _ => lanes
  | count + 1, lanes, bytes => feedStripes count (lanes.feed bytes) (bytes.drop 32)

def mergeLane (hash lane : UInt64) : UInt64 :=
  (hash ^^^ mixLane 0 lane) * prime1 + prime4

def merge (lanes : Lanes) : UInt64 :=
  let hash := rotateLeft lanes.first 1 + rotateLeft lanes.second 7 +
    rotateLeft lanes.third 12 + rotateLeft lanes.fourth 18
  mergeLane (mergeLane (mergeLane (mergeLane hash lanes.first) lanes.second) lanes.third)
    lanes.fourth

end Lanes

def mixEight (hash word : UInt64) : UInt64 :=
  rotateLeft (hash ^^^ mixLane 0 word) 27 * prime1 + prime4

def mixFour (hash word : UInt64) : UInt64 :=
  rotateLeft (hash ^^^ (word * prime1)) 23 * prime2 + prime3

def mixByte (hash : UInt64) (byte : UInt8) : UInt64 :=
  rotateLeft (hash ^^^ (byte.toUInt64 * prime5)) 11 * prime1

def mixWords : Nat → UInt64 → Bytes → UInt64
  | 0, hash, _ => hash
  | count + 1, hash, bytes =>
    mixWords count (mixEight hash (littleEndian (bytes.take 8))) (bytes.drop 8)

def mixTail (hash : UInt64) (bytes : Bytes) : UInt64 :=
  let words := bytes.length / 8
  let hash := mixWords words hash bytes
  let bytes := bytes.drop (8 * words)
  if 4 ≤ bytes.length then
    (bytes.drop 4).foldl mixByte (mixFour hash (littleEndian (bytes.take 4)))
  else bytes.foldl mixByte hash

def avalanche (hash : UInt64) : UInt64 :=
  let hash := (hash ^^^ (hash >>> 33)) * prime2
  let hash := (hash ^^^ (hash >>> 29)) * prime3
  hash ^^^ (hash >>> 32)

def hash (seed : UInt64) (bytes : Bytes) : UInt64 :=
  let stripes := bytes.length / 32
  let start :=
    if stripes = 0 then seed + prime5
    else ((Lanes.start seed).feedStripes stripes bytes).merge
  avalanche (mixTail (start + UInt64.ofNat bytes.length) (bytes.drop (32 * stripes)))

end RoadRegistry.XxHash64
