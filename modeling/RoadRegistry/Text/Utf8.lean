import RoadRegistry.Bytes

namespace RoadRegistry.Text.Utf8

/-- A character, or the longest run of bytes that starts one and does not finish it. -/
inductive Piece where
  | char (c : Char)
  | broken (length : Nat)
  | unfinished (length : Nat)
  deriving DecidableEq, Repr

/-- What a lead byte announces: how many bytes follow it, and the range of the first of them. -/
structure Lead where
  following : Nat
  low : UInt8
  high : UInt8

/-- The narrowed ranges keep out overlong forms, surrogates and code points above U+10FFFF. -/
def lead? (b : UInt8) : Option Lead :=
  if 0xC2 ≤ b ∧ b ≤ 0xDF then some ⟨1, 0x80, 0xBF⟩
  else if b = 0xE0 then some ⟨2, 0xA0, 0xBF⟩
  else if b = 0xED then some ⟨2, 0x80, 0x9F⟩
  else if 0xE1 ≤ b ∧ b ≤ 0xEF then some ⟨2, 0x80, 0xBF⟩
  else if b = 0xF0 then some ⟨3, 0x90, 0xBF⟩
  else if b = 0xF4 then some ⟨3, 0x80, 0x8F⟩
  else if 0xF1 ≤ b ∧ b ≤ 0xF3 then some ⟨3, 0x80, 0xBF⟩
  else none

def isContinuation (b : UInt8) : Bool := 0x80 ≤ b && b ≤ 0xBF

def low6 (b : UInt8) : Nat := b.toNat % 64

def char2 (a b : UInt8) : Char := Char.ofNat (a.toNat % 32 * 64 + low6 b)

def char3 (a b c : UInt8) : Char := Char.ofNat ((a.toNat % 16 * 64 + low6 b) * 64 + low6 c)

def char4 (a b c d : UInt8) : Char :=
  Char.ofNat (((a.toNat % 8 * 64 + low6 b) * 64 + low6 c) * 64 + low6 d)

def pieces : Bytes → List Piece
  | [] => []
  | a :: rest =>
    if a < 0x80 then .char (Char.ofNat a.toNat) :: pieces rest
    else match lead? a with
    | none => .broken 1 :: pieces rest
    | some lead => match rest with
      | [] => [.unfinished 1]
      | b :: afterB =>
        if ¬ (lead.low ≤ b ∧ b ≤ lead.high) then .broken 1 :: pieces (b :: afterB)
        else if lead.following = 1 then .char (char2 a b) :: pieces afterB
        else match afterB with
        | [] => [.unfinished 2]
        | c :: afterC =>
          if ¬ isContinuation c then .broken 2 :: pieces (c :: afterC)
          else if lead.following = 2 then .char (char3 a b c) :: pieces afterC
          else match afterC with
          | [] => [.unfinished 3]
          | d :: afterD =>
            if ¬ isContinuation d then .broken 3 :: pieces (d :: afterD)
            else .char (char4 a b c d) :: pieces afterD

inductive Fault where
  | broken (length index : Nat)
  | unfinished (index : Nat)
  deriving DecidableEq, Repr

def Fault.message : Fault → String
  | .broken length index =>
    "invalid utf-8 sequence of " ++ toString length ++ " bytes from index " ++ toString index
  | .unfinished index => "incomplete utf-8 byte sequence from index " ++ toString index

def charsFrom (index : Nat) : List Piece → Except Fault (List Char)
  | [] => .ok []
  | .char c :: rest => (charsFrom (index + c.utf8Size) rest).map (c :: ·)
  | .broken length :: _ => .error (.broken length index)
  | .unfinished _ :: _ => .error (.unfinished index)

def decode (bytes : Bytes) : Except Fault String :=
  (charsFrom 0 (pieces bytes)).map String.ofList

def Piece.lossy : Piece → Char
  | .char c => c
  | .broken _ | .unfinished _ => '\uFFFD'

def decodeLossy (bytes : Bytes) : String :=
  String.ofList ((pieces bytes).map Piece.lossy)

end RoadRegistry.Text.Utf8
