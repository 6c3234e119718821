namespace RoadRegistry.Text

def decimal (n : Nat) : List Char := Nat.toDigits 10 n

def signedDecimal (n : Int) : List Char :=
  if n < 0 then '-' :: decimal n.natAbs else decimal n.natAbs

def hexadecimal (n : Nat) : List Char := Nat.toDigits 16 n

def hexByte (b : UInt8) : List Char :=
  [Nat.digitChar (b.toNat / 16), Nat.digitChar (b.toNat % 16)]

end RoadRegistry.Text
