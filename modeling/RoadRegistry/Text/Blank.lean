namespace RoadRegistry.Text

/-- The 25 code points with the property `White_Space`. -/
def isBlankChar (c : Char) : Bool :=
  let n := c.toNat
  (9 ≤ n && n ≤ 13) || n == 0x20 || n == 0x85 || n == 0xA0 || n == 0x1680 ||
    (0x2000 ≤ n && n ≤ 0x200A) || n == 0x2028 || n == 0x2029 || n == 0x202F || n == 0x205F ||
    n == 0x3000

def trimStart (chars : List Char) : List Char := chars.dropWhile isBlankChar

def trimEnd (chars : List Char) : List Char := (trimStart chars.reverse).reverse

def trim (chars : List Char) : List Char := trimEnd (trimStart chars)

def isBlank (text : String) : Bool := (trim text.toList).isEmpty

end RoadRegistry.Text
