import RoadRegistry.Binary64
import RoadRegistry.Text.Numeral

namespace RoadRegistry.Json

/-- A literal without fraction and exponent is an integer as long as it fits 64 bits, signed or
unsigned. Every other literal is a finite double, and so is `-0`. -/
inductive Number where
  | integer (value : Int) (lower : -0x8000000000000000 ≤ value)
    (upper : value < 0x10000000000000000)
  | float (value : Binary64)
  deriving DecidableEq, Repr

namespace Number

def ofUInt64 (n : UInt64) : Number :=
  .integer n.toNat (by have := n.toNat_lt; omega) (by have := n.toNat_lt; omega)

def ofUInt32 (n : UInt32) : Number :=
  .integer n.toNat (by have := n.toNat_lt; omega) (by have := n.toNat_lt; omega)

def ofUInt16 (n : UInt16) : Number :=
  .integer n.toNat (by have := n.toNat_lt; omega) (by have := n.toNat_lt; omega)

def valueEq : Number → Number → Bool
  | .integer m _ _, .integer n _ _ => m == n
  | .float x, .float y => x.valueEq y
  | _, _ => false

structure Literal where
  negative : Bool
  whole : List Char
  fraction : List Char
  exponent : Int
  isPlain : Bool

def digitValue (c : Char) : Nat := c.toNat - '0'.toNat

/-- Appends digits to a significand as long as it fits 64 bits; the first digit that does
not fit is left with all that follow it. -/
def absorb (significand : Nat) : List Char → Nat × List Char
  | [] => (significand, [])
  | c :: rest =>
    let longer := significand * 10 + digitValue c
    if longer < 0x10000000000000000 then absorb longer rest else (significand, c :: rest)

/-- Digits of the whole part that do not fit count as zeros, digits of the fraction that do not
fit are dropped. -/
def Literal.toFloat (l : Literal) : Option Number :=
  let (significand, dropped) := absorb 0 l.whole
  let (significand, unread) := absorb significand l.fraction
  let places : Int := l.fraction.length - unread.length
  (Binary64.ofDecimal l.negative significand (dropped.length - places + l.exponent)).map .float

def Literal.toNumber (l : Literal) : Option Number :=
  let magnitude := Nat.ofDigitChars 10 l.whole 0
  let value : Int := if l.negative then -magnitude else magnitude
  if l.isPlain && !(l.negative && magnitude == 0) then
    if h : -0x8000000000000000 ≤ value ∧ value < 0x10000000000000000 then
      some (.integer value h.1 h.2)
    else l.toFloat
  else l.toFloat

def isDigit (c : Char) : Bool := '0' ≤ c && c ≤ '9'

def digits? (text : List Char) : Option (List Char × List Char) :=
  match text.takeWhile isDigit with
  | [] => none
  | run => some (run, text.dropWhile isDigit)

def whole? (text : List Char) : Option (List Char × List Char) :=
  match digits? text with
  | some ('0' :: _ :: _, _) => none
  | other => other

def fraction? : List Char → Option (List Char × List Char)
  | '.' :: rest => digits? rest
  | text => some ([], text)

def exponentDigits? (negative : Bool) (text : List Char) : Option (Int × List Char) :=
  (digits? text).map fun (run, rest) =>
    let magnitude : Int := Nat.ofDigitChars 10 run 0
    (if negative then -magnitude else magnitude, rest)

def exponent? : List Char → Option (Option Int × List Char)
  | 'e' :: rest | 'E' :: rest =>
    let read := match rest with
      | '+' :: rest => exponentDigits? false rest
      | '-' :: rest => exponentDigits? true rest
      | _ => exponentDigits? false rest
    read.map fun (exponent, rest) => (some exponent, rest)
  | text => some (none, text)

def parse (text : List Char) : Option (Number × List Char) := do
  let (negative, text) := match text with
    | '-' :: rest => (true, rest)
    | _ => (false, text)
  let (whole, text) ← whole? text
  let (fraction, text) ← fraction? text
  let (exponent, text) ← exponent? text
  let literal : Literal :=
    ⟨negative, whole, fraction, exponent.getD 0, fraction.isEmpty && exponent.isNone⟩
  let n ← literal.toNumber
  return (n, text)

/-- How a float is written: with a point, in the range of leading exponents that is spelled out,
and with the sign of an exponent always shown beyond it. -/
structure FloatStyle where
  least : Int
  greatest : Int

def floatStyle : FloatStyle := ⟨-5, 15⟩

def placePoint (digits : List Char) (whole : Int) : List Char :=
  if whole ≤ 0 then "0.".toList ++ List.replicate (-whole).toNat '0' ++ digits
  else
    let before := whole.toNat
    if digits.length ≤ before then
      digits ++ List.replicate (before - digits.length) '0' ++ ".0".toList
    else digits.take before ++ '.' :: digits.drop before

def scientific (digits : List Char) (exponent : Int) : List Char :=
  let mantissa := match digits with
    | first :: second :: rest => first :: '.' :: second :: rest
    | single => single
  mantissa ++ 'e' :: (if exponent < 0 then '-' else '+') :: Text.decimal exponent.natAbs

def writeFloat (x : Binary64) : List Char :=
  let d := x.shortest
  let digits := Text.decimal d.digits
  let leading := d.exponent + digits.length - 1
  let magnitude :=
    if x.isZero then "0.0".toList
    else if floatStyle.least ≤ leading ∧ leading ≤ floatStyle.greatest then
      placePoint digits (leading + 1)
    else scientific digits leading
  if x.negative then '-' :: magnitude else magnitude

def write : Number → List Char
  | .integer n _ _ => Text.signedDecimal n
  | .float x => writeFloat x

end Number

end RoadRegistry.Json
