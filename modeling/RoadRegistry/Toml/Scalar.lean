import RoadRegistry.Binary64
import RoadRegistry.Text.Numeral
import RoadRegistry.Toml.Basic

namespace RoadRegistry.Toml

namespace Scalar

def isDigit (c : Char) : Bool := '0' ≤ c && c ≤ '9'

def digitValue (c : Char) : Nat :=
  if isDigit c then c.toNat - '0'.toNat
  else if 'a' ≤ c && c ≤ 'f' then c.toNat - 'a'.toNat + 10
  else if 'A' ≤ c && c ≤ 'F' then c.toNat - 'A'.toNat + 10
  else 16

def digits? (base : Nat) : List Char → Option (List Char)
  | [] => none
  | [c] => if digitValue c < base then some [c] else none
  | c :: '_' :: rest =>
    if digitValue c < base then (digits? base rest).map (c :: ·) else none
  | c :: rest => if digitValue c < base then (digits? base rest).map (c :: ·) else none

def valueOf (base : Nat) (digits : List Char) : Nat :=
  digits.foldl (fun value c => value * base + digitValue c) 0

def whole? (word : List Char) : Option (List Char) :=
  match digits? 10 word with
  | some ('0' :: _ :: _) => none
  | other => other

def signed (word : List Char) : Bool × List Char :=
  match word with
  | '-' :: rest => (true, rest)
  | '+' :: rest => (false, rest)
  | _ => (false, word)

/-- Integers must fit 64 bits with sign. Only decimal ones take a sign. -/
def integer? (word : List Char) : Option Int :=
  let inRange (value : Int) : Option Int :=
    if -0x8000000000000000 ≤ value ∧ value < 0x8000000000000000 then some value else none
  match word with
  | '0' :: 'x' :: rest => (digits? 16 rest).bind fun ds => inRange (valueOf 16 ds)
  | '0' :: 'o' :: rest => (digits? 8 rest).bind fun ds => inRange (valueOf 8 ds)
  | '0' :: 'b' :: rest => (digits? 2 rest).bind fun ds => inRange (valueOf 2 ds)
  | _ =>
    let (negative, rest) := signed word
    (whole? rest).bind fun ds =>
      let magnitude : Int := valueOf 10 ds
      inRange (if negative then -magnitude else magnitude)

def overflows (whole fraction : List Char) (exponent : Int) : Bool :=
  let significant := (whole ++ fraction).dropWhile (· = '0')
  let leading : Int := significant.length + exponent - fraction.length
  if significant.isEmpty || leading < 309 then false
  else if 309 < leading then true
  else
    let power := exponent - fraction.length
    let value := valueOf 10 significant
    let (num, den) :=
      if 0 ≤ power then (value * Nat.pow 10 power.toNat, 1)
      else (value, Nat.pow 10 (-power).toNat)
    (Binary64.round false num den).isNone

def floatParts? (word : List Char) : Option (List Char × List Char × Int) := do
  let isExponent (c : Char) : Bool := c = 'e' || c = 'E'
  let mantissa := word.takeWhile fun c => !isExponent c
  let exponentText := word.dropWhile fun c => !isExponent c
  let exponent ← match exponentText with
    | [] => some none
    | _ :: rest =>
      let (negative, rest) := signed rest
      (digits? 10 rest).map fun ds =>
        let magnitude : Int := valueOf 10 ds
        some (if negative then -magnitude else magnitude)
  let whole ← whole? (mantissa.takeWhile (· ≠ '.'))
  let fraction ← match mantissa.dropWhile (· ≠ '.') with
    | [] => some none
    | _ :: rest => (digits? 10 rest).map some
  if exponent.isNone && fraction.isNone then none
  return (whole, fraction.getD [], exponent.getD 0)

def isFloat (word : List Char) : Bool :=
  let (negative, rest) := signed word
  if rest = "inf".toList || rest = "nan".toList then true
  else
    match floatParts? rest with
    | some (whole, fraction, exponent) => negative || !overflows whole fraction exponent
    | none => false

def twoDigits? : List Char → Option (Nat × List Char)
  | a :: b :: rest =>
    if isDigit a && isDigit b then some (valueOf 10 [a, b], rest) else none
  | _ => none

def isLeapYear (year : Nat) : Bool := (year % 4 == 0 && year % 100 != 0) || year % 400 == 0

def daysIn (year month : Nat) : Nat :=
  if month = 2 then (if isLeapYear year then 29 else 28)
  else if month = 4 ∨ month = 6 ∨ month = 9 ∨ month = 11 then 30
  else 31

def date? (text : List Char) : Option (List Char) := do
  let (century, text) ← twoDigits? text
  let (yearOfCentury, text) ← twoDigits? text
  let text ← after '-' text
  let (month, text) ← twoDigits? text
  let text ← after '-' text
  let (day, text) ← twoDigits? text
  let year := century * 100 + yearOfCentury
  if 1 ≤ month ∧ month ≤ 12 ∧ 1 ≤ day ∧ day ≤ daysIn year month then some text else none
where
  after (c : Char) : List Char → Option (List Char)
    | d :: rest => if c = d then some rest else none
    | [] => none

def hourMinute? (text : List Char) : Option (List Char) := do
  let (hour, text) ← twoDigits? text
  match text with
  | ':' :: text =>
    let (minute, text) ← twoDigits? text
    if hour ≤ 23 ∧ minute ≤ 59 then some text else none
  | _ => none

/-- The text behind a time of day at the front; a leap second is allowed at any time. -/
def time? (text : List Char) : Option (List Char) := do
  match ← hourMinute? text with
  | ':' :: text =>
    let (second, text) ← twoDigits? text
    if 60 < second then none
    else
      match text with
      | '.' :: rest =>
        if (rest.takeWhile isDigit).isEmpty then none else some (rest.dropWhile isDigit)
      | _ => some text
  | _ => none

def isOffset : List Char → Bool
  | [] | ['Z'] | ['z'] => true
  | '+' :: rest | '-' :: rest => hourMinute? rest == some []
  | _ => false

def isDateTime (word : List Char) : Bool :=
  match date? word with
  | some [] => true
  | some (mark :: rest) =>
    (mark = 'T' || mark = 't' || mark = ' ') &&
      (match time? rest with
        | some offset => isOffset offset
        | none => false)
  | none => time? word == some []

def ofWord (word : List Char) : Option Value :=
  if word = "true".toList then some (.boolean true)
  else if word = "false".toList then some (.boolean false)
  else
    match integer? word with
    | some value => some (.integer value)
    | none =>
      if isDateTime word then some (.dateTime (String.ofList word))
      else if isFloat word then some (.float (String.ofList word))
      else none

end Scalar

end RoadRegistry.Toml
