import RoadRegistry.Toml.Scalar

namespace RoadRegistry.Toml.Quoted

def isAllowed (c : Char) : Bool := c = '\t' || (0x20 ≤ c.toNat && c.toNat != 0x7F)

def isWhite (c : Char) : Bool := c = ' ' || c = '\t'

def skipWhite (text : List Char) : List Char := text.dropWhile isWhite

def scalar? (digits : List Char) : Option Char :=
  if digits.all fun c => Scalar.digitValue c < 16 then
    let code := Scalar.valueOf 16 digits
    if code < 0xD800 ∨ (0xDFFF < code ∧ code ≤ 0x10FFFF) then some (Char.ofNat code) else none
  else none

def escape? : List Char → Option (Char × List Char)
  | 'u' :: a :: b :: c :: d :: rest => (scalar? [a, b, c, d]).map fun read => (read, rest)
  | 'U' :: a :: b :: c :: d :: e :: f :: g :: h :: rest =>
    (scalar? [a, b, c, d, e, f, g, h]).map fun read => (read, rest)
  | 'b' :: rest => some ('\x08', rest)
  | 't' :: rest => some ('\t', rest)
  | 'n' :: rest => some ('\n', rest)
  | 'f' :: rest => some ('\x0c', rest)
  | 'r' :: rest => some ('\r', rest)
  | '"' :: rest => some ('"', rest)
  | '\\' :: rest => some ('\\', rest)
  | _ => none

def basic : Nat → List Char → Option (List Char × List Char)
  | 0, _ => none
  | fuel + 1, text =>
    match text with
    | [] => none
    | '"' :: rest => some ([], rest)
    | '\\' :: rest =>
      match escape? rest with
      | none => none
      | some (c, rest) => (basic fuel rest).map fun (read, rest) => (c :: read, rest)
    | c :: rest =>
      if isAllowed c then (basic fuel rest).map fun (read, rest) => (c :: read, rest) else none

def literal : List Char → Option (List Char × List Char)
  | [] => none
  | c :: rest =>
    if c = '\'' then some ([], rest)
    else if isAllowed c then (literal rest).map fun (read, rest) => (c :: read, rest)
    else none

def lineEnd? : List Char → Option (List Char)
  | '\n' :: rest => some rest
  | '\r' :: '\n' :: rest => some rest
  | _ => none

def skipLines : Nat → List Char → List Char
  | 0, text => text
  | fuel + 1, text =>
    match text with
    | c :: rest =>
      if isWhite c then skipLines fuel rest
      else
        match lineEnd? text with
        | some rest => skipLines fuel rest
        | none => text
    | [] => []

/-- The rest of a string between triple marks. Up to two marks may stand right before the closing
three. A line end counts as `\n`; a backslash at the end of a line takes all white space that
follows with it. -/
def multiline (mark : Char) (escapes : Bool) : Nat → List Char → Option (List Char × List Char)
  | 0, _ => none
  | fuel + 1, text =>
    let marks := text.takeWhile (· = mark)
    if 3 ≤ marks.length then
      if marks.length ≤ 5 then
        some (List.replicate (marks.length - 3) mark, text.drop marks.length)
      else none
    else
      match lineEnd? text with
      | some rest => (multiline mark escapes fuel rest).map fun (read, rest) => ('\n' :: read, rest)
      | none =>
        match text with
        | [] => none
        | c :: rest =>
          if c = '\\' && escapes then
            match lineEnd? (skipWhite rest) with
            | some rest => multiline mark escapes fuel (skipLines rest.length rest)
            | none =>
              match escape? rest with
              | none => none
              | some (c, rest) =>
                (multiline mark escapes fuel rest).map fun (read, rest) => (c :: read, rest)
          else if isAllowed c then
            (multiline mark escapes fuel rest).map fun (read, rest) => (c :: read, rest)
          else none

def afterOpening (text : List Char) : List Char := (lineEnd? text).getD text

def toText (read : Option (List Char × List Char)) : Option (String × List Char) :=
  read.map fun (chars, rest) => (String.ofList chars, rest)

def line? : List Char → Option (String × List Char)
  | '"' :: rest => toText (basic (rest.length + 1) rest)
  | '\'' :: rest => toText (literal rest)
  | _ => none

def string? : List Char → Option (String × List Char)
  | '"' :: '"' :: '"' :: rest =>
    let body := afterOpening rest
    toText (multiline '"' true (body.length + 1) body)
  | '\'' :: '\'' :: '\'' :: rest =>
    let body := afterOpening rest
    toText (multiline '\'' false (body.length + 1) body)
  | text => line? text

end RoadRegistry.Toml.Quoted
