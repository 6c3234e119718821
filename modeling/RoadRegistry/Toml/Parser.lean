import RoadRegistry.Toml.Quoted
import RoadRegistry.Toml.Table

namespace RoadRegistry.Toml

open Quoted (skipWhite isAllowed lineEnd? line? string?)

def depthLimit : Nat := 80

def isBareChar (c : Char) : Bool :=
  Scalar.isDigit c || ('a' ≤ c && c ≤ 'z') || ('A' ≤ c && c ≤ 'Z') || c = '-' || c = '_'

def readPart (text : List Char) : Option (String × List Char) :=
  match text.takeWhile isBareChar with
  | [] => line? text
  | word => some (String.ofList word, text.dropWhile isBareChar)

def readParts : Nat → List Char → Option (List String × List Char)
  | 0, _ => none
  | parts + 1, text => do
    let (part, text) ← readPart (skipWhite text)
    match skipWhite text with
    | '.' :: rest =>
      let (others, text) ← readParts parts rest
      return (part :: others, text)
    | text => return ([part], text)

def readKey (text : List Char) : Option (List String × String × List Char) := do
  let (parts, text) ← readParts (depthLimit - 1) text
  match parts.getLast? with
  | some key => return (parts.dropLast, key, text)
  | none => none

def skipComment : List Char → List Char
  | '#' :: rest => rest.dropWhile isAllowed
  | text => text

def skipFiller : Nat → List Char → List Char
  | 0, text => text
  | fuel + 1, text =>
    let text := skipComment (skipWhite text)
    match lineEnd? text with
    | some rest => skipFiller fuel rest
    | none => text

def isWordChar (c : Char) : Bool := isBareChar c || c = '+' || c = '.' || c = ':'

/-- The word at the front. A date may be followed by one space and a time. -/
def readWord (text : List Char) : List Char × List Char :=
  let word := text.takeWhile isWordChar
  match text.dropWhile isWordChar with
  | ' ' :: c :: rest =>
    if Scalar.date? word = some [] && Scalar.isDigit c then
      (word ++ ' ' :: (c :: rest).takeWhile isWordChar, (c :: rest).dropWhile isWordChar)
    else (word, ' ' :: c :: rest)
  | rest => (word, rest)

mutual

def readValue : Nat → Nat → List Char → Option (Value × List Char)
  | 0, _, _ => none
  | fuel + 1, depth, text =>
    match text with
    | '"' :: _ | '\'' :: _ => (string? text).map fun (read, rest) => (.string read, rest)
    | '[' :: rest =>
      match depth with
      | 0 => none
      | depth + 1 => (readItems fuel depth rest).map fun (items, rest) => (.array items, rest)
    | '\x7b' :: rest =>
      match depth with
      | 0 => none
      | depth + 1 =>
        match skipWhite rest with
        | '\x7d' :: rest => some (.table .braces [], rest)
        | rest => do
          let (pairs, rest) ← readPairs fuel depth rest
          let fields ← Fields.ofPairs pairs
          return (.table .braces fields, rest)
    | _ => do
      let (word, rest) := readWord text
      let value ← Scalar.ofWord word
      return (value, rest)

def readItems : Nat → Nat → List Char → Option (List Value × List Char)
  | 0, _, _ => none
  | fuel + 1, depth, text =>
    match skipFiller (text.length + 1) text with
    | ']' :: rest => some ([], rest)
    | text => do
      let (item, rest) ← readValue fuel depth text
      match skipFiller (rest.length + 1) rest with
      | ',' :: rest =>
        let (items, rest) ← readItems fuel depth rest
        return (item :: items, rest)
      | ']' :: rest => return ([item], rest)
      | _ => none

def readPairs : Nat → Nat → List Char → Option (List (List String × String × Value) × List Char)
  | 0, _, _ => none
  | fuel + 1, depth, text => do
    let (path, key, text) ← readKey text
    match text with
    | '=' :: rest =>
      let (value, rest) ← readValue fuel depth (skipWhite rest)
      match skipWhite rest with
      | ',' :: rest =>
        let (pairs, rest) ← readPairs fuel depth rest
        return ((path, key, value) :: pairs, rest)
      | '\x7d' :: rest => return ([(path, key, value)], rest)
      | _ => none
    | _ => none

end

def readStatement (text : List Char) : Option (Statement × List Char) :=
  match text with
  | '[' :: '[' :: rest => do
    let (path, key, text) ← readKey rest
    match text with
    | ']' :: ']' :: rest => return (.arrayHeader path key, rest)
    | _ => none
  | '[' :: rest => do
    let (path, key, text) ← readKey rest
    match text with
    | ']' :: rest => return (.header path key, rest)
    | _ => none
  | _ => do
    let (path, key, text) ← readKey text
    match text with
    | '=' :: rest =>
      let (value, rest) ← readValue (2 * rest.length + 2) (depthLimit - 1) (skipWhite rest)
      return (.keyValue path key value, rest)
    | _ => none

def readStatements : Nat → List Char → Option (List Statement)
  | 0, _ => none
  | fuel + 1, text =>
    match skipFiller (text.length + 1) text with
    | [] => some []
    | text => do
      let (statement, rest) ← readStatement text
      let rest := skipComment (skipWhite rest)
      match rest with
      | [] => return [statement]
      | _ =>
        let rest ← lineEnd? rest
        return statement :: (← readStatements fuel rest)

/-- Reads a document. A byte order mark in front of it does not count. -/
def parse (text : String) : Option Fields :=
  let chars := match text.toList with
    | '\uFEFF' :: rest => rest
    | chars => chars
  (readStatements (chars.length + 1) chars).bind ofStatements

end RoadRegistry.Toml
