import RoadRegistry.Json.Basic

namespace RoadRegistry.Json

def escapeChar (c : Char) : List Char :=
  if c = '"' then ['\\', '"']
  else if c = '\\' then ['\\', '\\']
  else if c = '\x08' then ['\\', 'b']
  else if c = '\t' then ['\\', 't']
  else if c = '\n' then ['\\', 'n']
  else if c = '\x0c' then ['\\', 'f']
  else if c = '\r' then ['\\', 'r']
  else if c.toNat < 0x20 then
    ['\\', 'u', '0', '0', Nat.digitChar (c.toNat / 16), Nat.digitChar (c.toNat % 16)]
  else [c]

def writeString (text : String) : List Char :=
  '"' :: (text.toList.flatMap escapeChar ++ ['"'])

def writeBool (b : Bool) : List Char := if b then "true".toList else "false".toList

mutual

def write : Json → List Char
  | .null => "null".toList
  | .bool b => writeBool b
  | .number n => n.write
  | .string s => writeString s
  | .array [] => ['[', ']']
  | .array (item :: rest) => '[' :: (write item ++ writeItems rest)
  | .object [] => ['\x7b', '\x7d']
  | .object ((key, value) :: rest) =>
    '\x7b' :: (writeString key ++ ':' :: (write value ++ writeFields rest))

def writeItems : List Json → List Char
  | [] => [']']
  | item :: rest => ',' :: (write item ++ writeItems rest)

def writeFields : List (String × Json) → List Char
  | [] => ['\x7d']
  | (key, value) :: rest =>
    ',' :: (writeString key ++ ':' :: (write value ++ writeFields rest))

end

def newLine (level : Nat) : List Char := '\n' :: List.replicate (2 * level) ' '

mutual

def writeWide (level : Nat) : Json → List Char
  | .null => "null".toList
  | .bool b => writeBool b
  | .number n => n.write
  | .string s => writeString s
  | .array [] => ['[', ']']
  | .array (item :: rest) =>
    '[' :: (newLine (level + 1) ++ (writeWide (level + 1) item ++ writeWideItems level rest))
  | .object [] => ['\x7b', '\x7d']
  | .object ((key, value) :: rest) =>
    '\x7b' :: (newLine (level + 1) ++ (writeString key ++ ':' :: ' ' ::
      (writeWide (level + 1) value ++ writeWideFields level rest)))

def writeWideItems (level : Nat) : List Json → List Char
  | [] => newLine level ++ [']']
  | item :: rest =>
    ',' :: (newLine (level + 1) ++ (writeWide (level + 1) item ++ writeWideItems level rest))

def writeWideFields (level : Nat) : List (String × Json) → List Char
  | [] => newLine level ++ ['\x7d']
  | (key, value) :: rest =>
    ',' :: (newLine (level + 1) ++ (writeString key ++ ':' :: ' ' ::
      (writeWide (level + 1) value ++ writeWideFields level rest)))

end

def text (json : Json) : String := String.ofList json.write

def wideText (json : Json) : String := String.ofList (json.writeWide 0)

end RoadRegistry.Json
