import RoadRegistry.Text.Numeral

namespace RoadRegistry.Toml.Writer

def isControl (c : Char) : Bool :=
  (c.toNat ≤ 0x1F && c != '\t' && c != '\n') || c.toNat = 0x7F

def longestRow (mark : Char) (text : List Char) : Nat := go 0 text
where
  go (row : Nat) : List Char → Nat
    | [] => row
    | c :: rest => if c = mark then go (row + 1) rest else max row (go 0 rest)

def hexCode (c : Char) : List Char :=
  let digit (n : Nat) : Char := (Nat.digitChar n).toUpper
  ['0', '0', digit (c.toNat / 16), digit (c.toNat % 16)]

/-- The inside of a basic string. `spare` is how many double quotes may stand in a row, and `row`
how many do right here. A line end needs no escape where quotes may stand. -/
def escape (spare row : Nat) : List Char → List Char
  | [] => []
  | c :: rest =>
    if c = '"' then
      if spare ≤ row then '\\' :: '"' :: escape spare 0 rest else '"' :: escape spare (row + 1) rest
    else if c = '\x08' then '\\' :: 'b' :: escape spare 0 rest
    else if c = '\t' then '\\' :: 't' :: escape spare 0 rest
    else if c = '\n' && spare = 0 then '\\' :: 'n' :: escape spare 0 rest
    else if c = '\x0c' then '\\' :: 'f' :: escape spare 0 rest
    else if c = '\r' then '\\' :: 'r' :: escape spare 0 rest
    else if c = '\\' then '\\' :: '\\' :: escape spare 0 rest
    else if isControl c then '\\' :: 'u' :: (hexCode c ++ escape spare 0 rest)
    else c :: escape spare 0 rest

def between (marks inside : List Char) : List Char := marks ++ inside ++ marks

def opening (text : List Char) : List Char := if text.contains '\n' then ['\n'] else []

def basicMarks : List Char := ['"', '"', '"']

def literalMarks : List Char := ['\'', '\'', '\'']

def writeString (text : String) : List Char :=
  let chars := text.toList
  let control := chars.any isControl
  let lines := chars.contains '\n'
  let backslash := chars.contains '\\'
  let quotes := longestRow '"' chars
  let ticks := longestRow '\'' chars
  if !control && !backslash && quotes = 0 && !lines then between ['"'] (escape 0 0 chars)
  else if !control && ticks = 0 && !lines then between ['\''] chars
  else if !control && !backslash && quotes ≤ 2 then
    between basicMarks (opening chars ++ escape 2 0 chars)
  else if !control && ticks ≤ 2 then between literalMarks (opening chars ++ chars)
  else if lines then between basicMarks (opening chars ++ escape 2 0 chars)
  else between ['"'] (escape 0 0 chars)

structure Setting where
  name : String
  value : List Char

namespace Setting

def string (name : String) (text : String) : Setting := ⟨name, writeString text⟩

def nat (name : String) (n : Nat) : Setting := ⟨name, Text.decimal n⟩

def bool (name : String) (b : Bool) : Setting :=
  ⟨name, if b then "true".toList else "false".toList⟩

def write (setting : Setting) : List Char :=
  setting.name.toList ++ " = ".toList ++ setting.value ++ ['\n']

end Setting

structure Section where
  name : String
  settings : List Setting

def Section.write (table : Section) : List Char :=
  '[' :: (table.name.toList ++ [']', '\n']) ++ table.settings.flatMap Setting.write

def writeSections (sections : List Section) : List Char :=
  ['\n'].intercalate (sections.map Section.write)

end RoadRegistry.Toml.Writer
