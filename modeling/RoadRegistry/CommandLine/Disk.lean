import RoadRegistry.Dictionary

namespace RoadRegistry.CommandLine

structure Disk where
  /-- Contents by path, without empty names or dots in it. -/
  files : Dictionary String String := .empty

namespace Disk

def joined (names : List String) : String := "/".intercalate names

def file? (disk : Disk) (names : List String) : Option String := disk.files.get? (joined names)

def isDirectory (disk : Disk) (names : List String) : Bool :=
  names.isEmpty ||
    disk.files.keys.any fun path => ((joined names).toList ++ ['/']).isPrefixOf path.toList

inductive Place where
  | inside (names : List String)
  | above
  deriving DecidableEq, Repr

def follow (disk : Disk) : List String → Place → Option Place
  | [], place => some place
  | name :: rest, .above =>
    if name = "" || name = "." || name = ".." then follow disk rest .above else none
  | name :: rest, .inside names =>
    if !disk.isDirectory names then none
    else if name = "" || name = "." then follow disk rest (.inside names)
    else if name = ".." then
      follow disk rest (if names.isEmpty then .above else .inside names.dropLast)
    else follow disk rest (.inside (names ++ [name]))

def place? (disk : Disk) (path : String) : Option Place :=
  match path.toList with
  | [] => none
  | '/' :: rest => disk.follow (namesOf rest) .above
  | chars => disk.follow (namesOf chars) (.inside [])
where
  namesOf (chars : List Char) : List String := (chars.splitOn '/').map String.ofList

def hasPath (disk : Disk) (path : String) : Bool :=
  match disk.place? path with
  | some (.inside names) => (disk.file? names).isSome || disk.isDirectory names
  | some .above => true
  | none => false

def read? (disk : Disk) (path : String) : Option String :=
  match disk.place? path with
  | some (.inside names) => disk.file? names
  | _ => none

def write? (disk : Disk) (path content : String) : Option Disk :=
  match disk.place? path with
  | some (.inside names) =>
    if disk.isDirectory names then none
    else some { disk with files := disk.files.insert (joined names) content }
  | _ => none

end Disk

end RoadRegistry.CommandLine
