import RoadRegistry.Toml.Basic

namespace RoadRegistry.Toml

namespace Fields

def replace (key : String) (value : Value) (fields : Fields) : Fields :=
  fields.map fun field => if field.1 = key then (key, value) else field

/-- Follows a path to a table and changes it there. Tables that are missing on the way are made; of
tables in double brackets the last one is meant. -/
def within (isDotted : Bool) (change : Origin → Fields → Option Fields) :
    List String → Origin → Fields → Option Fields
  | [], origin, fields => change origin fields
  | key :: path, _, fields =>
    match lookup? key fields with
    | none =>
      let origin := if isDotted then .dotted else .passage
      (within isDotted change path origin []).map fun inner =>
        fields ++ [(key, .table origin inner)]
    | some (.table origin inner) =>
      if origin = .braces || (isDotted && origin = .header) then none
      else (within isDotted change path origin inner).map fun inner =>
        replace key (.table origin inner) fields
    | some (.tables items) =>
      match items.getLast? with
      | none => none
      | some last => (within isDotted change path .header last).map fun inner =>
        replace key (.tables (items.dropLast ++ [inner])) fields
    | some _ => none

/-- No key gets two values, and dotted keys add only to tables that dotted keys made. -/
def set (path : List String) (key : String) (value : Value) (origin : Origin) (fields : Fields) :
    Option Fields :=
  within true
    (fun origin fields =>
      -- The table that gets the value was made by dotted keys exactly when the key is dotted.
      if (origin == .dotted) == path.isEmpty || (lookup? key fields).isSome then none
      else some (fields ++ [(key, value)]))
    path origin fields

def openTable (path : List String) (key : String) (fields : Fields) : Option Fields :=
  within false
    (fun _ fields =>
      match lookup? key fields with
      | none => some (fields ++ [(key, .table .header [])])
      | some (.table .passage inner) => some (replace key (.table .header inner) fields)
      | some _ => none)
    path .header fields

def openNext (path : List String) (key : String) (fields : Fields) : Option Fields :=
  within false
    (fun _ fields =>
      match lookup? key fields with
      | none => some (fields ++ [(key, .tables [[]])])
      | some (.tables items) => some (replace key (.tables (items ++ [[]])) fields)
      | some _ => none)
    path .header fields

def ofPairs (pairs : List (List String × String × Value)) : Option Fields :=
  pairs.foldlM (fun fields (path, key, value) => set path key value .header fields) []

end Fields

structure Draft where
  fields : Fields := []
  current : List String := []

def Draft.add (draft : Draft) : Statement → Option Draft
  | .keyValue path key value =>
    (Fields.within false (Fields.set path key value) draft.current .header draft.fields).map
      fun fields => { draft with fields }
  | .header path key =>
    (Fields.openTable path key draft.fields).map fun fields => ⟨fields, path ++ [key]⟩
  | .arrayHeader path key =>
    (Fields.openNext path key draft.fields).map fun fields => ⟨fields, path ++ [key]⟩

def ofStatements (statements : List Statement) : Option Fields :=
  (statements.foldlM Draft.add {}).map Draft.fields

end RoadRegistry.Toml
