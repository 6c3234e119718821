namespace RoadRegistry.Toml

/-- How a table came to be, which decides what may still be added to it. -/
inductive Origin where
  | braces
  | header
  /-- Named on the way to another table by a header. -/
  | passage
  /-- Named on the way to a value by a dotted key. -/
  | dotted
  deriving DecidableEq, Repr

inductive Value where
  | string (text : String)
  | integer (value : Int)
  | float (text : String)
  | boolean (value : Bool)
  | dateTime (text : String)
  | array (items : List Value)
  | table (origin : Origin) (fields : List (String × Value))
  /-- Tables opened one after the other by headers in double brackets. -/
  | tables (items : List (List (String × Value)))
  deriving Repr

abbrev Fields := List (String × Value)

def lookup? (key : String) (fields : Fields) : Option Value :=
  (fields.find? (fun field => field.1 = key)).map (·.2)

inductive Statement where
  | keyValue (path : List String) (key : String) (value : Value)
  | header (path : List String) (key : String)
  | arrayHeader (path : List String) (key : String)
  deriving Repr

end RoadRegistry.Toml
