import RoadRegistry.Dictionary
import RoadRegistry.Json.Number

namespace RoadRegistry

inductive Json where
  | null
  | bool (value : Bool)
  | number (value : Json.Number)
  | string (value : String)
  | array (items : List Json)
  | object (fields : List (String × Json))
  deriving Repr

namespace Json

instance : Inhabited Json := ⟨.null⟩

mutual

/-- Equality of values: numbers by value within their kind, fields pairwise in their order. -/
def valueEq : Json → Json → Bool
  | .null, .null => true
  | .bool a, .bool b => a == b
  | .number a, .number b => a.valueEq b
  | .string a, .string b => a == b
  | .array a, .array b => itemsEq a b
  | .object a, .object b => fieldsEq a b
  | _, _ => false

def itemsEq : List Json → List Json → Bool
  | [], [] => true
  | a :: as, b :: bs => valueEq a b && itemsEq as bs
  | _, _ => false

def fieldsEq : List (String × Json) → List (String × Json) → Bool
  | [], [] => true
  | (k, a) :: as, (l, b) :: bs => k == l && valueEq a b && fieldsEq as bs
  | _, _ => false

end

def ofFields (pairs : List (String × Json)) : Json := .object (Dictionary.ofList pairs).entries

def lookup? (key : String) (fields : List (String × Json)) : Option Json :=
  (fields.find? (fun field => field.1 = key)).map (·.2)

end Json

end RoadRegistry
