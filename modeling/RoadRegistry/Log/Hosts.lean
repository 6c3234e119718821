import RoadRegistry.Text.Blank

namespace RoadRegistry

namespace Hosts

def parts (bootstrap : String) : List (List Char) := bootstrap.toList.splitOn ','

def parse (bootstrap : String) : List String :=
  (((parts bootstrap).map Text.trim).filter fun host => !host.isEmpty).map String.ofList

end Hosts

end RoadRegistry
