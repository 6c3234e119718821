namespace RoadRegistry

abbrev Bytes := List UInt8

def Bytes.ofString (text : String) : Bytes :=
  text.toList.flatMap String.utf8EncodeChar

end RoadRegistry
