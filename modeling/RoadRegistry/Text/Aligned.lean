namespace RoadRegistry.Text

inductive Alignment where
  | left
  | right
  | center
  deriving DecidableEq, Repr

structure Field where
  alignment : Alignment := .left
  fill : Char := ' '
  width : Nat := 0
  limit : Option Nat := none

/-- The text is cut to the limit first and then filled up to the width; of an odd number of fill
characters around a centred text, the extra one goes to its right. -/
def Field.write (field : Field) (text : String) : String :=
  let shown := match field.limit with
    | some limit => text.toList.take limit
    | none => text.toList
  let missing := field.width - shown.length
  let before := match field.alignment with
    | .left => 0
    | .right => missing
    | .center => missing / 2
  String.ofList
    (List.replicate before field.fill ++ shown ++ List.replicate (missing - before) field.fill)

end RoadRegistry.Text
