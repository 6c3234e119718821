import RoadRegistry.Proofs.Json.Floats
import RoadRegistry.Proofs.Json.Strings

namespace RoadRegistry.Json

namespace Number

def reread : Number → Number
  | .integer value lower upper => .integer value lower upper
  | .float x => ((parse (writeFloat x)).map (·.1)).getD (.float x)

def Starts (text : List Char) : Prop := ∃ c rest, text = c :: rest ∧ (isDigit c = true ∨ c = '-')

theorem Spelling.Valid.starts {s : Spelling} (valid : s.Valid) : Starts s.text := by
  obtain ⟨first, more, whole⟩ := List.exists_cons_of_ne_nil valid.some_whole
  have digit := valid.whole first (whole ▸ List.mem_cons_self)
  unfold Spelling.text
  rw [whole]
  split
  · exact ⟨'-', _, rfl, .inr rfl⟩
  · exact ⟨first, _, rfl, .inl digit⟩

theorem starts_write (n : Number) : Starts n.write := by
  cases n with
  | integer value lower upper =>
    rw [write, ← integerSpelling_text]
    exact (integerSpelling_valid value).starts
  | float x =>
    rw [write, ← floatSpelling_text]
    exact (floatSpelling_valid x).starts

theorem parse_write (n : Number) {rest : List Char} (stops : Stops rest) :
    parse (n.write ++ rest) = some (n.reread, rest) := by
  cases n with
  | integer value lower upper => exact parse_integer value lower upper stops
  | float x =>
    obtain ⟨n, read⟩ := parse_writeFloat x
    have alone := read [] stops_nil
    rw [List.append_nil] at alone
    rw [write, read rest stops, reread, alone]
    rfl

end Number

mutual

def reread : Json → Json
  | .null => .null
  | .bool value => .bool value
  | .number n => .number n.reread
  | .string s => .string s
  | .array items => .array (rereadItems items)
  | .object fields => ofFields (rereadFields fields)

def rereadItems : List Json → List Json
  | [] => []
  | item :: rest => item.reread :: rereadItems rest

def rereadFields : List (String × Json) → List (String × Json)
  | [] => []
  | (key, value) :: rest => (key, value.reread) :: rereadFields rest

end

theorem rereadItems_eq_map (items : List Json) : rereadItems items = items.map reread := by
  induction items with
  | nil => rfl
  | cons item rest ih => rw [rereadItems, ih, List.map_cons]

theorem rereadFields_eq_map (fields : List (String × Json)) :
    rereadFields fields = fields.map fun field => (field.1, field.2.reread) := by
  induction fields with
  | nil => rfl
  | cons field rest ih => rw [rereadFields, ih, List.map_cons]

mutual

def depth : Json → Nat
  | .array items => depthItems items + 1
  | .object fields => depthFields fields + 1
  | _ => 0

def depthItems : List Json → Nat
  | [] => 0
  | item :: rest => max item.depth (depthItems rest)

def depthFields : List (String × Json) → Nat
  | [] => 0
  | (_, value) :: rest => max value.depth (depthFields rest)

end

theorem skipSpace_cons {c : Char} (dark : isSpace c = false) (rest : List Char) :
    skipSpace (c :: rest) = c :: rest := by
  rw [skipSpace, List.dropWhile_cons, dark, if_neg Bool.false_ne_true]

theorem isSpace_of_starts {c : Char} (first : Number.isDigit c = true ∨ c = '-') :
    isSpace c = false := by
  cases space : isSpace c with
  | false => rfl
  | true =>
    simp only [isSpace, Bool.or_eq_true, decide_eq_true_eq] at space
    rcases space with ((rfl | rfl) | rfl) | rfl <;> revert first <;> decide

theorem write_eq_cons (json : Json) :
    ∃ c rest, json.write = c :: rest ∧ isSpace c = false ∧ c ≠ ']' := by
  cases json with
  | null => exact ⟨'n', _, rfl, rfl, by decide⟩
  | bool value => cases value <;> exact ⟨_, _, rfl, rfl, by decide⟩
  | number n =>
    obtain ⟨c, rest, same, first⟩ := n.starts_write
    refine ⟨c, rest, same, isSpace_of_starts first, ?_⟩
    rintro rfl
    revert first
    decide
  | string s => exact ⟨'"', _, rfl, rfl, by decide⟩
  | array items => cases items <;> exact ⟨'[', _, rfl, rfl, by decide⟩
  | object fields => cases fields <;> exact ⟨'\x7b', _, rfl, rfl, by decide⟩

theorem readValue_number {text : List Char} (starts : Number.Starts text) (fuel nesting : Nat) :
    readValue (fuel + 1) nesting text =
      (Number.parse text).map fun (n, rest) => (.number n, rest) := by
  obtain ⟨c, rest, rfl, first⟩ := starts
  rw [readValue, skipSpace_cons (isSpace_of_starts first)]
  split
  all_goals first
    | rfl
    | next same =>
      cases same
      exact absurd first (by decide)

theorem stops_writeItems (items : List Json) (rest : List Char) :
    Number.Stops (writeItems items ++ rest) := by
  cases items <;> exact Number.stops_cons (by decide)

theorem stops_writeFields (fields : List (String × Json)) (rest : List Char) :
    Number.Stops (writeFields fields ++ rest) := by
  cases fields <;> exact Number.stops_cons (by decide)

theorem writeString_append (key : String) (rest : List Char) :
    writeString key ++ rest = '"' :: (key.toList.flatMap escapeChar ++ '"' :: rest) := by
  rw [writeString, List.cons_append, List.append_assoc, List.singleton_append]

theorem readValue_array {text : List Char} (item : Json) (fuel nesting : Nat) :
    readValue (fuel + 1) (nesting + 1) ('[' :: (item.write ++ text)) =
      (readItems fuel nesting (item.write ++ text)).map
        fun (items, rest) => (.array items, rest) := by
  obtain ⟨c, tail, written, dark, inside⟩ := item.write_eq_cons
  rw [written, List.cons_append]
  simp only [readValue, skipSpace_cons (c := '[') rfl, skipSpace_cons dark]
  split
  · next same =>
    cases same
    exact absurd rfl inside
  · rfl

theorem readValue_object (key : String) (text : List Char) (fuel nesting : Nat) :
    readValue (fuel + 1) (nesting + 1) ('\x7b' :: (writeString key ++ text)) =
      (readFields fuel nesting (writeString key ++ text)).map
        fun (fields, rest) => (ofFields fields, rest) := by
  rw [writeString_append]
  simp only [readValue, skipSpace_cons (c := '\x7b') rfl, skipSpace_cons (c := '"') rfl]
  rfl

variable {fuel nesting : Nat} {rest : List Char}

section steps

variable {item value : Json} {key : String}

theorem readItems_last
    (first : readValue fuel nesting (item.write ++ (writeItems [] ++ rest)) =
      if item.depth ≤ nesting then some (item.reread, writeItems [] ++ rest) else none) :
    readItems (fuel + 1) nesting (item.write ++ (writeItems [] ++ rest)) =
      if depthItems [item] ≤ nesting then some (rereadItems [item], rest) else none := by
  have whole : depthItems [item] ≤ nesting ↔ item.depth ≤ nesting := by
    rw [depthItems, depthItems]
    omega
  rw [readItems, first]
  by_cases shallow : item.depth ≤ nesting
  · rw [if_pos shallow, if_pos (whole.mpr shallow)]
    rfl
  · rw [if_neg shallow, if_neg (mt whole.mp shallow)]

theorem readItems_next {next : Json} {more : List Json}
    (first : readValue fuel nesting (item.write ++ (writeItems (next :: more) ++ rest)) =
      if item.depth ≤ nesting then some (item.reread, writeItems (next :: more) ++ rest) else none)
    (later : readItems fuel nesting (next.write ++ (writeItems more ++ rest)) =
      if depthItems (next :: more) ≤ nesting then some (rereadItems (next :: more), rest)
      else none) :
    readItems (fuel + 1) nesting (item.write ++ (writeItems (next :: more) ++ rest)) =
      if depthItems (item :: next :: more) ≤ nesting then
        some (rereadItems (item :: next :: more), rest)
      else none := by
  have whole : depthItems (item :: next :: more) ≤ nesting ↔
      item.depth ≤ nesting ∧ depthItems (next :: more) ≤ nesting := by
    rw [depthItems]
    omega
  rw [readItems, first]
  by_cases shallow : item.depth ≤ nesting
  · rw [if_pos shallow, writeItems, List.cons_append, List.append_assoc]
    simp only [skipSpace_cons (c := ',') rfl, later, whole, shallow, true_and]
    split <;> rfl
  · rw [if_neg shallow, if_neg fun both => shallow (whole.mp both).1]

theorem readFields_last
    (first : readValue fuel nesting (value.write ++ (writeFields [] ++ rest)) =
      if value.depth ≤ nesting then some (value.reread, writeFields [] ++ rest) else none) :
    readFields (fuel + 1) nesting
        (writeString key ++ ':' :: (value.write ++ (writeFields [] ++ rest))) =
      if depthFields [(key, value)] ≤ nesting then some (rereadFields [(key, value)], rest)
      else none := by
  have whole : depthFields [(key, value)] ≤ nesting ↔ value.depth ≤ nesting := by
    rw [depthFields, depthFields]
    omega
  rw [writeString_append, readFields]
  simp only [skipSpace_cons (c := '"') rfl, skipSpace_cons (c := ':') rfl, readString_write, first,
    String.ofList_toList]
  by_cases shallow : value.depth ≤ nesting
  · rw [if_pos shallow, if_pos (whole.mpr shallow)]
    rfl
  · rw [if_neg shallow, if_neg (mt whole.mp shallow)]

theorem readFields_next {next : String × Json} {more : List (String × Json)}
    (first : readValue fuel nesting (value.write ++ (writeFields (next :: more) ++ rest)) =
      if value.depth ≤ nesting then some (value.reread, writeFields (next :: more) ++ rest)
      else none)
    (later : readFields fuel nesting
        (writeString next.1 ++ ':' :: (next.2.write ++ (writeFields more ++ rest))) =
      if depthFields (next :: more) ≤ nesting then some (rereadFields (next :: more), rest)
      else none) :
    readFields (fuel + 1) nesting
        (writeString key ++ ':' :: (value.write ++ (writeFields (next :: more) ++ rest))) =
      if depthFields ((key, value) :: next :: more) ≤ nesting then
        some (rereadFields ((key, value) :: next :: more), rest)
      else none := by
  have whole : depthFields ((key, value) :: next :: more) ≤ nesting ↔
      value.depth ≤ nesting ∧ depthFields (next :: more) ≤ nesting := by
    rw [depthFields]
    omega
  rw [writeString_append, readFields]
  simp only [skipSpace_cons (c := '"') rfl, skipSpace_cons (c := ':') rfl, readString_write, first,
    String.ofList_toList]
  by_cases shallow : value.depth ≤ nesting
  · rw [if_pos shallow, writeFields, List.cons_append, List.append_assoc, List.cons_append,
      List.append_assoc]
    simp only [skipSpace_cons (c := ',') rfl, later, whole, shallow, true_and]
    split <;> rfl
  · rw [if_neg shallow, if_neg fun both => shallow (whole.mp both).1]

end steps

mutual

/-- A document reads back, with whatever follows it left, when it is not nested too deeply. -/
theorem readValue_write (json : Json) (fuel nesting : Nat) {rest : List Char}
    (enough : 2 * json.write.length ≤ fuel + 1) (stops : Number.Stops rest) :
    readValue (fuel + 1) nesting (json.write ++ rest) =
      if json.depth ≤ nesting then some (json.reread, rest) else none := by
  match json, nesting, enough with
  | .null, _, _ => rfl
  | .bool value, _, _ => cases value <;> rfl
  | .number n, nesting, _ =>
    have starts : Number.Starts (n.write ++ rest) := by
      obtain ⟨c, tail, same, first⟩ := n.starts_write
      exact ⟨c, tail ++ rest, by rw [same, List.cons_append], first⟩
    rw [write, readValue_number starts, n.parse_write stops]
    rfl
  | .string s, nesting, _ =>
    have flat : (string s).depth = 0 := rfl
    rw [write, writeString_append, flat, if_pos (Nat.zero_le _)]
    simp only [readValue, skipSpace_cons (c := '"') rfl, readString_write, Option.map_some,
      String.ofList_toList, reread]
  | .array [], 0, _ => rfl
  | .array [], _ + 1, _ => rfl
  | .array (_ :: _), 0, _ => rfl
  | .array (item :: items), nesting + 1, enough =>
    have shorter : 2 * (item.write ++ writeItems items).length ≤ fuel := by
      rw [write, List.length_cons] at enough
      omega
    rw [write, List.cons_append, List.append_assoc, readValue_array,
      readItems_write item items nesting shorter, depth, reread]
    simp only [Nat.add_le_add_iff_right]
    split <;> rfl
  | .object [], 0, _ => rfl
  | .object [], _ + 1, _ => rfl
  | .object (_ :: _), 0, _ => rfl
  | .object ((key, value) :: fields), nesting + 1, enough =>
    have shorter : 2 * (writeString key ++ ':' :: (value.write ++ writeFields fields)).length ≤
        fuel := by
      rw [write, List.length_cons] at enough
      omega
    rw [write, List.cons_append, List.append_assoc, List.cons_append, List.append_assoc,
      readValue_object, readFields_write key value fields nesting shorter, depth, reread]
    simp only [Nat.add_le_add_iff_right]
    split <;> rfl
termination_by sizeOf json

theorem readItems_write (item : Json) (items : List Json) {fuel : Nat} (nesting : Nat)
    {rest : List Char} (enough : 2 * (item.write ++ writeItems items).length ≤ fuel) :
    readItems fuel nesting (item.write ++ (writeItems items ++ rest)) =
      if depthItems (item :: items) ≤ nesting then some (rereadItems (item :: items), rest)
      else none := by
  have lengths : 2 * (item.write.length + (writeItems items).length) ≤ fuel := by
    rwa [List.length_append] at enough
  have closed : 0 < (writeItems items).length := by cases items <;> exact Nat.succ_pos _
  have split : fuel = fuel - 2 + 2 := by omega
  have first := readValue_write item (fuel - 2) nesting (by omega) (stops_writeItems items rest)
  rw [split]
  match items, enough with
  | [], _ => exact readItems_last first
  | next :: more, _ =>
    apply readItems_next first
    apply readItems_write next more
    rw [writeItems, List.length_cons] at lengths
    omega
termination_by sizeOf (item :: items)

theorem readFields_write (key : String) (value : Json) (fields : List (String × Json))
    {fuel : Nat} (nesting : Nat) {rest : List Char}
    (enough : 2 * (writeString key ++ ':' :: (value.write ++ writeFields fields)).length ≤ fuel) :
    readFields fuel nesting
        (writeString key ++ ':' :: (value.write ++ (writeFields fields ++ rest))) =
      if depthFields ((key, value) :: fields) ≤ nesting then
        some (rereadFields ((key, value) :: fields), rest)
      else none := by
  have lengths : 2 * ((writeString key).length + (value.write.length +
      (writeFields fields).length + 1)) ≤ fuel := by
    rwa [List.length_append, List.length_cons, List.length_append] at enough
  have split : fuel = fuel - 2 + 2 := by omega
  have first := readValue_write value (fuel - 2) nesting (by omega) (stops_writeFields fields rest)
  rw [split]
  match fields, enough with
  | [], _ => exact readFields_last first
  | (next, document) :: more, _ =>
    apply readFields_next first
    apply readFields_write next document more
    rw [writeFields, List.length_cons] at lengths
    omega
termination_by sizeOf ((key, value) :: fields)

end

/-- What is written reads back as it was, but for the order of fields and the digits of numbers,
unless it is nested too deeply. -/
theorem parse_write (json : Json) :
    parse json.write = if json.depth ≤ nestingLimit then some json.reread else none := by
  have read := json.readValue_write (2 * json.write.length + 1) nestingLimit (by omega)
    Number.stops_nil
  rw [List.append_nil] at read
  rw [parse, read]
  by_cases shallow : json.depth ≤ nestingLimit
  · rw [if_pos shallow, if_pos shallow]
    rfl
  · rw [if_neg shallow, if_neg shallow]

end RoadRegistry.Json
