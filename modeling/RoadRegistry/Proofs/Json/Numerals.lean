import RoadRegistry.Json.Number

namespace RoadRegistry.Json.Number

def Breaks (text : List Char) : Prop := ∀ c ∈ text.head?, isDigit c = false

/-- The text does not go on with anything that could belong to a number. -/
def Stops (text : List Char) : Prop :=
  ∀ c ∈ text.head?, isDigit c = false ∧ c ≠ '.' ∧ c ≠ 'e' ∧ c ≠ 'E'

theorem breaks_cons {c : Char} {text : List Char} (other : isDigit c = false) :
    Breaks (c :: text) := by
  intro first member
  rw [← Option.mem_some_iff.mp member]
  exact other

theorem Stops.breaks {text : List Char} (stops : Stops text) : Breaks text :=
  fun c member => (stops c member).1

theorem stops_nil : Stops [] := by
  intro c member
  cases member

theorem stops_cons {c : Char} {text : List Char}
    (other : isDigit c = false ∧ c ≠ '.' ∧ c ≠ 'e' ∧ c ≠ 'E') : Stops (c :: text) := by
  intro first member
  rw [← Option.mem_some_iff.mp member]
  exact other

theorem digits?_append {run text : List Char} (some_run : run ≠ [])
    (digits : ∀ c ∈ run, isDigit c = true) (breaks : Breaks text) :
    digits? (run ++ text) = some (run, text) := by
  have taken : text.takeWhile isDigit = [] := by
    cases text with
    | nil => rfl
    | cons c rest => rw [List.takeWhile_cons, breaks c rfl, if_neg Bool.false_ne_true]
  have left : text.dropWhile isDigit = text := by
    cases text with
    | nil => rfl
    | cons c rest => rw [List.dropWhile_cons, breaks c rfl, if_neg Bool.false_ne_true]
  unfold digits?
  rw [List.takeWhile_append_of_pos digits, List.dropWhile_append_of_pos digits, taken, left,
    List.append_nil]
  cases run with
  | nil => exact absurd rfl some_run
  | cons c rest => rfl

/-- A number as it may be spelled; a fraction or an exponent that is missing is not written. -/
structure Spelling where
  negative : Bool
  whole : List Char
  fraction : List Char := []
  exponent : Option (Bool × List Char) := none

namespace Spelling

def exponentText (s : Spelling) : List Char :=
  match s.exponent with
  | none => []
  | some (negative, run) => 'e' :: (if negative then '-' else '+') :: run

def fractionText (s : Spelling) : List Char :=
  if s.fraction = [] then [] else '.' :: s.fraction

def text (s : Spelling) : List Char :=
  (if s.negative then ['-'] else []) ++ s.whole ++ s.fractionText ++ s.exponentText

def exponentValue (s : Spelling) : Int :=
  match s.exponent with
  | none => 0
  | some (negative, run) =>
    let magnitude : Int := Nat.ofDigitChars 10 run 0
    if negative then -magnitude else magnitude

def literal (s : Spelling) : Literal :=
  ⟨s.negative, s.whole, s.fraction, s.exponentValue, s.fraction.isEmpty && s.exponent.isNone⟩

structure Valid (s : Spelling) : Prop where
  some_whole : s.whole ≠ []
  whole : ∀ c ∈ s.whole, isDigit c = true
  leading : ∀ rest, s.whole = '0' :: rest → rest = []
  fraction : ∀ c ∈ s.fraction, isDigit c = true
  exponent : ∀ negative run, s.exponent = some (negative, run) →
    run ≠ [] ∧ ∀ c ∈ run, isDigit c = true

variable {s : Spelling} {rest : List Char}

theorem whole?_append (valid : s.Valid) {text : List Char} (breaks : Breaks text) :
    whole? (s.whole ++ text) = some (s.whole, text) := by
  unfold whole?
  rw [digits?_append valid.some_whole valid.whole breaks]
  split
  · next second more left same =>
    have whole : s.whole = '0' :: second :: more := congrArg Prod.fst (Option.some.inj same)
    cases valid.leading _ whole
  · rfl

theorem fraction?_append (valid : s.Valid) {text : List Char} (breaks : Breaks text)
    (pointless : s.fraction = [] → ∀ c ∈ text.head?, c ≠ '.') :
    fraction? (s.fractionText ++ text) = some (s.fraction, text) := by
  unfold fractionText
  by_cases none : s.fraction = []
  · rw [if_pos none, none]
    have plain := pointless none
    cases text with
    | nil => rfl
    | cons c rest =>
      unfold fraction?
      split
      · next same =>
        cases same
        exact absurd rfl (plain '.' rfl)
      · rfl
  · rw [if_neg none]
    exact digits?_append none valid.fraction breaks

theorem exponent?_append (valid : s.Valid) (stops : Stops rest) :
    exponent? (s.exponentText ++ rest) = some (s.exponent.map fun _ => s.exponentValue, rest) := by
  unfold exponentText exponentValue
  cases written : s.exponent with
  | none =>
    cases rest with
    | nil => rfl
    | cons c rest =>
      obtain ⟨_, _, lower, upper⟩ := stops c rfl
      unfold exponent?
      split
      · next same =>
        cases same
        exact absurd rfl lower
      · next same =>
        cases same
        exact absurd rfl upper
      · rfl
  | some exponent =>
    obtain ⟨negative, run⟩ := exponent
    obtain ⟨some_run, digits⟩ := valid.exponent negative run written
    have read := digits?_append some_run digits stops.breaks
    cases negative with
    | false => simp [exponent?, exponentDigits?, read]
    | true => simp [exponent?, exponentDigits?, read]

theorem Valid.unsigned (valid : s.Valid) (text tail : List Char) :
    s.whole ++ text ≠ '-' :: tail := by
  intro same
  cases whole : s.whole with
  | nil => exact valid.some_whole whole
  | cons c rest =>
    have digit := valid.whole c (whole ▸ List.mem_cons_self)
    rw [whole] at same
    obtain rfl := (List.cons.inj same).1
    cases digit

theorem exponentText_stops (s : Spelling) (stops : Stops rest) :
    ∀ c ∈ (s.exponentText ++ rest).head?, isDigit c = false ∧ c ≠ '.' := by
  unfold exponentText
  cases s.exponent with
  | none => exact fun c member => ⟨(stops c member).1, (stops c member).2.1⟩
  | some exponent =>
    intro c member
    rw [← Option.mem_some_iff.mp member]
    decide

theorem fractionText_breaks (s : Spelling) (stops : Stops rest) :
    Breaks (s.fractionText ++ (s.exponentText ++ rest)) := by
  unfold fractionText
  split
  · exact fun c member => (exponentText_stops s stops c member).1
  · exact breaks_cons rfl

theorem parse_append (valid : s.Valid) (stops : Stops rest) :
    parse (s.text ++ rest) = s.literal.toNumber.map fun n => (n, rest) := by
  have after := exponentText_stops s stops
  have read_whole := whole?_append valid (fractionText_breaks s stops)
  have read_fraction := fraction?_append valid (fun c member => (after c member).1)
    (fun _ c member => (after c member).2)
  have read_exponent := exponent?_append valid stops
  have literal : (⟨s.negative, s.whole, s.fraction,
      (s.exponent.map fun _ => s.exponentValue).getD 0,
      s.fraction.isEmpty && (s.exponent.map fun _ => s.exponentValue).isNone⟩ : Literal) =
        s.literal := by
    unfold Spelling.literal exponentValue
    cases s.exponent <;> rfl
  rw [← literal]
  unfold parse text
  simp only [List.append_assoc]
  split
  · next tail same =>
    cases sign : s.negative with
    | false =>
      rw [sign] at same
      exact absurd same (valid.unsigned _ tail)
    | true =>
      rw [sign] at same
      have behind : s.whole ++ (s.fractionText ++ (s.exponentText ++ rest)) = tail :=
        (List.cons.inj same).2
      simp only [← behind, read_whole, read_fraction, read_exponent, Option.bind_eq_bind,
        Option.bind_some]
      cases Literal.toNumber _ <;> rfl
  · next text unsigned =>
    cases sign : s.negative with
    | true =>
      rw [sign] at unsigned
      exact absurd rfl (unsigned _)
    | false =>
      simp only [Bool.false_eq_true, ite_false, List.nil_append, read_whole, read_fraction,
        read_exponent, Option.bind_eq_bind, Option.bind_some]
      cases Literal.toNumber _ <;> rfl

end Spelling

theorem isDigit_of_mem_decimal {n : Nat} {c : Char} (member : c ∈ Text.decimal n) :
    isDigit c = true :=
  Nat.isDigit_of_mem_toDigits (by decide) (by decide) member

theorem head_decimal_ne_zero (n : Nat) (positive : 0 < n) (rest : List Char) :
    Text.decimal n ≠ '0' :: rest := by
  induction n using Nat.strongRecOn generalizing rest with
  | ind n ih =>
    by_cases small : n < 10
    · rw [Text.decimal, Nat.toDigits_of_lt_base small]
      intro same
      have nonzero : ∀ d < 10, 0 < d → Nat.digitChar d ≠ '0' := by decide
      exact nonzero n small positive (List.cons.inj same).1
    · have split := Nat.toDigits_append_toDigits (b := 10) (n := n / 10) (d := n % 10)
        (by decide) (by omega) (by omega)
      rw [Nat.div_add_mod] at split
      rw [Text.decimal, ← split]
      intro same
      cases front : Nat.toDigits 10 (n / 10) with
      | nil => exact Nat.toDigits_ne_nil front
      | cons c more =>
        rw [front, List.cons_append] at same
        rw [(List.cons.inj same).1] at front
        exact ih (n / 10) (by omega) (by omega) more front

theorem leading_decimal (n : Nat) (rest : List Char) (same : Text.decimal n = '0' :: rest) :
    rest = [] := by
  cases n with
  | zero => exact (List.cons.inj same).2.symm
  | succ n => exact absurd same (head_decimal_ne_zero _ (Nat.succ_pos n) rest)

def integerSpelling (value : Int) : Spelling where
  negative := value < 0
  whole := Text.decimal value.natAbs

theorem integerSpelling_valid (value : Int) : (integerSpelling value).Valid where
  some_whole := Nat.toDigits_ne_nil
  whole _ member := isDigit_of_mem_decimal member
  leading := leading_decimal value.natAbs
  fraction _ member := by cases member
  exponent _ _ none := by cases none

theorem integerSpelling_text (value : Int) :
    (integerSpelling value).text = Text.signedDecimal value := by
  unfold Spelling.text Text.signedDecimal integerSpelling
  by_cases negative : value < 0
  · simp [negative, Spelling.fractionText, Spelling.exponentText]
  · simp [negative, Spelling.fractionText, Spelling.exponentText]

theorem parse_integer (value : Int) (lower : -0x8000000000000000 ≤ value)
    (upper : value < 0x10000000000000000) {rest : List Char} (stops : Stops rest) :
    parse (Text.signedDecimal value ++ rest) = some (.integer value lower upper, rest) := by
  rw [← integerSpelling_text, Spelling.parse_append (integerSpelling_valid value) stops]
  have magnitude : Nat.ofDigitChars 10 (Text.decimal value.natAbs) 0 = value.natAbs :=
    Nat.ofDigitChars_toDigits (by decide) (by decide)
  have number : (integerSpelling value).literal.toNumber = some (.integer value lower upper) := by
    unfold Literal.toNumber Spelling.literal integerSpelling
    have signed : (if decide (value < 0) = true then -(value.natAbs : Int) else value.natAbs) =
        value := by
      split
      · next negative =>
        have := of_decide_eq_true negative
        omega
      · next positive =>
        rw [decide_eq_true_eq] at positive
        omega
    have plain : (decide (value < 0) && value.natAbs == 0) = false := by
      by_cases negative : value < 0
      · have : value.natAbs ≠ 0 := by omega
        simp [negative, this]
      · simp [negative]
    simp only [magnitude, signed, plain, List.isEmpty_nil, Option.isNone_none, Bool.and_self,
      Bool.not_false, ite_true]
    rw [dif_pos ⟨lower, upper⟩]
  rw [number]
  rfl

end RoadRegistry.Json.Number
