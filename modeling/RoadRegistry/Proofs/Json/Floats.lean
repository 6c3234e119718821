import RoadRegistry.Proofs.Binary64.Decimals
import RoadRegistry.Proofs.Json.Numerals

namespace RoadRegistry.Json.Number

open Binary64 (ofDecimal)

theorem digitValue_le {c : Char} (digit : isDigit c = true) : digitValue c ≤ 9 := by
  have upper : c ≤ '9' := of_decide_eq_true (Bool.and_eq_true_iff.mp digit).2
  have : c.toNat ≤ 57 := upper
  unfold digitValue
  have : '0'.toNat = 48 := rfl
  omega

theorem absorb_spec (run : List Char) {significand : Nat}
    (fits : significand < 0x10000000000000000) :
    (absorb significand run).1 < 0x10000000000000000 ∧
      (absorb significand run).2.length ≤ run.length ∧
      (absorb significand run).1 * 10 ^ (absorb significand run).2.length ≤
        Nat.ofDigitChars 10 run significand := by
  induction run generalizing significand with
  | nil => exact ⟨fits, le_rfl, by rw [absorb]; simp⟩
  | cons c rest ih =>
    unfold absorb
    simp only
    split
    · next longer =>
      obtain ⟨small, fewer, below⟩ := ih longer
      refine ⟨small, fewer.trans (Nat.le_succ _), below.trans ?_⟩
      rw [Nat.ofDigitChars_cons, digitValue, Nat.mul_comm]
    · refine ⟨fits, le_rfl, ?_⟩
      rw [Nat.ofDigitChars_eq_ofDigitChars_zero, Nat.mul_comm]
      exact Nat.le_add_right _ _

theorem absorb_of_short {run : List Char} (digits : ∀ c ∈ run, isDigit c = true)
    {significand : Nat} (short : (significand + 1) * 10 ^ run.length ≤ 0x10000000000000000) :
    (absorb significand run).2 = [] := by
  induction run generalizing significand with
  | nil => rfl
  | cons c rest ih =>
    have value := digitValue_le (digits c List.mem_cons_self)
    have longer : (significand * 10 + digitValue c + 1) * 10 ^ rest.length ≤
        0x10000000000000000 := by
      refine (Nat.mul_le_mul_right _ ?_).trans
        (by rwa [List.length_cons, Nat.pow_succ', ← Nat.mul_assoc] at short)
      omega
    have one := Nat.one_le_pow rest.length 10 (by decide)
    have fits : significand * 10 + digitValue c < 0x10000000000000000 := by
      have := Nat.le_mul_of_pos_right (significand * 10 + digitValue c + 1) one
      omega
    unfold absorb
    simp only
    rw [if_pos fits]
    exact ih (fun other later => digits other (List.mem_cons_of_mem _ later)) longer

theorem toFloat_of_absorbed {l : Literal} (absorbed : (absorb 0 l.whole).2 = []) :
    l.toFloat = (ofDecimal l.negative (absorb (absorb 0 l.whole).1 l.fraction).1
      ((absorb (absorb 0 l.whole).1 l.fraction).2.length - l.fraction.length + l.exponent)).map
        .float := by
  unfold Literal.toFloat
  simp only [absorbed, List.length_nil]
  congr 2
  omega

theorem exists_toFloat_of_point {l : Literal} (digits : ∀ c ∈ l.whole, isDigit c = true)
    (short : l.whole.length ≤ 19) (long : l.fraction.length ≤ 616) (plain : l.exponent = 0) :
    ∃ n, l.toFloat = some n := by
  have absorbed : (absorb 0 l.whole).2 = [] := by
    apply absorb_of_short digits
    rw [Nat.zero_add, Nat.one_mul]
    exact (Nat.pow_le_pow_right (by decide) short).trans (by decide)
  have first := (absorb_spec l.whole (by decide : 0 < 0x10000000000000000)).1
  obtain ⟨fits, fewer, _⟩ := absorb_spec l.fraction first
  rw [toFloat_of_absorbed absorbed, plain]
  obtain ⟨x, made⟩ : ∃ x, ofDecimal l.negative (absorb (absorb 0 l.whole).1 l.fraction).1
      ((absorb (absorb 0 l.whole).1 l.fraction).2.length - l.fraction.length + 0) = some x :=
    Binary64.exists_ofDecimal_of_nonpos l.negative fits (by omega) (by omega)
  exact ⟨.float x, by rw [made, Option.map_some]⟩

theorem absorb_first {n : Nat} {first : Char} {rest : List Char}
    (digits : Text.decimal n = first :: rest) :
    absorb 0 [first] = (digitValue first, []) ∧ digitValue first < 0x10000000000000000 ∧
      Nat.ofDigitChars 10 rest (digitValue first) = n := by
  have digit : isDigit first = true := isDigit_of_mem_decimal (digits ▸ List.mem_cons_self)
  have small := digitValue_le digit
  refine ⟨?_, by omega, ?_⟩
  · rw [absorb, Nat.zero_mul, Nat.zero_add, if_pos (by omega), absorb]
  · have all : Nat.ofDigitChars 10 (Text.decimal n) 0 = n := Nat.ofDigitChars_ten_toDigits
    rw [digits, Nat.ofDigitChars_cons, Nat.mul_zero, Nat.zero_add] at all
    exact all

theorem exists_toFloat_of_shortest {l : Literal} {x : Binary64} (some_number : x.significand ≠ 0)
    {first : Char} {rest : List Char} (digits : Text.decimal x.shortest.digits = first :: rest)
    (whole : l.whole = [first]) (fraction : l.fraction = rest)
    (exponent : l.exponent = x.shortest.exponent + rest.length) :
    ∃ n, l.toFloat = some n := by
  obtain ⟨absorbed, fits, same⟩ := absorb_first digits
  rw [toFloat_of_absorbed (by rw [whole, absorbed]), whole, fraction, exponent, absorbed]
  simp only
  obtain ⟨small, fewer, below⟩ := absorb_spec rest fits
  generalize absorb (digitValue first) rest = taken at small fewer below ⊢
  have places : (taken.2.length - rest.length + (x.shortest.exponent + rest.length) : Int) =
      x.shortest.exponent + taken.2.length := by omega
  rw [places]
  have bound : taken.1 * (10 : ℚ) ^ (x.shortest.exponent + taken.2.length) ≤ x.shortest.value := by
    have cast : (taken.1 * 10 ^ taken.2.length : ℚ) ≤ x.shortest.digits := by
      rw [same] at below
      exact_mod_cast below
    rw [Binary64.Decimal.value, zpow_add₀ (by norm_num), zpow_natCast, mul_comm (_ ^ _),
      ← mul_assoc]
    exact mul_le_mul_of_nonneg_right cast (zpow_nonneg (by norm_num) _)
  obtain ⟨y, made⟩ := Binary64.exists_ofDecimal_of_le_shortest l.negative some_number small
    (by omega) bound
  exact ⟨.float y, by rw [made, Option.map_some]⟩

section placed

variable {digits : List Char} {whole : Int}

def placed (digits : List Char) (whole : Int) : List Char × List Char :=
  if whole ≤ 0 then (['0'], List.replicate (-whole).toNat '0' ++ digits)
  else if digits.length ≤ whole.toNat then
    (digits ++ List.replicate (whole.toNat - digits.length) '0', ['0'])
  else (digits.take whole.toNat, digits.drop whole.toNat)

theorem placePoint_eq (digits : List Char) (whole : Int) :
    placePoint digits whole = (placed digits whole).1 ++ '.' :: (placed digits whole).2 := by
  unfold placePoint placed
  simp only
  split
  · rfl
  · split
    · rfl
    · rfl

theorem isDigit_of_mem_placed (all : ∀ c ∈ digits, isDigit c = true) :
    (∀ c ∈ (placed digits whole).1, isDigit c = true) ∧
      ∀ c ∈ (placed digits whole).2, isDigit c = true := by
  have zero : ∀ c ∈ ['0'], isDigit c = true := List.forall_mem_singleton.mpr rfl
  have zeros : ∀ n, ∀ c ∈ List.replicate n '0', isDigit c = true := by
    intro n c member
    rw [List.eq_of_mem_replicate member]
    rfl
  unfold placed
  split
  · refine ⟨zero, fun c member => ?_⟩
    exact (List.mem_append.mp member).elim (zeros _ c) (all c)
  · split
    · refine ⟨fun c member => ?_, zero⟩
      exact (List.mem_append.mp member).elim (all c) (zeros _ c)
    · exact ⟨fun c member => all c (List.mem_of_mem_take member),
        fun c member => all c (List.mem_of_mem_drop member)⟩

theorem length_placed (digits : List Char) (whole : Int) :
    (placed digits whole).1.length ≤ max 1 whole.toNat ∧
      (placed digits whole).2.length ≤ digits.length + (-whole).toNat + 1 := by
  unfold placed
  split
  · simp only [List.length_singleton, List.length_append, List.length_replicate]
    omega
  · split
    · simp only [List.length_singleton, List.length_append, List.length_replicate]
      omega
    · simp only [List.length_take, List.length_drop]
      omega

theorem placed_ne_nil (some_digits : digits ≠ []) :
    (placed digits whole).1 ≠ [] ∧ (placed digits whole).2 ≠ [] := by
  have length := List.length_pos_of_ne_nil some_digits
  unfold placed
  split
  · exact ⟨List.cons_ne_nil _ _, List.append_ne_nil_of_right_ne_nil _ some_digits⟩
  · split
    · exact ⟨List.append_ne_nil_of_left_ne_nil some_digits _, List.cons_ne_nil _ _⟩
    · refine ⟨List.ne_nil_of_length_pos ?_, List.ne_nil_of_length_pos ?_⟩
      · rw [List.length_take]
        omega
      · rw [List.length_drop]
        omega

theorem placed_leading (alone : ∀ rest, digits = '0' :: rest → rest = [] ∧ whole = 1)
    (some_digits : digits ≠ []) {rest : List Char}
    (zero : (placed digits whole).1 = '0' :: rest) : rest = [] := by
  obtain ⟨first, more, rfl⟩ := List.exists_cons_of_ne_nil some_digits
  unfold placed at zero
  split at zero
  · exact (List.cons.inj zero).2.symm
  · split at zero
    · obtain rfl := (List.cons.inj zero).1
      obtain ⟨rfl, rfl⟩ := alone more rfl
      exact (List.cons.inj zero).2.symm
    · next positive _ =>
      have split : whole.toNat = whole.toNat - 1 + 1 := by omega
      rw [split, List.take_succ_cons] at zero
      obtain rfl := (List.cons.inj zero).1
      obtain ⟨rfl, rfl⟩ := alone more rfl
      exact (List.cons.inj zero).2.symm

def pointSpelling (negative : Bool) (digits : List Char) (whole : Int) : Spelling where
  negative := negative
  whole := (placed digits whole).1
  fraction := (placed digits whole).2

theorem pointSpelling_text (negative : Bool) (some_digits : digits ≠ []) :
    (pointSpelling negative digits whole).text =
      (if negative then ['-'] else []) ++ placePoint digits whole := by
  have written : (pointSpelling negative digits whole).fractionText =
      '.' :: (placed digits whole).2 := if_neg (placed_ne_nil some_digits).2
  rw [Spelling.text, written, placePoint_eq, List.append_assoc, List.append_assoc]
  exact congrArg _ (congrArg _ (List.append_nil _))

theorem pointSpelling_valid (negative : Bool) (some_digits : digits ≠ [])
    (all : ∀ c ∈ digits, isDigit c = true)
    (alone : ∀ rest, digits = '0' :: rest → rest = [] ∧ whole = 1) :
    (pointSpelling negative digits whole).Valid where
  some_whole := (placed_ne_nil some_digits).1
  whole := (isDigit_of_mem_placed all).1
  leading _ zero := placed_leading alone some_digits zero
  fraction := (isDigit_of_mem_placed all).2
  exponent _ _ none := by cases none

theorem exists_toNumber_of_point (negative : Bool) (some_digits : digits ≠ [])
    (all : ∀ c ∈ digits, isDigit c = true) (few : digits.length ≤ 600) (low : -10 ≤ whole)
    (high : whole ≤ 19) : ∃ n, (pointSpelling negative digits whole).literal.toNumber = some n := by
  have written : (pointSpelling negative digits whole).fraction.isEmpty = false :=
    List.isEmpty_eq_false_iff.mpr (placed_ne_nil some_digits).2
  obtain ⟨short, long⟩ := length_placed digits whole
  unfold Literal.toNumber Spelling.literal
  simp only [written, Bool.false_and, Bool.false_eq_true, if_false]
  exact exists_toFloat_of_point (isDigit_of_mem_placed all).1 (by simp only [pointSpelling]; omega)
    (by simp only [pointSpelling]; omega) rfl

end placed

def scientificSpelling (negative : Bool) (digits : List Char) (exponent : Int) : Spelling where
  negative := negative
  whole := digits.take 1
  fraction := digits.drop 1
  exponent := some (exponent < 0, Text.decimal exponent.natAbs)

theorem scientificSpelling_text (negative : Bool) (digits : List Char) (exponent : Int) :
    (scientificSpelling negative digits exponent).text =
      (if negative then ['-'] else []) ++ scientific digits exponent := by
  unfold Spelling.text Spelling.fractionText Spelling.exponentText scientificSpelling scientific
  rcases digits with _ | ⟨first, _ | ⟨second, rest⟩⟩
  · simp
  · simp
  · simp

theorem scientificSpelling_valid (negative : Bool) {digits : List Char} (exponent : Int)
    (some_digits : digits ≠ []) (all : ∀ c ∈ digits, isDigit c = true) :
    (scientificSpelling negative digits exponent).Valid := by
  obtain ⟨first, more, rfl⟩ := List.exists_cons_of_ne_nil some_digits
  constructor
  · exact List.cons_ne_nil _ _
  · exact fun c member => all c (List.mem_of_mem_take member)
  · exact fun rest same => (List.cons.inj same).2.symm
  · exact fun c member => all c (List.mem_of_mem_drop member)
  · intro below run same
    cases same
    exact ⟨Nat.toDigits_ne_nil, fun c member => isDigit_of_mem_decimal member⟩

theorem exists_toNumber_of_scientific {x : Binary64} (some_number : x.significand ≠ 0) :
    ∃ n, (scientificSpelling x.negative (Text.decimal x.shortest.digits)
      (x.shortest.exponent + (Text.decimal x.shortest.digits).length - 1)).literal.toNumber =
        some n := by
  obtain ⟨first, rest, digits⟩ : ∃ first rest, Text.decimal x.shortest.digits = first :: rest :=
    List.exists_cons_of_ne_nil Nat.toDigits_ne_nil
  generalize exponent : x.shortest.exponent + (Text.decimal x.shortest.digits).length - 1 = leading
  have value : (scientificSpelling x.negative (first :: rest) leading).exponentValue = leading := by
    have magnitude : Nat.ofDigitChars 10 (Text.decimal leading.natAbs) 0 = leading.natAbs :=
      Nat.ofDigitChars_ten_toDigits
    simp only [Spelling.exponentValue, scientificSpelling, magnitude, decide_eq_true_eq]
    split <;> omega
  rw [digits, List.length_cons] at exponent
  rw [digits]
  unfold Literal.toNumber Spelling.literal
  rw [value]
  simp only [scientificSpelling, Option.isNone_some, Bool.and_false, Bool.false_and,
    Bool.false_eq_true, if_false]
  apply exists_toFloat_of_shortest some_number digits rfl rfl
  simp only
  omega

def leadingPlace (x : Binary64) : Int :=
  x.shortest.exponent + (Text.decimal x.shortest.digits).length - 1

def Plain (x : Binary64) : Prop :=
  floatStyle.least ≤ leadingPlace x ∧ leadingPlace x ≤ floatStyle.greatest

instance (x : Binary64) : Decidable (Plain x) := instDecidableAnd

def floatSpelling (x : Binary64) : Spelling :=
  let digits := Text.decimal x.shortest.digits
  if Plain x then pointSpelling x.negative digits (leadingPlace x + 1)
  else scientificSpelling x.negative digits (leadingPlace x)

variable {x : Binary64}

theorem decimal_ne_nil (n : Nat) : Text.decimal n ≠ [] := Nat.toDigits_ne_nil

theorem shortest_of_isZero (vanished : x.isZero = true) : x.shortest = ⟨0, 0⟩ := if_pos vanished

theorem plain_of_isZero (vanished : x.isZero = true) : Plain x := by
  unfold Plain leadingPlace
  rw [shortest_of_isZero vanished]
  decide

theorem significand_ne_zero (unplain : ¬Plain x) : x.significand ≠ 0 := by
  intro none
  exact unplain (plain_of_isZero (beq_iff_eq.mpr none))

theorem digits_alone {rest : List Char} (zero : Text.decimal x.shortest.digits = '0' :: rest) :
    rest = [] ∧ leadingPlace x + 1 = 1 := by
  obtain rfl := leading_decimal _ rest zero
  have nothing : x.shortest.digits = 0 := by
    have value : Nat.ofDigitChars 10 (Text.decimal x.shortest.digits) 0 = x.shortest.digits :=
      Nat.ofDigitChars_ten_toDigits
    rw [zero] at value
    exact value.symm
  have level : x.shortest.exponent = 0 := by
    by_cases vanished : x.isZero = true
    · rw [shortest_of_isZero vanished]
    · have some_number : x.significand ≠ 0 := fun none => vanished (beq_iff_eq.mpr none)
      exact (Binary64.shortest_digits some_number).resolve_left (not_not_intro nothing)
  refine ⟨rfl, ?_⟩
  rw [leadingPlace, zero, level]
  rfl

theorem floatSpelling_text (x : Binary64) : (floatSpelling x).text = writeFloat x := by
  have sign (magnitude : List Char) : (if x.negative then ['-'] else []) ++ magnitude =
      if x.negative then '-' :: magnitude else magnitude := by
    split <;> rfl
  unfold floatSpelling writeFloat
  simp only
  rw [← leadingPlace, ← sign]
  by_cases vanished : x.isZero = true
  · rw [if_pos (plain_of_isZero vanished), if_pos vanished, leadingPlace,
      shortest_of_isZero vanished]
    exact pointSpelling_text x.negative (List.cons_ne_nil _ _)
  · rw [if_neg vanished]
    by_cases plain : Plain x
    · rw [if_pos plain, pointSpelling_text _ (decimal_ne_nil _)]
      exact congrArg _ (if_pos plain).symm
    · rw [if_neg plain, scientificSpelling_text]
      exact congrArg _ (if_neg plain).symm

theorem floatSpelling_valid (x : Binary64) : (floatSpelling x).Valid := by
  have all : ∀ c ∈ Text.decimal x.shortest.digits, isDigit c = true :=
    fun c member => isDigit_of_mem_decimal member
  unfold floatSpelling
  simp only
  split
  · exact pointSpelling_valid _ (decimal_ne_nil _) all fun rest zero => digits_alone zero
  · exact scientificSpelling_valid _ _ (decimal_ne_nil _) all

theorem exists_toNumber (x : Binary64) : ∃ n, (floatSpelling x).literal.toNumber = some n := by
  unfold floatSpelling
  simp only
  split
  · next plain =>
    have least : -5 ≤ leadingPlace x := plain.1
    have greatest : leadingPlace x ≤ 15 := plain.2
    apply exists_toNumber_of_point _ (decimal_ne_nil _)
      fun c member => isDigit_of_mem_decimal member
    · have lowest : -346 ≤ x.shortest.exponent := by
        by_cases vanished : x.isZero = true
        · rw [shortest_of_isZero vanished]
          decide
        · exact Binary64.shortest_ge fun none => vanished (beq_iff_eq.mpr none)
      rw [leadingPlace] at greatest
      omega
    · omega
    · omega
  · next unplain => exact exists_toNumber_of_scientific (significand_ne_zero unplain)

theorem parse_writeFloat (x : Binary64) :
    ∃ n, ∀ rest, Stops rest → parse (writeFloat x ++ rest) = some (n, rest) := by
  obtain ⟨n, number⟩ := exists_toNumber x
  refine ⟨n, fun rest stops => ?_⟩
  rw [← floatSpelling_text, Spelling.parse_append (floatSpelling_valid x) stops, number,
    Option.map_some]

end RoadRegistry.Json.Number
