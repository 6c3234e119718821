namespace RoadRegistry

/-- The number `significand · 2 ^ exponent`, or its negative. Zero has a sign too. A normal number
has a significand of 53 bits, a smaller one the exponent -1074. -/
structure Binary64 where
  negative : Bool
  significand : Nat
  exponent : Int
  bounded : significand < 0x20000000000000 ∧ -1074 ≤ exponent ∧ exponent ≤ 971
  deriving DecidableEq, Repr

namespace Binary64

def zero (negative : Bool) : Binary64 := ⟨negative, 0, 0, by decide⟩

def isZero (x : Binary64) : Bool := x.significand == 0

/-- The integer nearest to `num / den`, the even one of two equally near. -/
def roundDiv (num den : Nat) : Nat :=
  let quotient := num / den
  let twice := 2 * (num % den)
  if twice < den then quotient
  else if den < twice then quotient + 1
  else quotient + quotient % 2

def scaled (num den : Nat) (exponent : Int) : Nat × Nat :=
  if 0 ≤ exponent then (num, den * Nat.pow 2 exponent.toNat)
  else (num * Nat.pow 2 (-exponent).toNat, den)

def wholePart (num den : Nat) (exponent : Int) : Nat :=
  let (n, d) := scaled num den exponent
  n / d

def lowExponent (num den : Nat) : Int := max ((num.log2 : Int) - den.log2 - 53) (-1074)

def exponentFor (num den : Nat) : Int :=
  let low := lowExponent num den
  if wholePart num den low < 0x20000000000000 then low else low + 1

theorem roundDiv_le {num den bound : Nat} (below : num / den < bound) :
    roundDiv num den ≤ bound := by
  have even : num / den % 2 ≤ 1 := by omega
  unfold roundDiv
  simp only
  split
  · omega
  · split <;> omega

theorem scaled_lt (num : Nat) {den : Nat} (some_den : den ≠ 0) {exponent : Int}
    (high : (num.log2 : Int) - den.log2 - 53 ≤ exponent) :
    (scaled num den exponent).1 < 0x40000000000000 * (scaled num den exponent).2 := by
  have above : num < 2 ^ (num.log2 + 1) := Nat.lt_log2_self
  have below : 2 ^ den.log2 ≤ den := Nat.log2_self_le some_den
  unfold scaled
  split
  · have powers : 2 ^ (num.log2 + 1) ≤ 2 ^ (54 + den.log2 + exponent.toNat) :=
      Nat.pow_le_pow_right (by decide) (by omega)
    have grown : 2 ^ (54 + den.log2 + exponent.toNat) ≤
        0x40000000000000 * (den * 2 ^ exponent.toNat) := by
      rw [Nat.pow_add, Nat.pow_add, Nat.mul_assoc]
      exact Nat.mul_le_mul_left _ (Nat.mul_le_mul_right _ below)
    exact Nat.lt_of_lt_of_le above (Nat.le_trans powers grown)
  · have powers : 2 ^ (num.log2 + 1 + (-exponent).toNat) ≤ 2 ^ (54 + den.log2) :=
      Nat.pow_le_pow_right (by decide) (by omega)
    have grown : 2 ^ (54 + den.log2) ≤ 0x40000000000000 * den := by
      rw [Nat.pow_add]
      exact Nat.mul_le_mul_left _ below
    rw [Nat.pow_add] at powers
    exact Nat.lt_of_lt_of_le (Nat.mul_lt_mul_of_pos_right above (Nat.two_pow_pos _))
      (Nat.le_trans powers grown)

theorem wholePart_succ (num den : Nat) (exponent : Int) :
    wholePart num den (exponent + 1) = wholePart num den exponent / 2 := by
  unfold wholePart scaled
  by_cases below : exponent + 1 < 0
  · have next : (-exponent).toNat = (-(exponent + 1)).toNat + 1 := by omega
    rw [if_neg (by omega), if_neg (by omega), next, Nat.div_div_eq_div_mul]
    simp only [Nat.pow_eq, Nat.pow_succ, ← Nat.mul_assoc]
    exact (Nat.mul_div_mul_right _ _ (by decide)).symm
  · by_cases level : exponent = -1
    · subst level
      have half : num * 2 / den / 2 = num / (den * 1) := by
        rw [Nat.div_div_eq_div_mul, Nat.mul_div_mul_right _ _ (by decide), Nat.mul_one]
      exact half.symm
    · have next : (exponent + 1).toNat = exponent.toNat + 1 := by omega
      rw [if_pos (by omega), if_pos (by omega), next, Nat.div_div_eq_div_mul]
      simp only [Nat.pow_eq, Nat.pow_succ, Nat.mul_assoc]

theorem lowExponent_le (num den : Nat) : lowExponent num den ≤ exponentFor num den := by
  unfold exponentFor
  simp only
  split <;> omega

theorem wholePart_exponentFor (num den : Nat) :
    wholePart num den (exponentFor num den) < 0x20000000000000 := by
  unfold exponentFor
  simp only
  split
  · next small => exact small
  · next large =>
    rw [wholePart_succ]
    by_cases zero : den = 0
    · subst zero
      have none : (scaled num 0 (lowExponent num 0)).2 = 0 := by
        unfold scaled
        split
        · exact Nat.zero_mul _
        · rfl
      have nothing : wholePart num 0 (lowExponent num 0) = 0 := by
        simp only [wholePart, none, Nat.div_zero]
      rw [nothing] at large
      exact absurd (by decide) large
    · have below := scaled_lt num zero (Int.le_max_left _ (-1074))
      rw [Nat.mul_comm] at below
      have : wholePart num den (lowExponent num den) < 0x40000000000000 :=
        Nat.div_lt_of_lt_mul below
      omega

def significandFor (num den : Nat) : Nat :=
  let (n, d) := scaled num den (exponentFor num den)
  roundDiv n d

theorem significandFor_le (num den : Nat) : significandFor num den ≤ 0x20000000000000 :=
  roundDiv_le (wholePart_exponentFor num den)

def ofParts (negative : Bool) (significand : Nat) (exponent : Int)
    (bounded : significand < 0x20000000000000 ∧ -1074 ≤ exponent) : Option Binary64 :=
  if significand = 0 then some (zero negative)
  else if high : 971 < exponent then none
  else some ⟨negative, significand, exponent, bounded.1, bounded.2, Int.not_lt.mp high⟩

/-- The number nearest to `num / den`, `none` when that is too large. -/
def round (negative : Bool) (num den : Nat) : Option Binary64 :=
  if num = 0 then some (zero negative)
  else
    have low := Int.le_trans (Int.le_max_right _ (-1074)) (lowExponent_le num den)
    if carried : significandFor num den = 0x20000000000000 then
      ofParts negative 0x10000000000000 (exponentFor num den + 1) ⟨by decide, by omega⟩
    else
      have fits := Nat.lt_of_le_of_ne (significandFor_le num den) carried
      ofParts negative (significandFor num den) (exponentFor num den) ⟨fits, low⟩

def fraction (x : Binary64) : Nat × Nat :=
  if 0 ≤ x.exponent then (x.significand * Nat.pow 2 x.exponent.toNat, 1)
  else (x.significand, Nat.pow 2 (-x.exponent).toNat)

def step (x : Binary64) : Nat × Nat :=
  if 0 ≤ x.exponent then (Nat.pow 2 x.exponent.toNat, 1) else (1, Nat.pow 2 (-x.exponent).toNat)

def mul (x y : Binary64) : Option Binary64 :=
  let (xn, xd) := x.fraction
  let (yn, yd) := y.fraction
  round (x.negative != y.negative) (xn * yn) (xd * yd)

def div (x y : Binary64) : Option Binary64 :=
  let (xn, xd) := x.fraction
  let (yn, yd) := y.fraction
  round (x.negative != y.negative) (xn * yd) (xd * yn)

def ofNat (negative : Bool) (n : Nat) : Option Binary64 := round negative n 1

def valueEq (x y : Binary64) : Bool := (x.isZero && y.isZero) || x == y

def shrink : Nat → Binary64 → Int → Option (Binary64 × Int)
  | 0, x, exponent => some (x, exponent)
  | steps + 1, x, exponent =>
    if -308 ≤ exponent ∨ x.isZero then some (x, exponent)
    else do
      let divisor ← ofNat false (Nat.pow 10 308)
      let smaller ← x.div divisor
      shrink steps smaller (exponent + 308)

/-- The number for `significand · 10 ^ exponent`, reached in steps that are each rounded: the
significand, then its product with a power of ten or its quotient by one. It can miss the nearest
number in the last bit. `none` when it is too large. -/
def ofDecimal (negative : Bool) (significand : Nat) (exponent : Int) : Option Binary64 := do
  let x ← ofNat negative significand
  -- Two quotients by 10 ^ 308 make any 64-bit significand vanish; the third step is to spare.
  let (x, exponent) ← shrink 3 x exponent
  if x.isZero then some x
  else if 308 < exponent then none
  else
    let power ← ofNat false (Nat.pow 10 exponent.natAbs)
    if 0 ≤ exponent then x.mul power else x.div power

structure Decimal where
  digits : Nat
  exponent : Int
  deriving DecidableEq, Repr

def Decimal.fraction (d : Decimal) : Nat × Nat :=
  if 0 ≤ d.exponent then (d.digits * Nat.pow 10 d.exponent.toNat, 1)
  else (d.digits, Nat.pow 10 (-d.exponent).toNat)

def leadingExponent (num den : Nat) : Int :=
  if den ≤ num then ((Nat.toDigits 10 (num / den)).length : Int) - 1
  else below 330 num 0
where
  below : Nat → Nat → Int → Int
    | 0, _, exponent => exponent
    | steps + 1, num, exponent =>
      if den ≤ num then exponent else below steps (num * 10) (exponent - 1)

/-- Whether `digits · 10 ^ exponent` is among the reals that round to `x`: no further away than
half a step on either side, the ends included when the significand is even. -/
def reads (x : Binary64) (d : Decimal) : Bool :=
  -- All sides are multiplied by four times the denominator of the step.
  let low := if x.significand = 0x10000000000000 ∧ x.exponent ≠ -1074 then 4 * x.significand - 1
    else 4 * x.significand - 2
  let high := 4 * x.significand + 2
  let (stepNum, stepDen) := x.step
  let (num, den) := d.fraction
  let value := 4 * num * stepDen
  let unit := den * stepNum
  if x.significand % 2 = 0 then low * unit ≤ value && value ≤ high * unit
  else low * unit < value && value < high * unit

def inUnits (x : Binary64) (exponent : Int) : Nat × Nat :=
  let (num, den) := x.fraction
  if 0 ≤ exponent then (num, den * Nat.pow 10 exponent.toNat)
  else (num * Nat.pow 10 (-exponent).toNat, den)

/-- The neighbours of `x` among the multiples of `10 ^ exponent`, the nearer one first. Halfway
between them the even one is first. -/
def neighbours (x : Binary64) (exponent : Int) : List Decimal :=
  let (n, d) := x.inUnits exponent
  let below := n / d
  if 2 * (n % d) < d ∨ (2 * (n % d) = d ∧ below % 2 = 0) then
    [⟨below, exponent⟩, ⟨below + 1, exponent⟩]
  else [⟨below + 1, exponent⟩, ⟨below, exponent⟩]

def search (x : Binary64) (leading : Int) : Nat → Nat → Option Decimal
  | 0, _ => none
  | steps + 1, places =>
    match (neighbours x (leading - places)).find? (reads x) with
    | some d => some d
    | none => search x leading steps (places + 1)

def Decimal.strip : Nat → Decimal → Decimal
  | 0, d => d
  | steps + 1, d =>
    if d.digits ≠ 0 ∧ d.digits % 10 = 0 then strip steps ⟨d.digits / 10, d.exponent + 1⟩ else d

/-- The fewest decimal digits that read back as `x`, the nearest of those. -/
def shortest (x : Binary64) : Decimal :=
  if x.isZero then ⟨0, 0⟩
  else
    let (num, den) := x.fraction
    match search x (leadingExponent num den) 17 0 with
    | some d => d.strip 20
    | none => ⟨num / den, 0⟩

end Binary64

end RoadRegistry
