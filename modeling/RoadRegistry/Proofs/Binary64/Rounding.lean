import Mathlib.Algebra.Order.Field.Power
import Mathlib.Data.Nat.Cast.Order.Field
import Mathlib.Data.Rat.Cast.Order
import Mathlib.Tactic.FieldSimp
import Mathlib.Tactic.Linarith
import Mathlib.Tactic.NormNum
import Mathlib.Tactic.Positivity
import Mathlib.Tactic.Ring
import RoadRegistry.Binary64

namespace RoadRegistry.Binary64

def magnitude (x : Binary64) : ℚ := x.significand * 2 ^ x.exponent

theorem two_zpow_pos (exponent : ℤ) : (0 : ℚ) < 2 ^ exponent := zpow_pos (by norm_num) _

theorem zpow_toNat {base : ℚ} {exponent : ℤ} (positive : 0 ≤ exponent) :
    base ^ exponent.toNat = base ^ exponent := by
  rw [← zpow_natCast, Int.toNat_of_nonneg positive]

theorem zpow_neg_toNat {base : ℚ} {exponent : ℤ} (negative : exponent ≤ 0) :
    base ^ (-exponent).toNat = (base ^ exponent)⁻¹ := by
  rw [← zpow_natCast, Int.toNat_of_nonneg (by omega), zpow_neg]

theorem scaled_eq (num den : ℕ) (exponent : ℤ) :
    ((scaled num den exponent).1 : ℚ) / (scaled num den exponent).2 =
      num / den / 2 ^ exponent := by
  unfold scaled
  split
  · next positive =>
    simp only [Nat.pow_eq, Nat.cast_mul, Nat.cast_pow, Nat.cast_ofNat, zpow_toNat positive]
    rw [div_div]
  · next negative =>
    simp only [Nat.pow_eq, Nat.cast_mul, Nat.cast_pow, Nat.cast_ofNat,
      zpow_neg_toNat (not_le.mp negative).le]
    rw [mul_div_right_comm, ← div_eq_mul_inv]

theorem scaled_den_pos (num : ℕ) {den : ℕ} (some_den : den ≠ 0) (exponent : ℤ) :
    0 < (scaled num den exponent).2 := by
  have positive := Nat.pos_of_ne_zero some_den
  unfold scaled
  split
  · exact Nat.mul_pos positive (Nat.two_pow_pos _)
  · exact positive

theorem roundDiv_close (num : ℕ) {den : ℕ} (some_den : 0 < den) :
    |(roundDiv num den : ℚ) - num / den| ≤ 1 / 2 := by
  have whole := Nat.div_add_mod num den
  have part := Nat.mod_lt num some_den
  have even : num / den % 2 = 0 ∨ num / den % 2 = 1 := by omega
  have close : 2 * (den * roundDiv num den) ≤ 2 * num + den ∧
      2 * num ≤ 2 * (den * roundDiv num den) + den := by
    unfold roundDiv
    simp only
    split
    · omega
    · split
      · rw [Nat.mul_add, Nat.mul_one]
        omega
      · rcases even with even | even
        · rw [even, Nat.add_zero]
          omega
        · rw [even, Nat.mul_add, Nat.mul_one]
          omega
  have above : (2 * (den * roundDiv num den) : ℚ) ≤ 2 * num + den := by exact_mod_cast close.1
  have below : (2 * num : ℚ) ≤ 2 * (den * roundDiv num den) + den := by exact_mod_cast close.2
  have positive : (0 : ℚ) < den := by exact_mod_cast some_den
  have upper : (roundDiv num den : ℚ) - 1 / 2 ≤ num / den := by
    rw [le_div_iff₀ positive]
    linarith
  have lower : (num : ℚ) / den ≤ roundDiv num den + 1 / 2 := by
    rw [div_le_iff₀ positive]
    linarith
  rw [abs_le]
  constructor <;> linarith

theorem wholePart_eq (num den : ℕ) (exponent : ℤ) :
    wholePart num den exponent = (scaled num den exponent).1 / (scaled num den exponent).2 := rfl

theorem le_wholePart {num den : ℕ} (some_num : num ≠ 0) (some_den : den ≠ 0) {exponent : ℤ}
    (low : exponent ≤ (num.log2 : ℤ) - den.log2 - 53) :
    0x10000000000000 ≤ wholePart num den exponent := by
  have above : 2 ^ num.log2 ≤ num := Nat.log2_self_le some_num
  have below : den < 2 ^ (den.log2 + 1) := Nat.lt_log2_self
  rw [wholePart_eq]
  apply (Nat.le_div_iff_mul_le (scaled_den_pos num some_den exponent)).mpr
  by_cases positive : 0 ≤ exponent
  · rw [show scaled num den exponent = (num, den * 2 ^ exponent.toNat) from if_pos positive]
    have powers : 2 ^ (52 + (den.log2 + 1) + exponent.toNat) ≤ 2 ^ num.log2 :=
      Nat.pow_le_pow_right (by decide) (by omega)
    rw [Nat.pow_add, Nat.pow_add, Nat.mul_assoc] at powers
    have smaller :=
      Nat.mul_le_mul_left (2 ^ 52) (Nat.mul_le_mul_right (2 ^ exponent.toNat) below.le)
    exact smaller.trans (powers.trans above)
  · rw [show scaled num den exponent = (num * 2 ^ (-exponent).toNat, den) from if_neg positive]
    have powers : 2 ^ (52 + (den.log2 + 1)) ≤ 2 ^ (num.log2 + (-exponent).toNat) :=
      Nat.pow_le_pow_right (by decide) (by omega)
    rw [Nat.pow_add, Nat.pow_add _ num.log2] at powers
    have smaller := Nat.mul_le_mul_left (2 ^ 52) below.le
    exact smaller.trans (powers.trans (Nat.mul_le_mul_right _ above))

theorem exponentFor_cases {num den : ℕ} (some_num : num ≠ 0) (some_den : den ≠ 0) :
    exponentFor num den = -1074 ∨
      0x10000000000000 ≤ wholePart num den (exponentFor num den) := by
  unfold exponentFor
  simp only
  split
  · by_cases least : (num.log2 : ℤ) - den.log2 - 53 ≤ -1074
    · exact .inl (max_eq_right least)
    · right
      have low : lowExponent num den = (num.log2 : ℤ) - den.log2 - 53 :=
        max_eq_left (not_le.mp least).le
      rw [low]
      exact le_wholePart some_num some_den le_rfl
  · next large =>
    right
    rw [wholePart_succ]
    omega

theorem ofParts_cases (negative : Bool) (significand : ℕ) (exponent : ℤ)
    (bounded : significand < 0x20000000000000 ∧ -1074 ≤ exponent) :
    (∃ x, ofParts negative significand exponent bounded = some x ∧
      x.magnitude = significand * 2 ^ exponent) ∨
    ofParts negative significand exponent bounded = none ∧ 971 < exponent := by
  unfold ofParts
  split
  · next none =>
    refine .inl ⟨zero negative, rfl, ?_⟩
    rw [none, magnitude, zero, Nat.cast_zero, zero_mul, zero_mul]
  · split
    · next high => exact .inr ⟨rfl, high⟩
    · exact .inl ⟨_, rfl, rfl⟩

theorem round_cases (negative : Bool) {num : ℕ} (some_num : num ≠ 0) (den : ℕ) :
    (∃ x, round negative num den = some x ∧
      x.magnitude = significandFor num den * 2 ^ exponentFor num den) ∨
    round negative num den = none ∧
      (971 < exponentFor num den ∨
        971 ≤ exponentFor num den ∧ significandFor num den = 0x20000000000000) := by
  have low : -1074 ≤ exponentFor num den :=
    (Int.le_max_right _ (-1074)).trans (lowExponent_le num den)
  unfold round
  rw [if_neg some_num]
  split
  · next carried =>
    rcases ofParts_cases negative 0x10000000000000 (exponentFor num den + 1)
      ⟨by decide, by omega⟩ with ⟨x, made, same⟩ | ⟨none, high⟩
    · refine .inl ⟨x, made, ?_⟩
      rw [same, carried, zpow_add_one₀ two_ne_zero]
      push_cast
      ring
    · exact .inr ⟨none, .inr ⟨by omega, carried⟩⟩
  · next fits =>
    rcases ofParts_cases negative (significandFor num den) (exponentFor num den)
      ⟨Nat.lt_of_le_of_ne (significandFor_le num den) fits, low⟩ with made | ⟨none, high⟩
    · exact .inl made
    · exact .inr ⟨none, .inl high⟩

def halfStep : ℕ := 2 ^ 970

theorem halfStep_eq : (halfStep : ℚ) * 2 = 2 ^ (971 : ℤ) := by
  rw [show (971 : ℤ) = (970 : ℕ) + 1 from rfl, zpow_add_one₀ two_ne_zero, zpow_natCast, halfStep,
    Nat.cast_pow, Nat.cast_ofNat]

/-- The bound from which on quotients are too large: half a step above the greatest number. -/
def ceiling : ℕ := 0x3fffffffffffff * halfStep

theorem ceiling_le {exponent : ℤ} (high : 971 ≤ exponent) :
    (ceiling : ℚ) ≤ (0x20000000000000 - 1 / 2) * 2 ^ exponent := by
  have power : (2 : ℚ) ^ (971 : ℤ) ≤ 2 ^ exponent := zpow_le_zpow_right₀ one_le_two high
  rw [← halfStep_eq] at power
  rw [ceiling, Nat.cast_mul, Nat.cast_ofNat]
  linarith

section close

variable {num den : ℕ}

theorem mul_zpow_le {exponent : ℤ} (large : 0x10000000000000 ≤ wholePart num den exponent) :
    (0x10000000000000 : ℚ) * 2 ^ exponent ≤ num / den := by
  have floor : ((wholePart num den exponent : ℕ) : ℚ) ≤
      (scaled num den exponent).1 / (scaled num den exponent).2 := Nat.cast_div_le
  rw [scaled_eq] at floor
  rw [← le_div_iff₀ (two_zpow_pos _)]
  exact le_trans (by exact_mod_cast large) floor

theorem half_step_le (some_num : num ≠ 0) (some_den : den ≠ 0) :
    (2 : ℚ) ^ exponentFor num den / 2 ≤ (num / den : ℚ) / 2 ^ 53 + 2 ^ (-1075 : ℤ) := by
  have quotient : (0 : ℚ) ≤ num / den := by positivity
  rcases exponentFor_cases some_num some_den with least | large
  · rw [least]
    have half : (2 : ℚ) ^ (-1074 : ℤ) / 2 = 2 ^ (-1075 : ℤ) := by
      rw [show (-1075 : ℤ) = -1074 - 1 from rfl, zpow_sub_one₀ two_ne_zero, div_eq_mul_inv]
    rw [half]
    linarith [div_nonneg quotient (by positivity : (0 : ℚ) ≤ 2 ^ 53)]
  · have whole := mul_zpow_le large
    have least := two_zpow_pos (-1075)
    linarith

theorem significandFor_close (num : ℕ) (some_den : den ≠ 0) :
    |(significandFor num den * 2 ^ exponentFor num den - num / den : ℚ)| ≤
      2 ^ exponentFor num den / 2 := by
  have close := roundDiv_close (scaled num den (exponentFor num den)).1
    (scaled_den_pos num some_den (exponentFor num den))
  have power := two_zpow_pos (exponentFor num den)
  rw [scaled_eq] at close
  have split : (significandFor num den * 2 ^ exponentFor num den - num / den : ℚ) =
      (significandFor num den - num / den / 2 ^ exponentFor num den) *
        2 ^ exponentFor num den := by
    field_simp
  rw [split, abs_mul, abs_of_pos power]
  calc _ ≤ 1 / 2 * (2 : ℚ) ^ exponentFor num den := mul_le_mul_of_nonneg_right close power.le
    _ = _ := by ring

end close

theorem round_close {negative : Bool} {num den : ℕ} (some_den : den ≠ 0) {x : Binary64}
    (rounded : round negative num den = some x) :
    |x.magnitude - num / den| ≤ (num / den : ℚ) / 2 ^ 53 + 2 ^ (-1075 : ℤ) := by
  by_cases none : num = 0
  · rw [round, if_pos none] at rounded
    cases rounded
    have nothing : (zero negative).magnitude = 0 := by simp [magnitude, zero]
    rw [nothing, none, Nat.cast_zero, zero_div, zero_div, sub_zero, abs_zero, zero_add]
    exact (two_zpow_pos _).le
  · rcases round_cases negative none den with ⟨y, made, same⟩ | ⟨failed, _⟩
    · rw [made] at rounded
      cases rounded
      rw [same]
      exact (significandFor_close num some_den).trans (half_step_le none some_den)
    · rw [failed] at rounded
      cases rounded

theorem round_isSome (negative : Bool) {num den : ℕ} (some_den : den ≠ 0)
    (small : (num / den : ℚ) < ceiling) : (round negative num den).isSome = true := by
  by_cases none : num = 0
  · rw [round, if_pos none]
    rfl
  · rcases round_cases negative none den with ⟨y, made, _⟩ | ⟨_, large⟩
    · rw [made]
      rfl
    · have step := two_zpow_pos (exponentFor num den)
      refine absurd small (not_lt.mpr ?_)
      rcases large with high | ⟨high, carried⟩
      · have least : exponentFor num den ≠ -1074 := by omega
        have whole := mul_zpow_le ((exponentFor_cases none some_den).resolve_left least)
        have next : (ceiling : ℚ) ≤ (0x20000000000000 - 1 / 2) * 2 ^ (exponentFor num den - 1) :=
          ceiling_le (by omega)
        rw [zpow_sub_one₀ two_ne_zero] at next
        linarith
      · have close := (abs_le.mp (significandFor_close num some_den)).2
        have reached := ceiling_le high
        rw [carried] at close
        push_cast at close
        linarith

end RoadRegistry.Binary64
