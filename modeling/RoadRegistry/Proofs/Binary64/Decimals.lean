import RoadRegistry.Proofs.Binary64.Shortest

namespace RoadRegistry.Binary64

variable {x y : Binary64}

theorem magnitude_nonneg (x : Binary64) : 0 ≤ x.magnitude :=
  mul_nonneg (Nat.cast_nonneg _) (two_zpow_pos _).le

theorem fraction_den_pos (x : Binary64) : 0 < x.fraction.2 := by
  unfold fraction
  split
  · exact Nat.one_pos
  · exact Nat.two_pow_pos _

theorem pow_70_lt_ceiling : 2 ^ 70 < ceiling := by
  have small := pow_le_pow_right₀ (by decide : 1 ≤ 2) (by decide : 70 ≤ 970)
  rw [← halfStep] at small
  unfold ceiling
  omega

theorem cast_pow_70_lt_ceiling : (2 : ℚ) ^ 70 < ceiling := by
  exact_mod_cast pow_70_lt_ceiling

theorem speck_le : (2 : ℚ) ^ (-1075 : ℤ) ≤ 1 / 2 ^ 60 := by
  rw [one_div, ← zpow_natCast, ← zpow_neg]
  exact zpow_le_zpow_right₀ one_le_two (by decide)

theorem exists_round (negative : Bool) {num den : ℕ} (some_den : den ≠ 0)
    (small : (num / den : ℚ) < ceiling) :
    ∃ x, round negative num den = some x ∧
      |x.magnitude - num / den| ≤ (num / den : ℚ) / 2 ^ 53 + 1 / 2 ^ 60 := by
  obtain ⟨x, rounded⟩ := Option.isSome_iff_exists.mp (round_isSome negative some_den small)
  have close := round_close some_den rounded
  exact ⟨x, rounded, close.trans (add_le_add_right speck_le _)⟩

theorem exists_ofNat (negative : Bool) {n : ℕ} (small : n < ceiling) :
    ∃ x, ofNat negative n = some x ∧ |x.magnitude - n| ≤ (n : ℚ) / 2 ^ 53 + 1 / 2 ^ 60 := by
  have whole : (n / (1 : ℕ) : ℚ) = n := by rw [Nat.cast_one, div_one]
  have below : (n / (1 : ℕ) : ℚ) < ceiling := by
    rw [whole]
    exact_mod_cast small
  have rounded := exists_round negative one_ne_zero below
  rwa [whole] at rounded

theorem exists_mul (small : x.magnitude * y.magnitude < ceiling) :
    ∃ z, x.mul y = some z := by
  have quotient : ((x.fraction.1 * y.fraction.1 : ℕ) / (x.fraction.2 * y.fraction.2 : ℕ) : ℚ) =
      x.magnitude * y.magnitude := by
    rw [← x.fraction_eq, ← y.fraction_eq, div_mul_div_comm, Nat.cast_mul, Nat.cast_mul]
  have dens : x.fraction.2 * y.fraction.2 ≠ 0 :=
    (Nat.mul_pos x.fraction_den_pos y.fraction_den_pos).ne'
  obtain ⟨z, rounded, _⟩ := exists_round (x.negative != y.negative) dens (by rwa [quotient])
  exact ⟨z, rounded⟩

theorem exists_div (small : 2 * x.magnitude < ceiling) (divisor : 1 / 2 ≤ y.magnitude) :
    ∃ z, x.div y = some z ∧ z.magnitude ≤ 4 * x.magnitude + 1 := by
  have quotient : ((x.fraction.1 * y.fraction.2 : ℕ) / (x.fraction.2 * y.fraction.1 : ℕ) : ℚ) =
      x.magnitude / y.magnitude := by
    rw [← x.fraction_eq, ← y.fraction_eq, div_div_div_eq, Nat.cast_mul, Nat.cast_mul]
  have lower : x.magnitude / y.magnitude ≤ 2 * x.magnitude := by
    rw [div_le_iff₀ (by linarith)]
    linarith [mul_le_mul_of_nonneg_left divisor x.magnitude_nonneg]
  have some_num : y.fraction.1 ≠ 0 := by
    intro none
    have nothing := y.fraction_eq
    rw [none, Nat.cast_zero, zero_div] at nothing
    linarith
  have dens : x.fraction.2 * y.fraction.1 ≠ 0 := Nat.mul_ne_zero x.fraction_den_pos.ne' some_num
  obtain ⟨z, rounded, close⟩ := exists_round (x.negative != y.negative) dens
    (by rw [quotient]; exact lower.trans_lt small)
  rw [quotient] at close
  have positive : 0 ≤ x.magnitude / y.magnitude := div_nonneg x.magnitude_nonneg (by linarith)
  refine ⟨z, rounded, ?_⟩
  have above := (abs_le.mp close).2
  have part : x.magnitude / y.magnitude / 2 ^ 53 ≤ x.magnitude / y.magnitude :=
    div_le_self positive (by norm_num)
  linarith

theorem exists_power {places : ℕ} (few : places ≤ 308) :
    ∃ p, ofNat false (Nat.pow 10 places) = some p ∧ 1 / 2 ≤ p.magnitude ∧
      p.magnitude ≤ 10 ^ places * (1 + 1 / 2 ^ 53 + 1 / 2 ^ 60) := by
  have small : Nat.pow 10 places < ceiling := by
    have bounds := halfStep_close
    have below := pow_le_pow_right₀ (by decide : 1 ≤ 10) few
    rw [show 308 = 16 + 292 from rfl, pow_add_292] at below
    rw [Nat.pow_eq]
    unfold ceiling
    omega
  obtain ⟨p, made, close⟩ := exists_ofNat false small
  have one : (1 : ℚ) ≤ 10 ^ places := one_le_pow₀ (by norm_num)
  rw [Nat.pow_eq, Nat.cast_pow, Nat.cast_ofNat] at close
  obtain ⟨lower, upper⟩ := abs_le.mp close
  refine ⟨p, made, ?_, ?_⟩ <;> linarith

theorem exists_significand (negative : Bool) {significand : ℕ}
    (fits : significand < 0x10000000000000000) (some_digits : significand ≠ 0) :
    ∃ x, ofNat negative significand = some x ∧ x.magnitude ≤ 2 ^ 65 ∧
      x.magnitude ≤ significand * (1 + 1 / 2 ^ 53 + 1 / 2 ^ 60) := by
  have small : significand < ceiling := by
    have large := pow_70_lt_ceiling
    omega
  obtain ⟨x, made, close⟩ := exists_ofNat negative small
  have one : (1 : ℚ) ≤ significand := by exact_mod_cast Nat.one_le_iff_ne_zero.mpr some_digits
  have bound : (significand : ℚ) < 0x10000000000000000 := by exact_mod_cast fits
  have upper := (abs_le.mp close).2
  refine ⟨x, made, ?_, ?_⟩ <;> linarith

theorem ofDecimal_zero (negative : Bool) (exponent : ℤ) :
    ofDecimal negative 0 exponent = some (zero negative) := by
  have vanished : shrink 3 (zero negative) exponent = some (zero negative, exponent) := by
    rw [shrink, if_pos (.inr rfl)]
  have made : ofNat negative 0 = some (zero negative) := rfl
  simp only [ofDecimal, made, vanished, Option.bind_eq_bind, Option.bind_some]
  rfl

theorem shrink_of_divided {y z : Binary64} {exponent : ℤ} {places : ℕ}
    (done : ¬(-308 ≤ exponent ∨ x.isZero = true)) (most : places = 308)
    (made : ofNat false (Nat.pow 10 places) = some y) (divided : x.div y = some z) (steps : ℕ) :
    shrink (steps + 1) x exponent = shrink steps z (exponent + 308) := by
  rw [shrink, if_neg done, ← most, made]
  simp only [Option.bind_eq_bind, Option.bind_some, divided]

/-- One division by the greatest power of ten is enough for the exponents that may be met. -/
theorem exists_shrink (small : x.magnitude ≤ 2 ^ 65) {exponent : ℤ} (low : -616 ≤ exponent)
    (below : exponent < 0) :
    ∃ z least, shrink 3 x exponent = some (z, least) ∧ z.magnitude ≤ 2 ^ 68 ∧ least < 0 ∧
      (z.isZero = true ∨ -308 ≤ least) := by
  by_cases done : -308 ≤ exponent ∨ x.isZero = true
  · refine ⟨x, exponent, ?_, by linarith, below, done.symm⟩
    rw [shrink, if_pos done]
  · have ceiling_large := cast_pow_70_lt_ceiling
    -- The power of ten stays a variable: it is too large to be computed by unification.
    obtain ⟨places, most⟩ : ∃ places, places = 308 := ⟨308, rfl⟩
    obtain ⟨divisor, made, nonzero, _⟩ := exists_power most.le
    obtain ⟨z, divided, close⟩ := exists_div (x := x) (by linarith) nonzero
    have enough : -308 ≤ exponent + 308 := by omega
    refine ⟨z, exponent + 308, ?_, by linarith, by omega, .inr enough⟩
    rw [shrink_of_divided done most made divided, shrink, if_pos (.inl enough)]

theorem exists_ofDecimal_of_neg (negative : Bool) {significand : ℕ}
    (fits : significand < 0x10000000000000000) {exponent : ℤ} (low : -616 ≤ exponent)
    (below : exponent < 0) : ∃ x, ofDecimal negative significand exponent = some x := by
  by_cases some_digits : significand = 0
  · rw [some_digits]
    exact ⟨_, ofDecimal_zero negative exponent⟩
  obtain ⟨x, made, bound, _⟩ := exists_significand negative fits some_digits
  obtain ⟨z, least, shrunk, small, still_below, enough⟩ := exists_shrink bound low below
  simp only [ofDecimal, made, shrunk, Option.bind_eq_bind, Option.bind_some]
  by_cases vanished : z.isZero = true
  · exact ⟨z, if_pos vanished⟩
  · have few : least.natAbs ≤ 308 := by
      have := enough.resolve_left vanished
      omega
    obtain ⟨power, powered, nonzero, _⟩ := exists_power few
    have ceiling_large := cast_pow_70_lt_ceiling
    obtain ⟨w, divided, _⟩ := exists_div (x := z) (by linarith) nonzero
    refine ⟨w, ?_⟩
    rw [if_neg vanished, if_neg (by omega), powered, Option.bind_some, if_neg (by omega), divided]

theorem places_le_of_le_ceiling {significand places : ℕ} (some_digits : significand ≠ 0)
    (reached : significand * 10 ^ places ≤ ceiling) : places ≤ 308 := by
  by_contra many
  have power : 10 ^ (17 + 292) ≤ significand * 10 ^ places :=
    (pow_le_pow_right₀ (by decide) (by omega)).trans
      (Nat.le_mul_of_pos_left _ (Nat.pos_of_ne_zero some_digits))
  have bounds := halfStep_close
  rw [pow_add_292] at power
  unfold ceiling at reached
  omega

theorem exists_ofDecimal_of_room (negative : Bool) {significand places : ℕ}
    (fits : significand < 0x10000000000000000)
    (room : (significand * 10 ^ places * (1 + 5 / 2 ^ 54) : ℚ) ≤ ceiling) :
    ∃ x, ofDecimal negative significand places = some x := by
  by_cases some_digits : significand = 0
  · rw [some_digits]
    exact ⟨_, ofDecimal_zero negative places⟩
  obtain ⟨x, made, _, above⟩ := exists_significand negative fits some_digits
  have one : (1 : ℚ) ≤ significand := by exact_mod_cast Nat.one_le_iff_ne_zero.mpr some_digits
  have whole : (0 : ℚ) < significand * 10 ^ places := by positivity
  have reached : (significand * 10 ^ places : ℚ) ≤ ceiling := by linarith
  have few := places_le_of_le_ceiling some_digits (by exact_mod_cast reached)
  obtain ⟨power, powered, _, power_above⟩ := exists_power few
  have product : x.magnitude * power.magnitude < ceiling := by
    have both := mul_le_mul above power_above power.magnitude_nonneg
      (by positivity : (0 : ℚ) ≤ significand * (1 + 1 / 2 ^ 53 + 1 / 2 ^ 60))
    calc _ ≤ (significand * 10 ^ places : ℚ) * (1 + 1 / 2 ^ 53 + 1 / 2 ^ 60) ^ 2 := by
          rw [sq]
          linarith
      _ < significand * 10 ^ places * (1 + 5 / 2 ^ 54) :=
          mul_lt_mul_of_pos_left (by norm_num) whole
      _ ≤ _ := room
  obtain ⟨w, multiplied⟩ := exists_mul product
  have at_once : shrink 3 x places = some (x, (places : ℤ)) := by
    rw [shrink, if_pos (.inl (by omega))]
  simp only [ofDecimal, made, at_once, Option.bind_eq_bind, Option.bind_some]
  by_cases vanished : x.isZero = true
  · exact ⟨x, if_pos vanished⟩
  · refine ⟨w, ?_⟩
    rw [if_neg vanished, if_neg (by omega), Int.natAbs_natCast, powered, Option.bind_some,
      if_pos (Int.natCast_nonneg places), multiplied]

theorem exists_ofDecimal_of_scaled (negative : Bool) {significand places : ℕ}
    (fits : significand < 0x10000000000000000)
    (room : significand * 10 ^ places * (2 ^ 54 + 5) ≤ ceiling * 2 ^ 54) :
    ∃ x, ofDecimal negative significand places = some x := by
  apply exists_ofDecimal_of_room negative fits
  have cast : (significand * 10 ^ places * (2 ^ 54 + 5) : ℚ) ≤ ceiling * 2 ^ 54 := by
    exact_mod_cast room
  linarith

/-- The last few decimal numbers below the ceiling leave no room, but are not rounded beyond it. -/
theorem isSome_ofDecimal_last : ∀ last < 4, ∀ negative,
    (ofDecimal negative (17976931348623154 + last) (292 : ℕ)).isSome = true := by decide +kernel

/-- No decimal number up to that of the greatest number is too large, when its digits are so few
that they end where those do. -/
theorem exists_ofDecimal_of_le_greatest (negative : Bool) {significand places : ℕ}
    (fits : significand < 0x10000000000000000) (far : 292 ≤ places)
    (small : significand * 10 ^ places ≤ greatest) :
    ∃ x, ofDecimal negative significand places = some x := by
  obtain ⟨more, rfl⟩ : ∃ more, places = more + 292 := ⟨places - 292, by omega⟩
  have power := pow_add_292 more
  have inside : significand * 10 ^ more ≤ 17976931348623157 := by
    rw [power, ← Nat.mul_assoc] at small
    exact Nat.le_of_mul_le_mul_right small lastPlace_pos
  by_cases inner : significand * 10 ^ more ≤ 17976931348623153
  · apply exists_ofDecimal_of_scaled negative fits
    have bounds := halfStep_close
    have bound := Nat.mul_le_mul_right lastPlace inner
    rw [power, ← Nat.mul_assoc]
    unfold ceiling
    omega
  · -- With a zero at its end it would be a multiple of ten, and there is none so near.
    obtain rfl : more = 0 := by
      by_contra some_more
      obtain ⟨fewer, rfl⟩ := Nat.exists_eq_succ_of_ne_zero some_more
      rw [Nat.pow_succ, ← Nat.mul_assoc] at inside inner
      omega
    rw [pow_zero, Nat.mul_one] at inside inner
    obtain ⟨last, few, rfl⟩ : ∃ last < 4, significand = 17976931348623154 + last :=
      ⟨significand - 17976931348623154, by omega, by omega⟩
    rw [Nat.zero_add]
    exact Option.isSome_iff_exists.mp (isSome_ofDecimal_last last few negative)

theorem exists_ofDecimal_of_nonpos (negative : Bool) {significand : ℕ}
    (fits : significand < 0x10000000000000000) {exponent : ℤ} (low : -616 ≤ exponent)
    (behind : exponent ≤ 0) : ∃ x, ofDecimal negative significand exponent = some x := by
  rcases behind.lt_or_eq with below | rfl
  · exact exists_ofDecimal_of_neg negative fits low below
  · have room : significand * 10 ^ 0 * (2 ^ 54 + 5) ≤ ceiling * 2 ^ 54 := by
      have large := pow_70_lt_ceiling
      rw [pow_zero, Nat.mul_one]
      omega
    exact exists_ofDecimal_of_scaled negative fits room

theorem exists_ofDecimal_of_le_shortest (negative : Bool) {x : Binary64}
    (some_number : x.significand ≠ 0) {significand : ℕ}
    (fits : significand < 0x10000000000000000) {exponent : ℤ}
    (higher : x.shortest.exponent ≤ exponent)
    (small : significand * (10 : ℚ) ^ exponent ≤ x.shortest.value) :
    ∃ y, ofDecimal negative significand exponent = some y := by
  have lowest := shortest_ge some_number
  rcases le_total exponent 0 with behind | before
  · exact exists_ofDecimal_of_nonpos negative fits (by omega) behind
  obtain ⟨places, rfl⟩ := Int.eq_ofNat_of_zero_le before
  rw [zpow_natCast] at small
  rcases shortest_bounded some_number with far_below | ⟨far, near⟩
  · have bound : significand * 10 ^ places ≤ moderate := by
      exact_mod_cast small.trans far_below
    have bounds := halfStep_close
    apply exists_ofDecimal_of_scaled negative fits
    unfold moderate at bound
    unfold ceiling
    omega
  · have bound : significand * 10 ^ places ≤ greatest := by
      exact_mod_cast small.trans near
    exact exists_ofDecimal_of_le_greatest negative fits (by omega) bound

end RoadRegistry.Binary64
