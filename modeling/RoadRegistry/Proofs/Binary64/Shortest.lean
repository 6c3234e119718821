import RoadRegistry.Proofs.Binary64.Rounding

namespace RoadRegistry.Binary64

theorem fraction_eq (x : Binary64) : (x.fraction.1 : ℚ) / x.fraction.2 = x.magnitude := by
  unfold fraction magnitude
  split
  · next positive =>
    simp only [Nat.pow_eq, Nat.cast_mul, Nat.cast_pow, Nat.cast_ofNat, Nat.cast_one, div_one,
      zpow_toNat positive]
  · next negative =>
    simp only [Nat.pow_eq, Nat.cast_pow, Nat.cast_ofNat, zpow_neg_toNat (not_le.mp negative).le,
      div_inv_eq_mul]

theorem step_eq (x : Binary64) : (x.step.1 : ℚ) / x.step.2 = 2 ^ x.exponent := by
  unfold step
  split
  · next positive =>
    simp only [Nat.pow_eq, Nat.cast_pow, Nat.cast_ofNat, Nat.cast_one, div_one,
      zpow_toNat positive]
  · next negative =>
    simp only [Nat.pow_eq, Nat.cast_pow, Nat.cast_ofNat, Nat.cast_one,
      zpow_neg_toNat (not_le.mp negative).le, one_div, inv_inv]

theorem step_pos (x : Binary64) : 0 < x.step.2 := by
  unfold step
  split
  · exact Nat.one_pos
  · exact Nat.two_pow_pos _

namespace Decimal

def value (d : Decimal) : ℚ := d.digits * 10 ^ d.exponent

theorem fraction_eq (d : Decimal) : (d.fraction.1 : ℚ) / d.fraction.2 = d.value := by
  unfold fraction value
  split
  · next positive =>
    simp only [Nat.pow_eq, Nat.cast_mul, Nat.cast_pow, Nat.cast_ofNat, Nat.cast_one, div_one,
      zpow_toNat positive]
  · next negative =>
    simp only [Nat.pow_eq, Nat.cast_pow, Nat.cast_ofNat, zpow_neg_toNat (not_le.mp negative).le,
      div_inv_eq_mul]

theorem fraction_pos (d : Decimal) : 0 < d.fraction.2 := by
  unfold fraction
  split
  · exact Nat.one_pos
  · exact Nat.pow_pos (by decide)

theorem strip_spec (steps : ℕ) (d : Decimal) :
    (d.strip steps).value = d.value ∧ d.exponent ≤ (d.strip steps).exponent ∧
      (d.digits = 0 → d.strip steps = d) ∧ (d.digits ≠ 0 → (d.strip steps).digits ≠ 0) := by
  induction steps generalizing d with
  | zero => exact ⟨rfl, le_rfl, fun _ => rfl, id⟩
  | succ steps ih =>
    unfold strip
    split
    · next shortened =>
      obtain ⟨some_digits, last⟩ := shortened
      obtain ⟨same, higher, _, kept⟩ := ih ⟨d.digits / 10, d.exponent + 1⟩
      have tenth : d.digits = 10 * (d.digits / 10) := by omega
      refine ⟨same.trans ?_, by simp only at higher; omega, fun none => absurd none some_digits,
        fun _ => kept (by simp only; omega)⟩
      have whole : (d.digits : ℚ) = 10 * ((d.digits / 10 : ℕ) : ℚ) := by exact_mod_cast tenth
      rw [value, value, whole, zpow_add_one₀ (by norm_num)]
      ring
    · exact ⟨rfl, le_rfl, fun _ => rfl, id⟩

end Decimal

variable {x : Binary64} {d : Decimal}

theorem reads_bounds (read : x.reads d = true) :
    (4 * x.significand - 2) * (d.fraction.2 * x.step.1) ≤ 4 * d.fraction.1 * x.step.2 ∧
      4 * d.fraction.1 * x.step.2 ≤ (4 * x.significand + 2) * (d.fraction.2 * x.step.1) := by
  have low : 4 * x.significand - 2 ≤ if x.significand = 0x10000000000000 ∧ x.exponent ≠ -1074 then
      4 * x.significand - 1 else 4 * x.significand - 2 := by split <;> omega
  have scaled := Nat.mul_le_mul_right (d.fraction.2 * x.step.1) low
  unfold reads at read
  simp only at read
  split at read
  · simp only [Bool.and_eq_true, decide_eq_true_eq] at read
    exact ⟨scaled.trans read.1, read.2⟩
  · simp only [Bool.and_eq_true, decide_eq_true_eq] at read
    exact ⟨scaled.trans read.1.le, read.2.le⟩

theorem reads_close (read : x.reads d = true) :
    (4 * x.significand - 2 : ℚ) * 2 ^ x.exponent ≤ 4 * d.value ∧
      4 * d.value ≤ (4 * x.significand + 2 : ℚ) * 2 ^ x.exponent := by
  have step_den : (0 : ℚ) < x.step.2 := by exact_mod_cast x.step_pos
  have den : (0 : ℚ) < d.fraction.2 := by exact_mod_cast d.fraction_pos
  obtain ⟨low, high⟩ := reads_bounds read
  have lower : (4 * x.significand - 2 : ℚ) ≤ ((4 * x.significand - 2 : ℕ) : ℚ) := by
    rw [sub_le_iff_le_add]
    exact_mod_cast (by omega : 4 * x.significand ≤ 4 * x.significand - 2 + 2)
  have above : ((4 * x.significand - 2 : ℕ) * (d.fraction.2 * x.step.1) : ℚ) ≤
      4 * d.fraction.1 * x.step.2 := by exact_mod_cast low
  have below : (4 * d.fraction.1 * x.step.2 : ℚ) ≤
      (4 * x.significand + 2) * (d.fraction.2 * x.step.1) := by exact_mod_cast high
  have unit : (0 : ℚ) ≤ d.fraction.2 * x.step.1 := by positivity
  rw [← x.step_eq, ← d.fraction_eq, mul_div_assoc', mul_div_assoc', mul_div_assoc']
  constructor
  · rw [div_le_div_iff₀ step_den den]
    linarith [mul_le_mul_of_nonneg_right lower unit]
  · rw [div_le_div_iff₀ den step_den]
    linarith

theorem digits_ne_zero_of_reads (read : x.reads d = true) (some_number : x.significand ≠ 0) :
    d.digits ≠ 0 := by
  intro none
  have nothing : d.value = 0 := by rw [Decimal.value, none, Nat.cast_zero, zero_mul]
  have low := (reads_close read).1
  have one : (1 : ℚ) ≤ x.significand := by exact_mod_cast Nat.one_le_iff_ne_zero.mpr some_number
  have positive : (0 : ℚ) < (4 * x.significand - 2) * 2 ^ x.exponent :=
    mul_pos (by linarith) (two_zpow_pos _)
  rw [nothing, mul_zero] at low
  exact absurd low (not_le.mpr positive)

theorem exponent_of_mem_neighbours {exponent : ℤ} (member : d ∈ neighbours x exponent) :
    d.exponent = exponent := by
  unfold neighbours at member
  simp only at member
  split at member
  all_goals
    rcases List.mem_cons.mp member with rfl | last
    · rfl
    · rw [List.mem_singleton.mp last]

theorem search_spec {leading : ℤ} {steps places : ℕ}
    (found : search x leading steps places = some d) :
    x.reads d = true ∧ leading - (places + steps) < d.exponent := by
  induction steps generalizing places with
  | zero => cases found
  | succ steps ih =>
    unfold search at found
    split at found
    · next first here =>
      cases found
      have grid := exponent_of_mem_neighbours (List.mem_of_find?_eq_some here)
      exact ⟨List.find?_some here, by omega⟩
    · obtain ⟨read, above⟩ := ih found
      exact ⟨read, by push_cast at above; omega⟩

theorem search_ne_none {leading : ℤ} {steps places later : ℕ} (from_here : places ≤ later)
    (inside : later < places + steps)
    (there : (neighbours x (leading - later)).find? x.reads ≠ none) :
    search x leading steps places ≠ none := by
  induction steps generalizing places with
  | zero => omega
  | succ steps ih =>
    unfold search
    split
    · nofun
    · next missing =>
      have further : places ≠ later := by
        rintro rfl
        exact there missing
      exact ih (by omega) (by omega)

theorem below_ge (den steps num : ℕ) (exponent : ℤ) :
    exponent - steps ≤ leadingExponent.below den steps num exponent := by
  induction steps generalizing num exponent with
  | zero => exact (Int.sub_le_self _ (by simp))
  | succ steps ih =>
    unfold leadingExponent.below
    split
    · omega
    · have := ih (num * 10) (exponent - 1)
      push_cast at this ⊢
      omega

theorem leadingExponent_ge (num den : ℕ) : -330 ≤ leadingExponent num den := by
  unfold leadingExponent
  split
  · omega
  · exact below_ge den 330 num 0

theorem shortest_cases (some_number : x.significand ≠ 0) :
    (∃ d, search x (leadingExponent x.fraction.1 x.fraction.2) 17 0 = some d ∧
      x.shortest = d.strip 20) ∨
    search x (leadingExponent x.fraction.1 x.fraction.2) 17 0 = none ∧
      x.shortest = ⟨x.fraction.1 / x.fraction.2, 0⟩ := by
  have nonzero : ¬x.isZero = true := fun zero => some_number (beq_iff_eq.mp zero)
  unfold shortest
  rw [if_neg nonzero]
  simp only
  cases search x (leadingExponent x.fraction.1 x.fraction.2) 17 0 with
  | some d => exact .inl ⟨d, rfl, rfl⟩
  | none => exact .inr ⟨rfl, rfl⟩

theorem shortest_le (some_number : x.significand ≠ 0) :
    4 * x.shortest.value ≤ (4 * x.significand + 2 : ℚ) * 2 ^ x.exponent := by
  rcases shortest_cases some_number with ⟨d, found, same⟩ | ⟨_, same⟩
  · rw [same, (d.strip_spec 20).1]
    exact (reads_close (search_spec found).1).2
  · have floor : ((x.fraction.1 / x.fraction.2 : ℕ) : ℚ) ≤ x.fraction.1 / x.fraction.2 :=
      Nat.cast_div_le
    rw [fraction_eq, magnitude] at floor
    rw [same, Decimal.value, zpow_zero, mul_one]
    linarith [two_zpow_pos x.exponent]

theorem shortest_ge (some_number : x.significand ≠ 0) : -346 ≤ x.shortest.exponent := by
  rcases shortest_cases some_number with ⟨d, found, same⟩ | ⟨_, same⟩
  · have grid := (search_spec found).2
    have high := (d.strip_spec 20).2.1
    have leading := leadingExponent_ge x.fraction.1 x.fraction.2
    rw [same]
    push_cast at grid
    omega
  · rw [same]
    exact (by decide : (-346 : ℤ) ≤ 0)

theorem shortest_digits (some_number : x.significand ≠ 0) :
    x.shortest.digits ≠ 0 ∨ x.shortest.exponent = 0 := by
  rcases shortest_cases some_number with ⟨d, found, same⟩ | ⟨_, same⟩
  · left
    rw [same]
    exact (d.strip_spec 20).2.2.2
      (digits_ne_zero_of_reads (search_spec found).1 some_number)
  · right
    rw [same]

theorem reads_of_near (inner : x.significand ≠ 0x10000000000000)
    (above : (4 * x.significand - 2) * (d.fraction.2 * x.step.1) < 4 * d.fraction.1 * x.step.2)
    (below : 4 * d.fraction.1 * x.step.2 < (4 * x.significand + 2) * (d.fraction.2 * x.step.1)) :
    x.reads d = true := by
  have low : (if x.significand = 0x10000000000000 ∧ x.exponent ≠ -1074 then
      4 * x.significand - 1 else 4 * x.significand - 2) = 4 * x.significand - 2 :=
    if_neg fun both => inner both.1
  unfold reads
  simp only [low]
  split
  · exact Bool.and_eq_true_iff.mpr ⟨decide_eq_true above.le, decide_eq_true below.le⟩
  · exact Bool.and_eq_true_iff.mpr ⟨decide_eq_true above, decide_eq_true below⟩

theorem neighbours_near (x : Binary64) {exponent : ℤ} (units : 0 < (x.inUnits exponent).2) :
    ∃ digits other, neighbours x exponent = [⟨digits, exponent⟩, other] ∧
      2 * (digits * (x.inUnits exponent).2) ≤
        2 * (x.inUnits exponent).1 + (x.inUnits exponent).2 ∧
      2 * (x.inUnits exponent).1 ≤
        2 * (digits * (x.inUnits exponent).2) + (x.inUnits exponent).2 := by
  have whole := Nat.div_add_mod' (x.inUnits exponent).1 (x.inUnits exponent).2
  have part := Nat.mod_lt (x.inUnits exponent).1 units
  unfold neighbours
  simp only
  split
  · exact ⟨_, _, rfl, by omega, by omega⟩
  · refine ⟨_, _, rfl, ?_, ?_⟩
    · rw [Nat.add_mul, Nat.one_mul]
      omega
    · rw [Nat.add_mul, Nat.one_mul]
      omega

theorem fraction_of_whole (whole : 0 ≤ x.exponent) :
    x.fraction = (x.significand * 2 ^ x.exponent.toNat, 1) := if_pos whole

theorem step_of_whole (whole : 0 ≤ x.exponent) : x.step = (2 ^ x.exponent.toNat, 1) :=
  if_pos whole

theorem inUnits_of_whole (whole : 0 ≤ x.exponent) (places : ℕ) :
    x.inUnits places = (x.significand * 2 ^ x.exponent.toNat, 10 ^ places) := by
  unfold inUnits
  rw [fraction_of_whole whole]
  simp only
  rw [if_pos (Int.natCast_nonneg places), Nat.pow_eq, Int.toNat_natCast, Nat.one_mul]

theorem find?_of_fine (whole : 0 ≤ x.exponent) (some_number : x.significand ≠ 0)
    (inner : x.significand ≠ 0x10000000000000) {places : ℕ}
    (fine : 10 ^ places < 2 ^ x.exponent.toNat) :
    (neighbours x places).find? x.reads ≠ none := by
  have units := inUnits_of_whole whole places
  have some_units : 0 < (x.inUnits places).2 := by
    rw [units]
    exact pow_pos (by decide) _
  obtain ⟨digits, other, listed, above, below⟩ := x.neighbours_near some_units
  have decimal : (⟨digits, places⟩ : Decimal).fraction = (digits * 10 ^ places, 1) := by
    rw [Decimal.fraction, if_pos (Int.natCast_nonneg places), Nat.pow_eq, Int.toNat_natCast]
  have read : x.reads ⟨digits, places⟩ = true := by
    have step : 2 ^ x.exponent.toNat ≤ x.significand * 2 ^ x.exponent.toNat :=
      Nat.le_mul_of_pos_left _ (Nat.pos_of_ne_zero some_number)
    rw [units] at above below
    apply reads_of_near inner
    all_goals
      rw [decimal, step_of_whole whole]
      simp only [Nat.mul_one, Nat.one_mul, Nat.sub_mul, Nat.add_mul, Nat.mul_assoc] at above below ⊢
      omega
  rw [listed, List.find?_cons_of_pos read]
  nofun

def lastPlace : ℕ := 10 ^ 292

theorem halfStep_close :
    99792015476735990582 * lastPlace < 100000000000000000000 * halfStep ∧
      100000000000000000000 * halfStep < 99792015476735990583 * lastPlace := by decide +kernel

theorem lastPlace_pos : 0 < lastPlace := by
  have bounds := halfStep_close
  omega

theorem pow_add_292 (n : ℕ) : 10 ^ (n + 292) = 10 ^ n * lastPlace := pow_add 10 n 292

def greatest : ℕ := 17976931348623157 * lastPlace

/-- Decimal numbers up to here are far from the ceiling. -/
def moderate : ℕ := 15000000000000000 * lastPlace

def topStep : ℕ := halfStep * 2

theorem topStep_eq : (topStep : ℚ) = 2 ^ (971 : ℤ) := by
  rw [← halfStep_eq, topStep, Nat.cast_mul, Nat.cast_ofNat]

theorem length_toDigits_eq {n places : ℕ} (some_places : 0 < places) (low : 10 ^ places ≤ n)
    (high : n < 10 ^ (places + 1)) : (Nat.toDigits 10 n).length = places + 1 := by
  apply le_antisymm
  · exact (Nat.length_toDigits_le_iff (by decide) places.succ_pos).mpr high
  · rw [Nat.succ_le_iff, ← not_le, Nat.length_toDigits_le_iff (by decide) some_places]
    exact not_lt.mpr low

theorem exponent_of_large (highest : x.exponent = 971)
    (large : 10 ^ (16 + 292) ≤ x.significand * topStep) : 292 ≤ x.shortest.exponent := by
  have whole : 0 ≤ x.exponent := by omega
  have power : 2 ^ x.exponent.toNat = topStep := by
    have next : x.exponent.toNat = 970 + 1 := by omega
    rw [next, pow_succ, topStep, halfStep]
  have bounds := halfStep_close
  have inner : 0x10000000000000 < x.significand := by
    rw [pow_add_292] at large
    by_contra small
    have below := Nat.mul_le_mul_right topStep (not_lt.mp small)
    unfold topStep at below large
    omega
  have leading : leadingExponent x.fraction.1 x.fraction.2 = 308 := by
    have small : x.significand * topStep < 10 ^ (16 + 292 + 1) := by
      have below := Nat.mul_le_mul_right topStep x.bounded.1.le
      rw [pow_succ, pow_add_292]
      unfold topStep at below ⊢
      omega
    have length := length_toDigits_eq (by decide) large small
    have positive : 1 ≤ x.significand * topStep := (Nat.one_le_pow _ _ (by decide)).trans large
    rw [fraction_of_whole whole, power, leadingExponent, if_pos positive, Nat.div_one, length]
    rfl
  have some_number : x.significand ≠ 0 := by omega
  have fine : 10 ^ 292 < 2 ^ x.exponent.toNat := by
    rw [power, ← lastPlace, topStep]
    omega
  have near := find?_of_fine whole some_number inner.ne' fine
  have found : search x 308 17 0 ≠ none := search_ne_none (Nat.zero_le 16) (by decide) near
  rcases shortest_cases some_number with ⟨d, here, same⟩ | ⟨nothing, _⟩
  · have grid := (search_spec here).2
    have high := (d.strip_spec 20).2.1
    rw [same]
    rw [leading] at grid
    push_cast at grid
    omega
  · rw [leading] at nothing
    exact absurd nothing found

theorem shortest_greatest (negative : Bool) :
    shortest ⟨negative, 0x1fffffffffffff, 971, by decide⟩ = ⟨17976931348623157, 292⟩ := by
  revert negative
  decide +kernel

theorem shortest_le_moderate (some_number : x.significand ≠ 0)
    (small : x.exponent = 971 → x.significand * topStep < 10 ^ (16 + 292)) :
    x.shortest.value ≤ moderate := by
  have close := shortest_le some_number
  have bounds := halfStep_close
  have step : (4 * x.significand + 2 : ℚ) * 2 ^ x.exponent ≤ 4 * moderate := by
    rcases x.bounded.2.2.lt_or_eq with lower | highest
    · have power : (2 : ℚ) ^ x.exponent ≤ halfStep := by
        have doubled : (2 : ℚ) ^ x.exponent * 2 ≤ halfStep * 2 := by
          rw [halfStep_eq, ← zpow_add_one₀ two_ne_zero]
          exact zpow_le_zpow_right₀ one_le_two (by omega)
        linarith
      have significand : (x.significand : ℚ) + 1 ≤ 0x20000000000000 := by
        exact_mod_cast x.bounded.1
      have enough : (4 * 0x20000000000000 * halfStep : ℚ) ≤ 4 * moderate := by
        have : 4 * 0x20000000000000 * halfStep ≤ 4 * moderate := by
          unfold moderate
          omega
        exact_mod_cast this
      calc _ ≤ (4 * 0x20000000000000 : ℚ) * halfStep :=
            mul_le_mul (by linarith) power (two_zpow_pos _).le (by norm_num)
        _ ≤ _ := enough
    · have enough : (4 * x.significand + 2) * topStep ≤ 4 * moderate := by
        have inside := small highest
        rw [pow_add_292] at inside
        rw [add_mul, mul_assoc]
        generalize x.significand * topStep = product at inside ⊢
        unfold moderate topStep
        omega
      rw [highest, ← topStep_eq]
      exact_mod_cast enough
  linarith

theorem shortest_le_greatest (highest : x.exponent = 971) (some_number : x.significand ≠ 0) :
    x.shortest.value ≤ greatest := by
  by_cases last : x.significand = 0x1fffffffffffff
  · obtain ⟨negative, significand, exponent, bounded⟩ := x
    obtain rfl : significand = 0x1fffffffffffff := last
    obtain rfl : exponent = 971 := highest
    rw [shortest_greatest, Decimal.value, greatest, lastPlace, Nat.cast_mul, Nat.cast_pow,
      show (292 : ℤ) = ((292 : ℕ) : ℤ) from rfl, zpow_natCast]
    rfl
  · have close := shortest_le some_number
    have bounds := halfStep_close
    have enough : (4 * x.significand + 2) * topStep ≤ 4 * greatest := by
      have below : 4 * x.significand + 2 ≤ 4 * 0x1ffffffffffffe + 2 := by
        have := x.bounded.1
        omega
      refine (Nat.mul_le_mul_right _ below).trans ?_
      unfold greatest topStep
      omega
    have above : ((4 * x.significand + 2) * topStep : ℚ) ≤ 4 * greatest := by
      exact_mod_cast enough
    rw [highest, ← topStep_eq] at close
    linarith

/-- The shortest decimal number is far below the ceiling, or it has all its digits far above the
point and is no greater than that of the greatest number. -/
theorem shortest_bounded (some_number : x.significand ≠ 0) :
    x.shortest.value ≤ moderate ∨
      292 ≤ x.shortest.exponent ∧ x.shortest.value ≤ greatest := by
  by_cases large : x.exponent = 971 ∧ 10 ^ (16 + 292) ≤ x.significand * topStep
  · right
    exact ⟨exponent_of_large large.1 large.2, shortest_le_greatest large.1 some_number⟩
  · left
    apply shortest_le_moderate some_number
    intro highest
    exact not_le.mp fun reached => large ⟨highest, reached⟩

end RoadRegistry.Binary64
