import AddonUpkeep.Number.Shortest
import AddonUpkeep.Proofs.Number.Rounding

/-!
# The shortest decimal is within reach

Steps of a power of ten that are shorter than the reach of a number have a multiple within it.  With
seventeen digits they are, so a decimal is found, and it rounds to the number.
-/

namespace AddonUpkeep.Number

open AddonUpkeep.Number.Binary64

/-- The rational that a decimal denotes. -/
def Decimal.value (decimal : Decimal) : ℚ := decimal.digits * 10 ^ decimal.exponent

theorem Decimal.value_go (fuel : Nat) (decimal : Decimal) :
    (Decimal.stripped.go fuel decimal).value = decimal.value := by
  induction fuel generalizing decimal with
  | zero => rfl
  | succ fuel ih =>
    unfold Decimal.stripped.go
    split
    · next hzero =>
      rw [ih]
      unfold Decimal.value
      dsimp only
      have hdigits : decimal.digits = decimal.digits / 10 * 10 := by omega
      have hcast : (decimal.digits : ℚ) = (decimal.digits / 10 : Nat) * 10 := by
        exact_mod_cast hdigits
      rw [hcast, zpow_add_one₀ (by norm_num)]
      ring
    · rfl

/-- Dropping zeros at the end keeps what a decimal denotes. -/
theorem Decimal.value_stripped (decimal : Decimal) : decimal.stripped.value = decimal.value :=
  Decimal.value_go _ _

namespace RoundingInterval

variable {interval : RoundingInterval} {steps : Nat}

/-- What is held lies between the ends, and is an end only when the interval is closed. -/
theorem of_holds (hunit : 0 < interval.unit) (h : interval.holds steps = true) :
    (interval.low / interval.unit : ℚ) ≤ steps ∧ (steps : ℚ) ≤ interval.high / interval.unit ∧
      ((steps : ℚ) = interval.low / interval.unit ∨ (steps : ℚ) = interval.high / interval.unit →
        interval.closed = true) := by
  have hunit' : (0 : ℚ) < interval.unit := by exact_mod_cast hunit
  rw [div_le_iff₀ hunit', le_div_iff₀ hunit', eq_div_iff hunit'.ne', eq_div_iff hunit'.ne']
  unfold holds at h
  dsimp only at h
  split at h
  · next hclosed =>
    rw [Bool.and_eq_true, decide_eq_true_eq, decide_eq_true_eq] at h
    exact ⟨by exact_mod_cast h.1, by exact_mod_cast h.2, fun _ ↦ hclosed⟩
  · rw [Bool.and_eq_true, decide_eq_true_eq, decide_eq_true_eq] at h
    have hlow : (interval.low : ℚ) < steps * interval.unit := by exact_mod_cast h.1
    have hhigh : (steps * interval.unit : ℚ) < interval.high := by exact_mod_cast h.2
    refine ⟨hlow.le, hhigh.le, ?_⟩
    rintro (hend | hend)
    · exact absurd hend hlow.ne'
    · exact absurd hend hhigh.ne

/-- What is not held lies at an end or outside. -/
theorem of_not_holds (hunit : 0 < interval.unit) (h : interval.holds steps = false) :
    (steps : ℚ) ≤ interval.low / interval.unit ∨ (interval.high / interval.unit : ℚ) ≤ steps := by
  have hunit' : (0 : ℚ) < interval.unit := by exact_mod_cast hunit
  rw [le_div_iff₀ hunit', div_le_iff₀ hunit']
  unfold holds at h
  dsimp only at h
  split at h
  · rw [Bool.and_eq_false_iff, decide_eq_false_iff_not, decide_eq_false_iff_not, not_le, not_le] at h
    rcases h with hlow | hhigh
    · exact .inl (by exact_mod_cast hlow.le)
    · exact .inr (by exact_mod_cast hhigh.le)
  · rw [Bool.and_eq_false_iff, decide_eq_false_iff_not, decide_eq_false_iff_not, not_lt, not_lt] at h
    rcases h with hlow | hhigh
    · exact .inl (by exact_mod_cast hlow)
    · exact .inr (by exact_mod_cast hhigh)

theorem holds_of_nearest? {digits : Nat} (h : interval.nearest? = some digits) :
    interval.holds digits = true := by
  unfold nearest? at h
  dsimp only at h
  split at h
  · next hbelow habove =>
    cases h
    split
    · exact habove
    · exact hbelow
  · next hbelow _ =>
    cases h
    exact hbelow
  · next _ habove =>
    cases h
    exact habove
  · simp at h

/-- An interval longer than a step holds one of the neighbours of its value. -/
theorem nearest?_isSome (hunit : 0 < interval.unit) (hlow : interval.low < interval.value)
    (hhigh : interval.value < interval.high)
    (hlong : (1 : ℚ) < interval.high / interval.unit - interval.low / interval.unit) :
    interval.nearest? ≠ none := by
  intro hnone
  have hunit' : (0 : ℚ) < interval.unit := by exact_mod_cast hunit
  obtain ⟨hbelow, habove⟩ : interval.holds (interval.value / interval.unit) = false ∧
      interval.holds (interval.value / interval.unit + 1) = false := by
    unfold nearest? at hnone
    dsimp only at hnone
    split at hnone
    · simp at hnone
    · simp at hnone
    · simp at hnone
    · next hbelow habove => exact ⟨hbelow, habove⟩
  have hfloor : ((interval.value / interval.unit : Nat) : ℚ) * interval.unit ≤ interval.value := by
    exact_mod_cast Nat.div_mul_le_self interval.value interval.unit
  have hceil : (interval.value : ℚ) <
      ((interval.value / interval.unit + 1 : Nat) : ℚ) * interval.unit := by
    exact_mod_cast Nat.lt_mul_of_div_lt (Nat.lt_succ_self _) hunit
  have hlow' : (interval.low : ℚ) < interval.value := by exact_mod_cast hlow
  have hhigh' : (interval.value : ℚ) < interval.high := by exact_mod_cast hhigh
  have hfirst : ((interval.value / interval.unit : Nat) : ℚ) ≤ interval.low / interval.unit := by
    rcases of_not_holds hunit hbelow with hleft | hright
    · exact hleft
    · rw [div_le_iff₀ hunit'] at hright
      linarith
  have hsecond : (interval.high / interval.unit : ℚ) ≤
      ((interval.value / interval.unit + 1 : Nat) : ℚ) := by
    rcases of_not_holds hunit habove with hleft | hright
    · rw [le_div_iff₀ hunit'] at hleft
      linarith
    · exact hright
  push_cast at hsecond
  linarith

theorem unit_inSteps_pos (grid : Int) (h : 0 < interval.unit) : 0 < (interval.inSteps grid).unit :=
  Nat.mul_pos h (tenPow_pos _)

/-- Measuring in steps of a power of ten divides by it. -/
theorem inSteps_ratio (interval : RoundingInterval) (part : RoundingInterval → Nat) (grid : Int)
    (h : part (interval.inSteps grid) = part interval * tenPow (-grid).toNat) :
    (part (interval.inSteps grid) : ℚ) / (interval.inSteps grid).unit =
      (part interval / interval.unit : ℚ) / 10 ^ grid := by
  have hpow := pow_toNat_div 10 grid
  have hunit : (interval.inSteps grid).unit = interval.unit * tenPow grid.toNat := rfl
  rw [h, hunit, ← hpow]
  push_cast
  rw [cast_tenPow, cast_tenPow]
  field_simp

variable {significand : Nat} {exponent : Int}

theorem unit_of_pos (significand : Nat) (exponent : Int) :
    0 < (RoundingInterval.of significand exponent).unit := twoPow_pos _

theorem scale_ratio (exponent : Int) :
    (twoPow (exponent - 2).toNat : ℚ) / twoPow (2 - exponent).toNat = 2 ^ (exponent - 2) := by
  have hpow := pow_toNat_div 2 (exponent - 2)
  have hneg : -(exponent - 2) = 2 - exponent := by omega
  rw [cast_twoPow, cast_twoPow, ← hneg, hpow]

theorem low_ratio (h : 0 < significand) :
    ((RoundingInterval.of significand exponent).low : ℚ) /
      (RoundingInterval.of significand exponent).unit = lowEnd significand exponent := by
  unfold RoundingInterval.of lowEnd
  dsimp only
  rw [← scale_ratio]
  split
  · rw [Nat.cast_mul, Nat.cast_sub (by omega)]
    push_cast
    ring
  · rw [Nat.cast_mul, Nat.cast_sub (by omega)]
    push_cast
    ring

theorem value_ratio (significand : Nat) (exponent : Int) :
    ((RoundingInterval.of significand exponent).value : ℚ) /
      (RoundingInterval.of significand exponent).unit = significand * 2 ^ exponent := by
  unfold RoundingInterval.of
  dsimp only
  have hstep : (2 : ℚ) ^ exponent = 4 * 2 ^ (exponent - 2) := by
    rw [zpow_sub₀ two_ne_zero]
    ring
  rw [hstep, ← scale_ratio]
  push_cast
  ring

theorem high_ratio (significand : Nat) (exponent : Int) :
    ((RoundingInterval.of significand exponent).high : ℚ) /
      (RoundingInterval.of significand exponent).unit = highEnd significand exponent := by
  unfold RoundingInterval.of highEnd
  dsimp only
  rw [← scale_ratio]
  push_cast
  ring

/-- A multiple of a step that the interval of a number holds is within reach of the number. -/
theorem reaches_of_holds {grid : Int} (hs : 0 < significand)
    (h : ((RoundingInterval.of significand exponent).inSteps grid).holds steps = true) :
    Reaches significand exponent (steps * 10 ^ grid) := by
  have hgrid : (0 : ℚ) < 10 ^ grid := by positivity
  obtain ⟨hlow, hhigh, hends⟩ := of_holds (unit_inSteps_pos grid (unit_of_pos _ _)) h
  rw [inSteps_ratio _ low _ rfl, low_ratio hs] at hlow hends
  rw [inSteps_ratio _ high _ rfl, high_ratio] at hhigh hends
  rw [div_le_iff₀ hgrid] at hlow
  rw [le_div_iff₀ hgrid] at hhigh
  rw [eq_div_iff hgrid.ne', eq_div_iff hgrid.ne'] at hends
  refine ⟨hlow, hhigh, fun hend ↦ ?_⟩
  exact of_decide_eq_true (hends hend)

/-- Steps shorter than the reach of a number have a multiple within it. -/
theorem nearest?_of_short {grid : Int} (hs : 0 < significand)
    (hshort : (10 : ℚ) ^ grid < highEnd significand exponent - lowEnd significand exponent) :
    ((RoundingInterval.of significand exponent).inSteps grid).nearest? ≠ none := by
  have hgrid : (0 : ℚ) < 10 ^ grid := by positivity
  have hscale := twoPow_pos (exponent - 2).toNat
  have hfactor := tenPow_pos (-grid).toNat
  apply nearest?_isSome (unit_inSteps_pos grid (unit_of_pos _ _))
  · apply Nat.mul_lt_mul_of_pos_right _ hfactor
    apply Nat.mul_lt_mul_of_pos_right _ hscale
    split <;> omega
  · apply Nat.mul_lt_mul_of_pos_right _ hfactor
    apply Nat.mul_lt_mul_of_pos_right _ hscale
    omega
  · rw [inSteps_ratio _ low _ rfl, low_ratio hs, inSteps_ratio _ high _ rfl, high_ratio, ← sub_div,
      lt_div_iff₀ hgrid, one_mul]
    exact hshort

/-- The point that the printer takes is the guess or has a power of ten just below the value. -/
theorem point_cases (hunit : 0 < interval.unit) (guess : Int) :
    interval.point guess = guess ∨
      (10 : ℚ) ^ (interval.point guess - 1) ≤ interval.value / interval.unit := by
  have hunit' : (0 : ℚ) < interval.unit := by exact_mod_cast hunit
  have hnot (power : Int) (h : ¬ interval.value * tenPow (-power).toNat <
      interval.unit * tenPow power.toNat) : (10 : ℚ) ^ power ≤ interval.value / interval.unit := by
    have hle : (interval.unit * tenPow power.toNat : ℚ) ≤
        interval.value * tenPow (-power).toNat := by exact_mod_cast not_lt.mp h
    rw [cast_tenPow, cast_tenPow] at hle
    rw [← pow_toNat_div, div_le_div_iff₀ (by positivity) hunit', mul_comm]
    exact hle
  unfold point
  dsimp only
  split
  · exact .inl rfl
  · next hguess =>
    right
    split
    · rw [add_sub_cancel_right]
      exact hnot guess (by simpa using hguess)
    · next hnext =>
      have hexp : guess + 2 - 1 = guess + 1 := by omega
      rw [hexp]
      exact hnot (guess + 1) (by simpa using hnext)

end RoundingInterval

/-- The estimate of a decimal logarithm that the printer starts from is never too great by more than
one. -/
theorem tenPow_guess_le {power : ℤ} (hleast : -1074 ≤ power) (hgreatest : power ≤ 1023) :
    (10 : ℚ) ^ (power * 30103 / 100000 - 1) ≤ 2 ^ power := by
  rcases le_total 0 power with hnonneg | hnonpos
  · -- 10 ^ 59 is a little less than 2 ^ 196
    have hfine : 196 * (power * 30103 / 100000 - 1) ≤ 59 * power := by omega
    have hbase : (10 : ℚ) ^ (59 : ℤ) ≤ 2 ^ (196 : ℤ) := by norm_num
    have hpow : ((10 : ℚ) ^ (power * 30103 / 100000 - 1)) ^ 196 ≤ (2 ^ power) ^ 196 := by
      calc ((10 : ℚ) ^ (power * 30103 / 100000 - 1)) ^ 196
          = 10 ^ (196 * (power * 30103 / 100000 - 1)) := by
            rw [← zpow_natCast, ← zpow_mul, mul_comm]
            rfl
        _ ≤ 10 ^ (59 * power) := zpow_le_zpow_right₀ (by norm_num) hfine
        _ = ((10 : ℚ) ^ (59 : ℤ)) ^ power := by rw [zpow_mul]
        _ ≤ ((2 : ℚ) ^ (196 : ℤ)) ^ power := zpow_le_zpow_left₀ hnonneg (by positivity) hbase
        _ = (2 ^ power) ^ 196 := by
            rw [← zpow_mul, mul_comm, zpow_mul]
            rfl
    exact (pow_le_pow_iff_left₀ (by positivity) (by positivity) (by norm_num)).mp hpow
  · -- 10 ^ 28 is a little more than 2 ^ 93
    have hfine : 93 * (power * 30103 / 100000 - 1) ≤ 28 * power := by omega
    have hbase : (2 : ℚ) ^ (93 : ℤ) ≤ 10 ^ (28 : ℤ) := by norm_num
    have hturned : ((2 : ℚ) ^ (93 : ℤ)) ^ (-power) ≤ ((10 : ℚ) ^ (28 : ℤ)) ^ (-power) :=
      zpow_le_zpow_left₀ (by omega) (by positivity) hbase
    rw [zpow_neg, zpow_neg, inv_le_inv₀ (by positivity) (by positivity)] at hturned
    have hpow : ((10 : ℚ) ^ (power * 30103 / 100000 - 1)) ^ 93 ≤ (2 ^ power) ^ 93 := by
      calc ((10 : ℚ) ^ (power * 30103 / 100000 - 1)) ^ 93
          = 10 ^ (93 * (power * 30103 / 100000 - 1)) := by
            rw [← zpow_natCast, ← zpow_mul, mul_comm]
            rfl
        _ ≤ 10 ^ (28 * power) := zpow_le_zpow_right₀ (by norm_num) hfine
        _ = ((10 : ℚ) ^ (28 : ℤ)) ^ power := by rw [zpow_mul]
        _ ≤ ((2 : ℚ) ^ (93 : ℤ)) ^ power := hturned
        _ = (2 ^ power) ^ 93 := by
            rw [← zpow_mul, mul_comm, zpow_mul]
            rfl
    exact (pow_le_pow_iff_left₀ (by positivity) (by positivity) (by norm_num)).mp hpow

theorem significand_between {significand : Nat} (h : 0 < significand) :
    (2 : ℚ) ^ (significand.log2 : ℤ) ≤ significand := by
  exact_mod_cast Nat.log2_self_le h.ne'

/-- The place of the decimal point is not beyond the first digit. -/
theorem tenPow_point_le {significand : Nat} {exponent : Int} (hs : 0 < significand)
    (hcanonical : Canonical significand exponent) :
    (10 : ℚ) ^ ((RoundingInterval.of significand exponent).point
      ((exponent + significand.log2) * 30103 / 100000) - 1) ≤ significand * 2 ^ exponent := by
  obtain ⟨hless, hleast, hgreatest, -⟩ := hcanonical
  have hvalue := RoundingInterval.value_ratio significand exponent
  have hunit := RoundingInterval.unit_of_pos significand exponent
  have hlog : significand.log2 ≤ 52 := by
    have hlt := (Nat.log2_lt hs.ne').mpr hless
    omega
  have hguess : (10 : ℚ) ^ ((exponent + significand.log2) * 30103 / 100000 - 1) ≤
      significand * 2 ^ exponent := by
    calc (10 : ℚ) ^ ((exponent + significand.log2) * 30103 / 100000 - 1)
        ≤ 2 ^ (exponent + significand.log2) := tenPow_guess_le (by omega) (by omega)
      _ = 2 ^ (significand.log2 : ℤ) * 2 ^ exponent := by
          rw [zpow_add₀ two_ne_zero, mul_comm]
      _ ≤ significand * 2 ^ exponent := by
          gcongr
          exact significand_between hs
  rcases RoundingInterval.point_cases hunit ((exponent + significand.log2) * 30103 / 100000) with
    hsame | hbelow
  · rw [hsame]
    exact hguess
  · rw [← hvalue]
    exact hbelow

/-- Seventeen digits make the steps shorter than the reach. -/
theorem seventeen_digits_suffice {significand : Nat} {exponent point : Int}
    (hcanonical : Canonical significand exponent)
    (hpoint : (10 : ℚ) ^ (point - 1) ≤ significand * 2 ^ exponent) :
    (10 : ℚ) ^ (point - 17) < highEnd significand exponent - lowEnd significand exponent := by
  have hpow : (0 : ℚ) < 2 ^ exponent := by positivity
  have hless : (significand : ℚ) < 2 ^ 53 := by
    have hless' : significand < 2 ^ 53 := hcanonical.1
    exact_mod_cast hless'
  have hgrid : (10 : ℚ) ^ (point - 17) * 10 ^ 16 = 10 ^ (point - 1) := by
    have hexp : point - 1 = point - 17 + 16 := by omega
    rw [hexp, zpow_add₀ (by norm_num)]
    norm_cast
  rw [← hgrid] at hpoint
  rw [highEnd_eq, lowEnd_eq]
  split
  · next hfull =>
    have hsignificand : (significand : ℚ) = 2 ^ 52 := by
      rw [hfull.1]
      exact cast_twoPow_52
    rw [hsignificand] at hpoint ⊢
    linarith
  · have hproduct : (significand : ℚ) * 2 ^ exponent < 2 ^ 53 * 2 ^ exponent := by gcongr
    linarith

/-- The shortest decimal of a positive number is within reach of the number. -/
theorem reaches_shortestDecimal {significand : Nat} {exponent : Int} (hs : 0 < significand)
    (hcanonical : Canonical significand exponent) :
    Reaches significand exponent (shortestDecimal significand exponent).value := by
  unfold shortestDecimal
  dsimp only
  rw [Decimal.value_stripped]
  have hpoint := tenPow_point_le hs hcanonical
  generalize (RoundingInterval.of significand exponent).point
    ((exponent + significand.log2) * 30103 / 100000) = point at hpoint ⊢
  cases hfound : (List.range 17).findSome? fun (extra : Nat) ↦
      (((RoundingInterval.of significand exponent).inSteps (point - (extra + 1))).nearest?).map
        fun digits ↦ Decimal.mk digits (point - (extra + 1)) with
  | some decimal =>
    obtain ⟨extra, -, hextra⟩ := List.exists_of_findSome?_eq_some hfound
    obtain ⟨digits, hdigits, rfl⟩ := Option.map_eq_some_iff.mp hextra
    exact RoundingInterval.reaches_of_holds hs (RoundingInterval.holds_of_nearest? hdigits)
  | none =>
    have hlast := List.findSome?_eq_none_iff.mp hfound 16 (by decide)
    have hshort := seventeen_digits_suffice hcanonical hpoint
    exact absurd (Option.map_eq_none_iff.mp hlast)
      (RoundingInterval.nearest?_of_short hs (by exact_mod_cast hshort))

theorem shortestDecimal_pos {significand : Nat} {exponent : Int} (hs : 0 < significand)
    (hcanonical : Canonical significand exponent) :
    0 < (shortestDecimal significand exponent).digits := by
  apply Nat.pos_of_ne_zero
  intro hzero
  have hvalue : (0 : ℚ) < (shortestDecimal significand exponent).value :=
    lt_of_lt_of_le (lowEnd_pos hs) (reaches_shortestDecimal hs hcanonical).1
  unfold Decimal.value at hvalue
  rw [hzero] at hvalue
  simp at hvalue

end AddonUpkeep.Number
