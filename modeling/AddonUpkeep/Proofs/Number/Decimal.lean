import AddonUpkeep.Proofs.Number.Digits
import AddonUpkeep.Proofs.Number.Shortest

/-!
# Reading decimals within reach of a number

A decimal within reach of a binary number is read as that number: it is never so great or so small
that its digits would not be looked at.
-/

namespace AddonUpkeep.Number

namespace Binary64

variable {significand digits : Nat} {exponent places : Int}

theorem Reaches.lt_top {ratio : ℚ} (hcanonical : Canonical significand exponent)
    (h : Reaches significand exponent ratio) : ratio < 2 ^ (1200 : ℤ) := by
  obtain ⟨hless, -, hgreatest, -⟩ := hcanonical
  have hnext : significand + 1 ≤ 2 ^ 53 := hless
  have hnext' : (significand : ℚ) + 1 ≤ 2 ^ 53 := by exact_mod_cast hnext
  calc ratio ≤ (significand + 1 / 2) * 2 ^ exponent := by
        rw [← highEnd_eq]
        exact h.2.1
    _ < 2 ^ 53 * 2 ^ exponent := by
        gcongr
        linarith
    _ = 2 ^ (exponent + 53) := by
        rw [zpow_add₀ two_ne_zero, mul_comm]
        norm_cast
    _ ≤ 2 ^ (1200 : ℤ) := zpow_le_zpow_right₀ one_le_two (by omega)

theorem Reaches.bottom_lt {ratio : ℚ} (hs : 0 < significand)
    (hcanonical : Canonical significand exponent) (h : Reaches significand exponent ratio) :
    (2 : ℚ) ^ (-1200 : ℤ) < ratio := by
  have hone : (1 : ℚ) ≤ significand := by exact_mod_cast hs
  calc (2 : ℚ) ^ (-1200 : ℤ) < 2 ^ (exponent - 1) := by
        apply zpow_lt_zpow_right₀ one_lt_two
        have hleast := hcanonical.2.1
        omega
    _ = (1 / 2) * 2 ^ exponent := by
        rw [zpow_sub_one₀ two_ne_zero]
        ring
    _ ≤ (significand - 1 / 2) * 2 ^ exponent := by
        gcongr
        linarith
    _ ≤ lowEnd significand exponent := half_step_le_lowEnd _ _
    _ ≤ ratio := h.1

/-- The number of places before the point tells between which powers of ten a decimal lies. -/
theorem decimal_between (exponent : ℤ) (hdigits : 0 < digits)
    (hplaces : places = (Nat.toDigits 10 digits).length + exponent) :
    (10 : ℚ) ^ (places - 1) ≤ digits * 10 ^ exponent ∧
      (digits * 10 ^ exponent : ℚ) < 10 ^ places := by
  have hlength : 0 < (Nat.toDigits 10 digits).length := Nat.length_toDigits_pos
  have hlow : (10 : ℚ) ^ (((Nat.toDigits 10 digits).length - 1 : Nat) : ℤ) ≤ digits := by
    exact_mod_cast pow_length_toDigits_le hdigits
  have hhigh : (digits : ℚ) < 10 ^ ((Nat.toDigits 10 digits).length : ℤ) := by
    exact_mod_cast lt_pow_length_toDigits digits
  constructor
  · have hexp : places - 1 = (((Nat.toDigits 10 digits).length - 1 : Nat) : ℤ) + exponent := by
      omega
    rw [hexp, zpow_add₀ (by norm_num)]
    gcongr
  · rw [hplaces, zpow_add₀ (by norm_num)]
    gcongr

/-- A decimal within reach of a number is read as the number. -/
theorem ofDecimal_of_reaches (hs : 0 < significand) {hcanonical : Canonical significand exponent}
    {power : Int} (h : Reaches significand exponent (digits * 10 ^ power)) (negative : Bool) :
    ofDecimal negative digits power = .finite negative significand exponent hcanonical := by
  have hpos : (0 : ℚ) < digits * 10 ^ power := lt_of_lt_of_le (lowEnd_pos hs) h.1
  have hdigits : 0 < digits := by
    apply Nat.pos_of_ne_zero
    rintro rfl
    simp at hpos
  obtain ⟨hlow, hhigh⟩ := decimal_between power hdigits rfl
  have htop := h.lt_top hcanonical
  have hbottom := h.bottom_lt hs hcanonical
  have height : (2 : ℚ) ^ (3 : ℤ) ≤ 10 := by norm_num
  have hleast : ¬ ((Nat.toDigits 10 digits).length + power : ℤ) < -400 := by
    intro hplaces
    have hsmall : (10 : ℚ) ^ ((Nat.toDigits 10 digits).length + power : ℤ) ≤ 2 ^ (-1200 : ℤ) := by
      calc (10 : ℚ) ^ ((Nat.toDigits 10 digits).length + power : ℤ) ≤ 10 ^ (-400 : ℤ) :=
            zpow_le_zpow_right₀ (by norm_num) (by omega)
        _ ≤ (2 ^ (3 : ℤ)) ^ (-400 : ℤ) := by
            rw [zpow_neg, zpow_neg, inv_le_inv₀ (by positivity) (by positivity)]
            exact zpow_le_zpow_left₀ (by norm_num) (by positivity) height
        _ = 2 ^ (-1200 : ℤ) := by
            rw [← zpow_mul]
            rfl
    linarith
  have hgreatest : ¬ 400 < ((Nat.toDigits 10 digits).length + power : ℤ) := by
    intro hplaces
    have hlarge : (2 : ℚ) ^ (1200 : ℤ) ≤ 10 ^ ((Nat.toDigits 10 digits).length + power - 1 : ℤ) := by
      calc (2 : ℚ) ^ (1200 : ℤ) = (2 ^ (3 : ℤ)) ^ (400 : ℤ) := by
            rw [← zpow_mul]
            rfl
        _ ≤ 10 ^ (400 : ℤ) := zpow_le_zpow_left₀ (by norm_num) (by positivity) height
        _ ≤ 10 ^ ((Nat.toDigits 10 digits).length + power - 1 : ℤ) :=
            zpow_le_zpow_right₀ (by norm_num) (by omega)
    linarith
  have hratio : (((digits * tenPow power.toNat : Nat) : ℚ) / (tenPow (-power).toNat : Nat)) =
      digits * 10 ^ power := by
    rw [← pow_toNat_div, Nat.cast_mul, cast_tenPow, cast_tenPow, mul_div_assoc]
  unfold ofDecimal
  dsimp only
  rw [if_neg, if_neg hgreatest]
  · apply ofRatio_of_reaches (tenPow_pos _) hs
    rw [hratio]
    exact h
  · simpa [hdigits.ne'] using hleast

end Binary64

end AddonUpkeep.Number
