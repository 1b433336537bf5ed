import Mathlib.Algebra.Order.Field.Power
import Mathlib.Data.Rat.Cast.Order
import Mathlib.Tactic.FieldSimp
import Mathlib.Tactic.Linarith
import Mathlib.Tactic.Positivity
import Mathlib.Tactic.Ring
import AddonUpkeep.Number.Binary64

/-!
# Rounding ratios to binary numbers

A ratio within reach of a binary number rounds to it.  The exponent is settled first, by the power
of two below the ratio, and then the significand.
-/

namespace AddonUpkeep.Number

/-- A quotient that is at most half a unit away rounds to the natural, which is even when the
quotient is half a unit away. -/
theorem divideEven_eq {dividend divisor nearest : Nat}
    (hlow : 2 * nearest * divisor ≤ 2 * dividend + divisor)
    (hhigh : 2 * dividend ≤ (2 * nearest + 1) * divisor) (hpos : 0 < divisor)
    (htie : 2 * nearest * divisor = 2 * dividend + divisor ∨
      2 * dividend = (2 * nearest + 1) * divisor → nearest % 2 = 0) :
    Binary64.divideEven dividend divisor = nearest := by
  have hsplit : dividend = divisor * (dividend / divisor) + dividend % divisor :=
    (Nat.div_add_mod dividend divisor).symm
  have hrest : dividend % divisor < divisor := Nat.mod_lt _ hpos
  unfold Binary64.divideEven
  generalize dividend / divisor = quotient at hsplit ⊢
  generalize dividend % divisor = rest at hsplit hrest ⊢
  subst hsplit
  have hle : nearest ≤ quotient + 1 := by
    by_contra hlt
    nlinarith
  have hge : quotient ≤ nearest := by
    by_contra hlt
    nlinarith
  dsimp only
  rcases Nat.eq_or_lt_of_le hge with rfl | hlt
  · have hhalf : 2 * rest ≤ divisor := by nlinarith
    split
    · rfl
    · split
      · omega
      · have heven : quotient % 2 = 0 := by
          apply htie
          right
          nlinarith
        omega
  · have hnext : nearest = quotient + 1 := by omega
    subst hnext
    have hhalf : divisor ≤ 2 * rest := by nlinarith
    split
    · omega
    · split
      · rfl
      · have heven : (quotient + 1) % 2 = 0 := by
          apply htie
          left
          nlinarith
        omega

theorem pow_toNat_div (base : ℚ) (exponent : ℤ) :
    base ^ exponent.toNat / base ^ (-exponent).toNat = base ^ exponent := by
  rcases le_total 0 exponent with hnonneg | hnonpos
  · have hneg : (-exponent).toNat = 0 := by omega
    rw [hneg, pow_zero, div_one, ← zpow_natCast, Int.toNat_of_nonneg hnonneg]
  · have hpos : exponent.toNat = 0 := by omega
    have hcast : ((-exponent).toNat : ℤ) = -exponent := Int.toNat_of_nonneg (by omega)
    rw [hpos, pow_zero, ← zpow_natCast, hcast, zpow_neg, one_div, inv_inv]

theorem cast_twoPow (exponent : Nat) : (twoPow exponent : ℚ) = 2 ^ exponent := by
  change ((2 ^ exponent : Nat) : ℚ) = 2 ^ exponent
  push_cast
  rfl

theorem cast_tenPow (exponent : Nat) : (tenPow exponent : ℚ) = 10 ^ exponent := by
  change ((10 ^ exponent : Nat) : ℚ) = 10 ^ exponent
  push_cast
  rfl

namespace Binary64

variable {numerator denominator significand : Nat} {exponent : Int}

theorem inUnits_ratio (numerator denominator : Nat) (exponent : Int) :
    ((inUnits numerator denominator exponent).1 : ℚ) /
        (inUnits numerator denominator exponent).2 =
      (numerator / denominator : ℚ) / 2 ^ exponent := by
  have hpow := pow_toNat_div 2 exponent
  unfold inUnits
  push_cast
  rw [cast_twoPow, cast_twoPow, ← hpow]
  field_simp

theorem inUnits_pos (numerator : Nat) (exponent : Int) (h : 0 < denominator) :
    0 < (inUnits numerator denominator exponent).2 :=
  Nat.mul_pos h (twoPow_pos _)

/-- A positive ratio lies within a power of two of the quotient of the powers below its parts. -/
theorem ratio_between (hn : 0 < numerator) (hd : 0 < denominator) :
    (2 : ℚ) ^ ((numerator.log2 : ℤ) - denominator.log2 - 1) < numerator / denominator ∧
      (numerator / denominator : ℚ) < 2 ^ ((numerator.log2 : ℤ) - denominator.log2 + 1) := by
  have hn₁ : (2 : ℚ) ^ (numerator.log2 : ℤ) ≤ numerator := by
    exact_mod_cast Nat.log2_self_le hn.ne'
  have hn₂ : (numerator : ℚ) < 2 ^ ((numerator.log2 : ℤ) + 1) := by
    exact_mod_cast Nat.lt_log2_self
  have hd₁ : (2 : ℚ) ^ (denominator.log2 : ℤ) ≤ denominator := by
    exact_mod_cast Nat.log2_self_le hd.ne'
  have hd₂ : (denominator : ℚ) < 2 ^ ((denominator.log2 : ℤ) + 1) := by
    exact_mod_cast Nat.lt_log2_self
  have hdpos : (0 : ℚ) < denominator := by exact_mod_cast hd
  constructor
  · rw [lt_div_iff₀ hdpos]
    calc (2 : ℚ) ^ ((numerator.log2 : ℤ) - denominator.log2 - 1) * denominator
        < 2 ^ ((numerator.log2 : ℤ) - denominator.log2 - 1) * 2 ^ ((denominator.log2 : ℤ) + 1) := by
          gcongr
      _ = 2 ^ (numerator.log2 : ℤ) := by
          rw [← zpow_add₀ two_ne_zero]
          ring_nf
      _ ≤ numerator := hn₁
  · rw [div_lt_iff₀ hdpos]
    calc (numerator : ℚ) < 2 ^ ((numerator.log2 : ℤ) + 1) := hn₂
      _ = 2 ^ ((numerator.log2 : ℤ) - denominator.log2 + 1) * 2 ^ (denominator.log2 : ℤ) := by
          rw [← zpow_add₀ two_ne_zero]
          ring_nf
      _ ≤ 2 ^ ((numerator.log2 : ℤ) - denominator.log2 + 1) * denominator := by gcongr

/-- The exponent is the least one, or has 53 binary digits of the ratio before the point; never
more. -/
def Fits (ratio : ℚ) (exponent : ℤ) : Prop :=
  -1074 ≤ exponent ∧ ratio < 2 ^ (exponent + 53) ∧ (exponent = -1074 ∨ 2 ^ (exponent + 52) ≤ ratio)

theorem Fits.unique {ratio : ℚ} {first second : ℤ} (h : Fits ratio first) (h' : Fits ratio second) :
    first = second := by
  have hle {first second : ℤ} (h : Fits ratio first) (h' : Fits ratio second) :
      first ≤ second := by
    obtain ⟨-, -, hleast | hlow⟩ := h
    · obtain ⟨hbound, -, -⟩ := h'
      omega
    · obtain ⟨-, hhigh, -⟩ := h'
      have hlt : (2 : ℚ) ^ (first + 52) < 2 ^ (second + 53) := lt_of_le_of_lt hlow hhigh
      rw [zpow_lt_zpow_iff_right₀ one_lt_two] at hlt
      omega
  exact le_antisymm (hle h h') (hle h' h)

theorem fits_exponentOf (hn : 0 < numerator) (hd : 0 < denominator) :
    Fits (numerator / denominator) (exponentOf numerator denominator) := by
  obtain ⟨hlow, hhigh⟩ := ratio_between hn hd
  set ratio : ℚ := numerator / denominator with hratio
  set guess : ℤ := numerator.log2 - denominator.log2 - 52 with hguess
  have hbelow : (2 : ℚ) ^ (guess + 51) < ratio := by
    have hexp : guess + 51 = (numerator.log2 : ℤ) - denominator.log2 - 1 := by omega
    rwa [hexp]
  have habove : ratio < 2 ^ (guess + 53) := by
    have hexp : guess + 53 = (numerator.log2 : ℤ) - denominator.log2 + 1 := by omega
    rwa [hexp]
  -- the test on the quotient tells on which side of 2 ^ (guess + 52) the ratio lies
  have htest : (inUnits numerator denominator guess).1 / (inUnits numerator denominator guess).2 <
      twoPow 52 ↔ ratio < 2 ^ (guess + 52) := by
    have hunit := inUnits_pos numerator guess hd
    have hunit' : (0 : ℚ) < (inUnits numerator denominator guess).2 := by exact_mod_cast hunit
    have hpow : (0 : ℚ) < 2 ^ guess := by positivity
    have hscaled := inUnits_ratio numerator denominator guess
    rw [Nat.div_lt_iff_lt_mul hunit, ← @Nat.cast_lt ℚ]
    push_cast
    rw [cast_twoPow, ← div_lt_iff₀ hunit', hscaled, ← hratio, div_lt_iff₀ hpow, ← zpow_natCast,
      ← zpow_add₀ two_ne_zero, add_comm guess]
    rfl
  obtain ⟨exact, hexact, hfull, hless⟩ : ∃ exact : ℤ,
      exponentOf numerator denominator = max (-1074) exact ∧
        2 ^ (exact + 52) ≤ ratio ∧ ratio < 2 ^ (exact + 53) := by
    by_cases hside : ratio < 2 ^ (guess + 52)
    · refine ⟨guess - 1, ?_, ?_, ?_⟩
      · unfold exponentOf
        dsimp only
        rw [if_pos (htest.mpr hside)]
      · have hexp : guess - 1 + 52 = guess + 51 := by omega
        rw [hexp]
        exact hbelow.le
      · have hexp : guess - 1 + 53 = guess + 52 := by omega
        rw [hexp]
        exact hside
    · refine ⟨guess, ?_, not_lt.mp hside, habove⟩
      unfold exponentOf
      dsimp only
      rw [if_neg (fun h ↦ hside (htest.mp h))]
  rw [hexact]
  rcases le_total (-1074) exact with hnormal | hleast
  · rw [max_eq_right hnormal]
    exact ⟨hnormal, hless, .inr hfull⟩
  · rw [max_eq_left hleast]
    refine ⟨le_refl _, ?_, .inl rfl⟩
    calc ratio < 2 ^ (exact + 53) := hless
      _ ≤ 2 ^ ((-1074 : ℤ) + 53) := by
        apply zpow_le_zpow_right₀ one_le_two
        omega

/-- The ends of the ratios that round to a positive number: half a step to both sides, but a quarter
downwards from a power of two. -/
def lowEnd (significand : Nat) (exponent : Int) : ℚ :=
  (4 * significand - if significand = twoPow 52 ∧ -1074 < exponent then 1 else 2) *
    2 ^ (exponent - 2)

def highEnd (significand : Nat) (exponent : Int) : ℚ :=
  (4 * significand + 2) * 2 ^ (exponent - 2)

/-- The ratio is one of those that round to a positive number; an even one has the ends as well. -/
def Reaches (significand : Nat) (exponent : Int) (ratio : ℚ) : Prop :=
  lowEnd significand exponent ≤ ratio ∧ ratio ≤ highEnd significand exponent ∧
    (ratio = lowEnd significand exponent ∨ ratio = highEnd significand exponent →
      significand % 2 = 0)

/-- A ratio that has the given exponent and lies at most half a step from a natural number of steps
is rounded to it. -/
theorem divideEven_inUnits {nearest : Nat} (hd : 0 < denominator)
    (hlow : (nearest - 1 / 2 : ℚ) ≤ (numerator / denominator : ℚ) / 2 ^ exponent)
    (hhigh : (numerator / denominator : ℚ) / 2 ^ exponent ≤ (nearest + 1 / 2 : ℚ))
    (htie : (nearest - 1 / 2 : ℚ) = (numerator / denominator : ℚ) / 2 ^ exponent ∨
      (numerator / denominator : ℚ) / 2 ^ exponent = (nearest + 1 / 2 : ℚ) → nearest % 2 = 0) :
    divideEven (inUnits numerator denominator exponent).1
      (inUnits numerator denominator exponent).2 = nearest := by
  have hunit := inUnits_pos numerator exponent hd
  have hunit' : (0 : ℚ) < (inUnits numerator denominator exponent).2 := by exact_mod_cast hunit
  rw [← inUnits_ratio] at hlow hhigh htie
  generalize (inUnits numerator denominator exponent).1 = scaled at *
  generalize (inUnits numerator denominator exponent).2 = unit at *
  rw [le_div_iff₀ hunit'] at hlow
  rw [div_le_iff₀ hunit'] at hhigh
  rw [eq_div_iff hunit'.ne', div_eq_iff hunit'.ne'] at htie
  apply divideEven_eq
  · rw [← @Nat.cast_le ℚ]
    push_cast
    linarith
  · rw [← @Nat.cast_le ℚ]
    push_cast
    linarith
  · exact hunit
  · intro hends
    apply htie
    rcases hends with hend | hend
    · left
      have hend' : ((2 * nearest * unit : Nat) : ℚ) = ((2 * scaled + unit : Nat) : ℚ) := by
        rw [hend]
      push_cast at hend'
      linarith
    · right
      have hend' : ((2 * scaled : Nat) : ℚ) = (((2 * nearest + 1) * unit : Nat) : ℚ) := by
        rw [hend]
      push_cast at hend'
      linarith

theorem lowEnd_eq (significand : Nat) (exponent : Int) :
    lowEnd significand exponent =
      (significand - if significand = twoPow 52 ∧ -1074 < exponent then 1 / 4 else 1 / 2) *
        2 ^ exponent := by
  unfold lowEnd
  rw [zpow_sub₀ two_ne_zero]
  split <;> ring

theorem highEnd_eq (significand : Nat) (exponent : Int) :
    highEnd significand exponent = (significand + 1 / 2) * 2 ^ exponent := by
  unfold highEnd
  rw [zpow_sub₀ two_ne_zero]
  ring

theorem half_step_le_lowEnd (significand : Nat) (exponent : Int) :
    (significand - 1 / 2 : ℚ) * 2 ^ exponent ≤ lowEnd significand exponent := by
  rw [lowEnd_eq]
  gcongr
  split <;> norm_num

theorem lowEnd_pos (h : 0 < significand) : 0 < lowEnd significand exponent := by
  have hone : (1 : ℚ) ≤ significand := by exact_mod_cast h
  have hpow : (0 : ℚ) < 2 ^ exponent := by positivity
  have hlow := half_step_le_lowEnd significand exponent
  have hpos : (0 : ℚ) < (significand - 1 / 2) * 2 ^ exponent := by
    apply mul_pos _ hpow
    linarith
  linarith

theorem cast_twoPow_52 : (twoPow 52 : ℚ) = 2 ^ 52 := cast_twoPow 52

/-- A ratio within reach of a positive number has its exponent, or lies just below a power of two
that the number is. -/
theorem Reaches.fits {ratio : ℚ} (hcanonical : Canonical significand exponent)
    (h : Reaches significand exponent ratio) :
    Fits ratio exponent ∨
      significand = twoPow 52 ∧ -1074 < exponent ∧ ratio < 2 ^ (exponent + 52) := by
  obtain ⟨hless, hleast, -, hfull⟩ := hcanonical
  obtain ⟨hlow, hhigh, -⟩ := h
  have hpow : (0 : ℚ) < 2 ^ exponent := by positivity
  have hhigh' : ratio < 2 ^ (exponent + 53) := by
    have hnext : significand + 1 ≤ 2 ^ 53 := hless
    have hnext' : (significand : ℚ) + 1 ≤ 2 ^ 53 := by exact_mod_cast hnext
    rw [highEnd_eq] at hhigh
    calc ratio ≤ (significand + 1 / 2) * 2 ^ exponent := hhigh
      _ < 2 ^ 53 * 2 ^ exponent := by
        gcongr
        linarith
      _ = 2 ^ (exponent + 53) := by
        rw [zpow_add₀ two_ne_zero, mul_comm]
        norm_cast
  by_cases hbelow : ratio < 2 ^ (exponent + 52)
  · rcases eq_or_lt_of_le hleast with hleast' | hnormal
    · exact .inl ⟨hleast, hhigh', .inl hleast'.symm⟩
    · right
      refine ⟨?_, hnormal, hbelow⟩
      have hfull' : twoPow 52 ≤ significand := by
        rcases hfull with hfull | hleast'
        · exact hfull
        · omega
      by_contra hne
      -- a greater significand keeps its whole reach above the power of two
      have hgreater : twoPow 52 + 1 ≤ significand := by omega
      have hgreater' : (2 : ℚ) ^ 52 + 1 ≤ significand := by
        rw [← cast_twoPow_52]
        exact_mod_cast hgreater
      have hratio : (2 : ℚ) ^ (exponent + 52) ≤ ratio := by
        calc (2 : ℚ) ^ (exponent + 52) = 2 ^ 52 * 2 ^ exponent := by
              rw [zpow_add₀ two_ne_zero, mul_comm]
              norm_cast
          _ ≤ (significand - 1 / 2) * 2 ^ exponent := by
              gcongr
              linarith
          _ ≤ lowEnd significand exponent := half_step_le_lowEnd _ _
          _ ≤ ratio := hlow
      linarith
  · exact .inl ⟨hleast, hhigh', .inr (not_lt.mp hbelow)⟩

/-- A ratio with the exponent of a number within whose reach it lies is rounded to the significand
of the number. -/
theorem Reaches.divideEven_eq (hd : 0 < denominator)
    (h : Reaches significand exponent (numerator / denominator)) :
    divideEven (inUnits numerator denominator exponent).1
      (inUnits numerator denominator exponent).2 = significand := by
  obtain ⟨hlow, hhigh, hends⟩ := h
  have hpow : (0 : ℚ) < 2 ^ exponent := by positivity
  have hhalf := half_step_le_lowEnd significand exponent
  apply divideEven_inUnits hd
  · rw [le_div_iff₀ hpow]
    exact hhalf.trans hlow
  · rw [div_le_iff₀ hpow, ← highEnd_eq]
    exact hhigh
  · intro htie
    apply hends
    rcases htie with hend | hend
    · left
      rw [eq_div_iff hpow.ne'] at hend
      linarith
    · right
      rw [div_eq_iff hpow.ne', ← highEnd_eq] at hend
      exact hend

/-- Just below a power of two the steps are half as long, so the ratio is rounded up to the
power. -/
theorem divideEven_below_twoPow (hd : 0 < denominator)
    (hlow : lowEnd (twoPow 52) exponent ≤ numerator / denominator) (hexponent : -1074 < exponent)
    (hbelow : (numerator / denominator : ℚ) < 2 ^ (exponent + 52)) :
    divideEven (inUnits numerator denominator (exponent - 1)).1
      (inUnits numerator denominator (exponent - 1)).2 = twoPow 53 := by
  have hpow : (0 : ℚ) < 2 ^ (exponent - 1) := by positivity
  have hstep : (2 : ℚ) ^ exponent = 2 * 2 ^ (exponent - 1) := by
    rw [zpow_sub_one₀ two_ne_zero]
    ring
  have hfull : ((twoPow 53 : Nat) : ℚ) = 2 ^ 53 := cast_twoPow 53
  rw [lowEnd_eq, if_pos ⟨rfl, hexponent⟩, cast_twoPow_52, hstep] at hlow
  have htop : (2 : ℚ) ^ (exponent + 52) = 2 ^ 53 * 2 ^ (exponent - 1) := by
    rw [zpow_add₀ two_ne_zero, hstep]
    norm_cast
    ring
  rw [htop] at hbelow
  apply divideEven_inUnits hd
  · rw [hfull, le_div_iff₀ hpow]
    linarith
  · rw [hfull, div_le_iff₀ hpow]
    linarith
  · intro _
    decide

/-- A ratio within reach of a positive number rounds to the number. -/
theorem ofRatio_of_reaches (hd : 0 < denominator) (hs : 0 < significand)
    (hcanonical : Canonical significand exponent)
    (h : Reaches significand exponent (numerator / denominator)) (negative : Bool) :
    ofRatio negative numerator denominator =
      .finite negative significand exponent hcanonical := by
  have hdpos : (0 : ℚ) < denominator := by exact_mod_cast hd
  have hratio : (0 : ℚ) < numerator / denominator :=
    lt_of_lt_of_le (lowEnd_pos hs) h.1
  have hn : 0 < numerator := by
    have hnpos : (0 : ℚ) < numerator := by
      rw [div_pos_iff_of_pos_right hdpos] at hratio
      exact hratio
    exact_mod_cast hnpos
  have hfits := fits_exponentOf hn hd
  unfold ofRatio
  rw [if_neg hn.ne']
  dsimp only
  rcases h.fits hcanonical with hsame | ⟨hfull, hexponent, hbelow⟩
  · rw [hfits.unique hsame, h.divideEven_eq hd, if_neg hcanonical.1.ne]
    exact dif_pos hcanonical
  · have hlow : Fits (numerator / denominator) (exponent - 1) := by
      refine ⟨by omega, ?_, .inr ?_⟩
      · have hexp : exponent - 1 + 53 = exponent + 52 := by omega
        rw [hexp]
        exact hbelow
      · have hexp : exponent - 1 + 52 = exponent + 51 := by omega
        rw [hexp]
        have hpow : (0 : ℚ) < 2 ^ exponent := by positivity
        have hhalf := half_step_le_lowEnd significand exponent
        rw [hfull, cast_twoPow_52] at hhalf
        have hnear := h.1
        rw [hfull] at hnear
        have hpow51 : (2 : ℚ) ^ (exponent + 51) = 2 ^ 51 * 2 ^ exponent := by
          rw [zpow_add₀ two_ne_zero, mul_comm]
          norm_cast
        rw [hpow51]
        nlinarith
    subst hfull
    rw [hfits.unique hlow, divideEven_below_twoPow hd h.1 hexponent hbelow, if_pos rfl,
      sub_add_cancel]
    exact dif_pos hcanonical

end Binary64

end AddonUpkeep.Number
