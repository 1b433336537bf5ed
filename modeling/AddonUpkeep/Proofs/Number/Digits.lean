import Mathlib.Data.List.Induction
import Mathlib.Tactic.Ring
import AddonUpkeep.Number.Reading

/-!
# Digits and the number they denote

The digits of a number denote it.  Zeros in front change nothing, and a zero behind counts as one
more power of the base.
-/

namespace AddonUpkeep.Number

open AddonUpkeep.Text

theorem digitsValue_append (base : Nat) (first second : List Char) :
    digitsValue base (first ++ second) =
      digitsValue base first * base ^ second.length + digitsValue base second := by
  have hfold : ∀ (start : Nat) (digits : List Char),
      digits.foldl (fun value c ↦ value * base + hexDigitValue c) start =
        start * base ^ digits.length + digitsValue base digits := by
    intro start digits
    induction digits generalizing start with
    | nil => simp [digitsValue]
    | cons c digits ih =>
      unfold digitsValue
      rw [List.foldl_cons, List.foldl_cons, ih, ih (0 * base + hexDigitValue c), List.length_cons,
        pow_succ]
      ring
  unfold digitsValue
  rw [List.foldl_append, hfold]
  rfl

theorem hexDigitValue_digitChar {digit : Nat} (h : digit < 16) :
    hexDigitValue digit.digitChar = digit := by
  have hall : ∀ digit : Fin 16, hexDigitValue digit.val.digitChar = digit.val := by decide
  exact hall ⟨digit, h⟩

theorem isAsciiDigit_digitChar {digit : Nat} (h : digit < 10) :
    isAsciiDigit digit.digitChar = true := by
  have hall : ∀ digit : Fin 10, isAsciiDigit digit.val.digitChar = true := by decide
  exact hall ⟨digit, h⟩

theorem isHexDigit_digitChar {digit : Nat} (h : digit < 16) :
    isHexDigit digit.digitChar = true := by
  have hall : ∀ digit : Fin 16, isHexDigit digit.val.digitChar = true := by decide
  exact hall ⟨digit, h⟩

/-- What holds of each digit of a base holds of all digits of a number. -/
theorem forall_mem_toDigits {base : Nat} {P : Char → Prop} (hbase : 1 < base)
    (h : ∀ digit < base, P digit.digitChar) (number : Nat) :
    ∀ c ∈ Nat.toDigits base number, P c := by
  induction number using Nat.strongRecOn with
  | ind number ih =>
    intro c hc
    rw [Nat.toDigits_eq_if hbase] at hc
    split at hc
    · next hlt =>
      rw [List.mem_singleton.mp hc]
      exact h number hlt
    · next hge =>
      rcases List.mem_append.mp hc with hfirst | hlast
      · exact ih (number / base) (Nat.div_lt_self (by omega) hbase) c hfirst
      · rw [List.mem_singleton.mp hlast]
        exact h _ (Nat.mod_lt _ (by omega))

theorem isAsciiDigit_of_mem_toDigits {number : Nat} {c : Char} (h : c ∈ Nat.toDigits 10 number) :
    isAsciiDigit c = true :=
  forall_mem_toDigits (P := fun c ↦ isAsciiDigit c = true) (by decide)
    (fun _ hlt ↦ isAsciiDigit_digitChar hlt) number c h

/-- The digits of a number denote it. -/
theorem digitsValue_toDigits {base : Nat} (hbase : 1 < base) (hle : base ≤ 16) (number : Nat) :
    digitsValue base (Nat.toDigits base number) = number := by
  induction number using Nat.strongRecOn with
  | ind number ih =>
    have hone (digit : Nat) (hdigit : digit < base) :
        digitsValue base [digit.digitChar] = digit := by
      have hvalue := hexDigitValue_digitChar (Nat.lt_of_lt_of_le hdigit hle)
      simp [digitsValue, hvalue]
    rw [Nat.toDigits_eq_if hbase]
    split
    · next hlt => exact hone number hlt
    · next hge =>
      have hsmaller : number / base < number := Nat.div_lt_self (by omega) hbase
      rw [digitsValue_append, ih _ hsmaller, hone _ (Nat.mod_lt _ (by omega)), List.length_singleton,
        pow_one]
      exact Nat.div_add_mod' number base

theorem digitsValue_replicate_zero (base count : Nat) :
    digitsValue base (List.replicate count '0') = 0 := by
  induction count with
  | zero => rfl
  | succ count ih =>
    have hzero : hexDigitValue '0' = 0 := by decide
    rw [List.replicate_succ', digitsValue_append, ih]
    simp [digitsValue, hzero]

/-- Zeros in front of digits change nothing. -/
theorem digitsValue_zeros_append (base count : Nat) (digits : List Char) :
    digitsValue base (List.replicate count '0' ++ digits) = digitsValue base digits := by
  rw [digitsValue_append, digitsValue_replicate_zero, Nat.zero_mul, Nat.zero_add]

/-- Zeros behind digits count as powers of the base. -/
theorem digitsValue_append_zeros (base count : Nat) (digits : List Char) :
    digitsValue base (digits ++ List.replicate count '0') = digitsValue base digits * base ^ count := by
  rw [digitsValue_append, digitsValue_replicate_zero, List.length_replicate, Nat.add_zero]

theorem hexDigitValue_lt_ten {c : Char} (h : isAsciiDigit c = true) : hexDigitValue c < 10 := by
  unfold isAsciiDigit at h
  rw [Bool.and_eq_true, decide_eq_true_eq, decide_eq_true_eq] at h
  unfold hexDigitValue
  rw [if_pos h.2]
  have hlast : c.toNat ≤ '9'.toNat := h.2
  have hnine : '9'.toNat = 57 := rfl
  have hzero : '0'.toNat = 48 := rfl
  omega

/-- A row of decimal digits denotes a number with no more digits. -/
theorem digitsValue_lt {digits : List Char} (h : ∀ c ∈ digits, isAsciiDigit c = true) :
    digitsValue 10 digits < 10 ^ digits.length := by
  induction digits using List.reverseRecOn with
  | nil => decide
  | append_singleton digits c ih =>
    have hfirst := ih fun other hother ↦ h other (by simp [hother])
    have hlast := hexDigitValue_lt_ten (h c (by simp))
    have hone : digitsValue 10 [c] = hexDigitValue c := by simp [digitsValue]
    rw [digitsValue_append, hone, List.length_append, List.length_singleton, pow_one, pow_succ]
    omega

/-- A positive number has no zero in front. -/
theorem toDigits_eq_cons {number : Nat} (h : 0 < number) :
    ∃ c digits, Nat.toDigits 10 number = c :: digits ∧ c ≠ '0' := by
  induction number using Nat.strongRecOn with
  | ind number ih =>
    rw [Nat.toDigits_eq_if (by decide)]
    split
    · refine ⟨number.digitChar, [], rfl, ?_⟩
      rw [Ne, Nat.digitChar_eq_zero]
      omega
    · next hge =>
      obtain ⟨c, digits, hdigits, hne⟩ := ih (number / 10) (by omega) (by omega)
      exact ⟨c, digits ++ [(number % 10).digitChar], by rw [hdigits]; rfl, hne⟩

/-- The number of digits of a positive number tells between which powers of ten it lies. -/
theorem pow_length_toDigits_le {number : Nat} (h : 0 < number) :
    10 ^ ((Nat.toDigits 10 number).length - 1) ≤ number := by
  by_contra hlt
  have hlength : 0 < (Nat.toDigits 10 number).length := Nat.length_toDigits_pos
  by_cases hone : (Nat.toDigits 10 number).length = 1
  · rw [hone] at hlt
    omega
  · have hle := (Nat.length_toDigits_le_iff (b := 10) (by decide) (by omega)).mpr
      (Nat.lt_of_not_le hlt)
    omega

theorem lt_pow_length_toDigits (number : Nat) : number < 10 ^ (Nat.toDigits 10 number).length :=
  (Nat.length_toDigits_le_iff (by decide) Nat.length_toDigits_pos).mp (Nat.le_refl _)

end AddonUpkeep.Number
