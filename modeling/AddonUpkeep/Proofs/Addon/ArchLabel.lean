import AddonUpkeep.Addon.KubeProxy
import AddonUpkeep.Proofs.Reading
import AddonUpkeep.Proofs.Version.Dotted

/-!
# The architecture label of a version

Texts of versions are ordered as the versions that are read of them.  The architecture label is
settled from one version on in this order, so no later version goes back to the label before.
-/

namespace AddonUpkeep

namespace Version

variable {first second third : String} {least found : Version}

theorem isAtLeast_of_parse (hfirst : parse first = .ok least)
    (hsecond : parse second = .ok found) :
    isAtLeast first second = .ok (found.atLeast least) := by
  rw [isAtLeast, hsecond, ok_bind, hfirst]
  rfl

theorem isAtLeast_eq_true_iff : isAtLeast first second = .ok true ↔
    ∃ least found, parse first = .ok least ∧ parse second = .ok found ∧
      found.atLeast least = true := by
  constructor
  · intro h
    obtain ⟨found, hsecond, h⟩ := bind_eq_ok_iff.mp h
    obtain ⟨least, hfirst, h⟩ := bind_eq_ok_iff.mp h
    exact ⟨least, found, hfirst, hsecond, Except.ok.inj h⟩
  · rintro ⟨least, found, hfirst, hsecond, h⟩
    rw [isAtLeast_of_parse hfirst hsecond, h]

theorem isAtLeast_trans (h : isAtLeast first second = .ok true)
    (h' : isAtLeast second third = .ok true) : isAtLeast first third = .ok true := by
  obtain ⟨least, middle, hfirst, hsecond, hle⟩ := isAtLeast_eq_true_iff.mp h
  obtain ⟨middle', found, hsecond', hthird, hle'⟩ := isAtLeast_eq_true_iff.mp h'
  obtain rfl := Except.ok.inj (hsecond.symm.trans hsecond')
  exact isAtLeast_eq_true_iff.mpr ⟨least, found, hfirst, hthird, atLeast_trans hle hle'⟩

/-- Texts of numbers and points are ordered as their rows of numbers, filled up with zeros. -/
theorem isAtLeast_iff_of_isDotted {n : Nat} (hfirst : parse first = .ok least)
    (hsecond : parse second = .ok found) (hdotted : isDotted first = true)
    (hdotted' : isDotted second = true) (hlength : (dottedNumbers first).length ≤ n)
    (hlength' : (dottedNumbers second).length ≤ n) :
    isAtLeast first second = .ok true ↔
      (dottedNumbers first).rightpad n 0 ≤ (dottedNumbers second).rightpad n 0 := by
  rw [isAtLeast_of_parse hfirst hsecond, Except.ok.injEq, parse_eq_of_isDotted hdotted hfirst,
    parse_eq_of_isDotted hdotted' hsecond, atLeast_ofRelease_iff hlength hlength']

end Version

namespace KubeProxy

open Affinity Version AddonUpkeep.Text AddonUpkeep.Number

variable {first second version : String} {found : Version}

theorem parse_archLabelMinimum : Version.parse archLabelMinimum = .ok (ofRelease [1, 18]) := by
  apply toOption_eq_some_iff.mp
  decide +kernel

/-- Every version that can be read has a label. -/
theorem archLabelFor_of_ok (h : Version.parse version = .ok found) :
    archLabelFor version =
      .ok (if found.atLeast (ofRelease [1, 18]) then archLabel else betaArchLabel) := by
  rw [archLabelFor, isAtLeast_of_parse parse_archLabelMinimum h, ok_bind]
  rfl

theorem archLabelFor_eq_archLabel_iff :
    archLabelFor version = .ok archLabel ↔ isAtLeast archLabelMinimum version = .ok true := by
  constructor
  · intro h
    obtain ⟨settled, hsettled, hlabel⟩ := bind_eq_ok_iff.mp h
    cases settled with
    | true => exact hsettled
    | false => exact absurd (Except.ok.inj hlabel) (by decide)
  · intro h
    rw [archLabelFor, h]
    rfl

/-- Texts that are read as versions can be compared, and their order is reflexive, total and
transitive.  Texts of numbers and points are ordered as their rows of numbers, filled up with zeros
to a common length.  The architecture label stays settled along the order. -/
theorem archLabel_settled_along_order {least found : Version} (first second third : String)
    (hfirst : Version.parse first = .ok least) (hsecond : Version.parse second = .ok found) :
    (∃ answer, isAtLeast first second = .ok answer) ∧ isAtLeast first first = .ok true ∧
    (isAtLeast first second = .ok true ∨ isAtLeast second first = .ok true) ∧
    (isAtLeast first second = .ok true → isAtLeast second third = .ok true →
      isAtLeast first third = .ok true) ∧
    (isDotted first = true → isDotted second = true → ∀ n,
      (dottedNumbers first).length ≤ n → (dottedNumbers second).length ≤ n →
        (isAtLeast first second = .ok true ↔
          (dottedNumbers first).rightpad n 0 ≤ (dottedNumbers second).rightpad n 0)) ∧
    (isAtLeast first second = .ok true → archLabelFor first = .ok archLabel →
      archLabelFor second = .ok archLabel) := by
  refine ⟨⟨_, isAtLeast_of_parse hfirst hsecond⟩, ?_, ?_, isAtLeast_trans, ?_,
    fun hle hsettled ↦ ?_⟩
  · rw [isAtLeast_of_parse hfirst hfirst, atLeast_self]
  · rw [isAtLeast_of_parse hfirst hsecond, isAtLeast_of_parse hsecond hfirst, Except.ok.injEq,
      Except.ok.injEq]
    exact atLeast_total least found
  · exact fun hdotted hdotted' n hlength hlength' ↦
      isAtLeast_iff_of_isDotted hfirst hsecond hdotted hdotted' hlength hlength'
  · exact archLabelFor_eq_archLabel_iff.mpr
      (isAtLeast_trans (archLabelFor_eq_archLabel_iff.mp hsettled) hle)

/-- Numbers are compared as such and not as texts, a zero at the end does not count, and the label
is settled from 1.18 on. -/
theorem archLabel_settled_along_numbers :
    let texts := ["1.9", "1.18", "1.18.0", "1.100"]
    (∀ text ∈ texts, ∃ found, Version.parse text = .ok found) ∧
      (∀ first ∈ texts, ∀ second ∈ texts, isAtLeast first second = .ok true ↔
        (first = "1.9" ∨ second ≠ "1.9") ∧ (first ≠ "1.100" ∨ second = "1.100")) ∧
      archLabelFor "1.9" = .ok betaArchLabel ∧
      ∀ text ∈ texts, text ≠ "1.9" → archLabelFor text = .ok archLabel := by
  intro texts
  have hdotted : ∀ text ∈ texts, isDotted text = true ∧ (dottedNumbers text).length ≤ 3 ∧
      ∀ digits ∈ pieces '.' text.toList, digits.length ≤ digitLimit := by decide +kernel
  have hread : ∀ text ∈ texts, ∃ found, Version.parse text = .ok found := fun text htext ↦
    (exists_parse_iff_of_isDotted (hdotted text htext).1).mpr (hdotted text htext).2.2
  have hlaws : ∀ first ∈ texts, ∀ second ∈ texts,
      (isAtLeast first second = .ok true ↔
        (dottedNumbers first).rightpad 3 0 ≤ (dottedNumbers second).rightpad 3 0) ∧
      (isAtLeast first second = .ok true → archLabelFor first = .ok archLabel →
        archLabelFor second = .ok archLabel) := by
    intro first hfirst second hsecond
    obtain ⟨least, hleast⟩ := hread first hfirst
    obtain ⟨found, hfound⟩ := hread second hsecond
    obtain ⟨-, -, -, -, hpadded, hlabel⟩ :=
      archLabel_settled_along_order first second second hleast hfound
    obtain ⟨hfirst, hlength, -⟩ := hdotted first hfirst
    obtain ⟨hsecond, hlength', -⟩ := hdotted second hsecond
    exact ⟨hpadded hfirst hsecond 3 hlength hlength', hlabel⟩
  have hcompared : ∀ first ∈ texts, ∀ second ∈ texts,
      ((dottedNumbers first).rightpad 3 0 ≤ (dottedNumbers second).rightpad 3 0 ↔
        (first = "1.9" ∨ second ≠ "1.9") ∧ (first ≠ "1.100" ∨ second = "1.100")) := by
    decide +kernel
  have horder : ∀ first ∈ texts, ∀ second ∈ texts, isAtLeast first second = .ok true ↔
      (first = "1.9" ∨ second ≠ "1.9") ∧ (first ≠ "1.100" ∨ second = "1.100") :=
    fun first hfirst second hsecond ↦
      (hlaws first hfirst second hsecond).1.trans (hcompared first hfirst second hsecond)
  refine ⟨hread, horder, by decide +kernel, fun text htext hlater ↦ ?_⟩
  have hminimum : "1.18" ∈ texts := by decide
  refine (hlaws "1.18" hminimum text htext).2 ?_ (by decide +kernel)
  exact (horder "1.18" hminimum text htext).mpr ⟨.inr hlater, .inl (by decide)⟩

end KubeProxy

end AddonUpkeep
