import AddonUpkeep.Text.Blank
import AddonUpkeep.Text.Lowercase

/-!
# Small forms of characters

No small form is a capital or a blank, so a small form is its own small form, and lowering makes no
blanks and takes none away.  There are many capitals, so the sets are compared as numbers, in which
each code point has its bit.
-/

namespace AddonUpkeep.Text

variable {c d : Char} {run : CaseRun} {point bits others : Nat} {held sets : List Nat}

section Bits

/-- A set of code points as a number, in which the bit of each of them is set. -/
def bitsOf (points : List Nat) : Nat := points.foldr (fun point bits ↦ 1 <<< point ||| bits) 0

/-- The union of sets. -/
def union (sets : List Nat) : Nat := sets.foldr (· ||| ·) 0

theorem testBit_bitsOf (h : point ∈ held) : (bitsOf held).testBit point = true := by
  induction held with
  | nil => cases h
  | cons other held ih =>
    rw [bitsOf, List.foldr_cons, ← bitsOf, Nat.testBit_or, Bool.or_eq_true]
    rcases List.mem_cons.mp h with rfl | hrest
    · rw [Nat.one_shiftLeft]
      exact .inl Nat.testBit_two_pow_self
    · exact .inr (ih hrest)

theorem testBit_union (hbits : bits ∈ sets) (h : bits.testBit point = true) :
    (union sets).testBit point = true := by
  induction sets with
  | nil => cases hbits
  | cons other sets ih =>
    rw [union, List.foldr_cons, ← union, Nat.testBit_or, Bool.or_eq_true]
    rcases List.mem_cons.mp hbits with rfl | hrest
    · exact .inl h
    · exact .inr (ih hrest)

/-- A code point of one set is in no other that has nothing in common with it. -/
theorem not_testBit_of_apart (h : bits &&& others = 0) (hpoint : bits.testBit point = true) :
    others.testBit point = false := by
  have hboth : (bits &&& others).testBit point = false := by rw [h, Nat.zero_testBit]
  rwa [Nat.testBit_and, hpoint, Bool.true_and] at hboth

end Bits

namespace CaseRun

/-- The code points of a run. -/
def points (run : CaseRun) : List Nat :=
  List.range' run.first ((run.last - run.first) / run.stride + 1) run.stride

/-- The small forms of all code points of a run are characters. -/
def isChars (run : CaseRun) : Bool :=
  decide (run.small run.last < 0xD800) ||
    decide (0xDFFF < run.small run.first) && decide (run.small run.last < 0x110000)

theorem holds_iff : run.holds point = true ↔
    run.first ≤ point ∧ point ≤ run.last ∧ (point - run.first) % run.stride = 0 := by
  simp [holds, and_assoc]

theorem mem_points (h : run.holds point = true) : point ∈ run.points := by
  obtain ⟨hfirst, hlast, hstep⟩ := holds_iff.mp h
  have hsteps := Nat.div_add_mod (point - run.first) run.stride
  refine List.mem_range'.mpr ⟨(point - run.first) / run.stride, ?_, by omega⟩
  exact Nat.lt_succ_of_le (Nat.div_le_div_right (Nat.sub_le_sub_right hlast _))

theorem toNat_ofNat_small (hchars : run.isChars = true) (h : run.holds point = true) :
    (Char.ofNat (run.small point)).toNat = run.small point := by
  obtain ⟨hfirst, hlast, -⟩ := holds_iff.mp h
  have hlow : run.small run.first ≤ run.small point := by unfold small; omega
  have hhigh : run.small point ≤ run.small run.last := by unfold small; omega
  simp only [isChars, Bool.and_eq_true, Bool.or_eq_true, decide_eq_true_eq] at hchars
  have hvalid : (run.small point).isValidChar := by
    rcases hchars with hbelow | ⟨habove, hend⟩
    · exact .inl (by omega)
    · exact .inr ⟨by omega, by omega⟩
  rw [Char.ofNat, dif_pos hvalid]
  rfl

end CaseRun

section Tables

/-- The capitals: those of the runs, and the dotted capital I. -/
def capitalBits : Nat :=
  union (bitsOf [0x130] :: caseRuns.map fun run ↦ bitsOf run.points)

/-- The small forms of the capitals. -/
def smallBits : Nat :=
  union (bitsOf ['i'.toNat, 0x307] :: caseRuns.map fun run ↦ bitsOf (run.points.map run.small))

/-- The blanks. -/
def blankBits : Nat :=
  union (blankRanges.map fun range ↦ bitsOf (List.range' range.1 (range.2 + 1 - range.1)))

/-- All small forms are characters.  The capitals, the small forms and the blanks have no code point
in common. -/
theorem apart_caseRuns : (caseRuns.all CaseRun.isChars) = true ∧ capitalBits &&& blankBits = 0 ∧
    smallBits &&& (capitalBits ||| blankBits) = 0 := by
  decide +kernel

theorem testBit_capitalBits (hrun : run ∈ caseRuns) (h : run.holds point = true) :
    capitalBits.testBit point = true :=
  testBit_union (List.mem_cons_of_mem _ (List.mem_map_of_mem hrun))
    (testBit_bitsOf (CaseRun.mem_points h))

theorem testBit_smallBits (hrun : run ∈ caseRuns) (h : run.holds point = true) :
    smallBits.testBit (run.small point) = true :=
  testBit_union (List.mem_cons_of_mem _ (List.mem_map_of_mem hrun))
    (testBit_bitsOf (List.mem_map_of_mem (CaseRun.mem_points h)))

theorem testBit_smallBits_dotted (hd : d ∈ ['i', '\u0307']) : smallBits.testBit d.toNat = true :=
  testBit_union List.mem_cons_self (testBit_bitsOf (List.mem_map_of_mem hd))

theorem testBit_blankBits (hc : isBlank c = true) : blankBits.testBit c.toNat = true := by
  obtain ⟨range, hrange, hfirst, hlast⟩ := inRanges_iff.mp hc
  refine testBit_union (List.mem_map_of_mem hrange) (testBit_bitsOf ?_)
  rw [List.mem_range'_1]
  omega

theorem isBlank_of_not_testBit (h : blankBits.testBit c.toNat = false) : isBlank c = false := by
  rw [Bool.eq_false_iff]
  intro hblank
  rw [testBit_blankBits hblank] at h
  cases h

theorem isBlank_of_holds (hrun : run ∈ caseRuns) (h : run.holds c.toNat = true) :
    isBlank c = false :=
  isBlank_of_not_testBit (not_testBit_of_apart apart_caseRuns.2.1 (testBit_capitalBits hrun h))

theorem not_testBit_of_small (h : smallBits.testBit point = true) :
    capitalBits.testBit point = false ∧ blankBits.testBit point = false := by
  rw [← Bool.or_eq_false_iff, ← Nat.testBit_or]
  exact not_testBit_of_apart apart_caseRuns.2.2 h

theorem toNat_small (hrun : run ∈ caseRuns) (h : run.holds point = true) :
    (Char.ofNat (run.small point)).toNat = run.small point :=
  CaseRun.toNat_ofNat_small (List.all_eq_true.mp apart_caseRuns.1 run hrun) h

end Tables

/-- The capitals of ASCII. -/
def asciiRun : CaseRun := ⟨0x0041, 0x005A, 1, 32⟩

theorem asciiRun_mem : asciiRun ∈ caseRuns := List.mem_cons_self

theorem toLower_eq (c : Char) : c.toLower =
    if asciiRun.holds c.toNat = true then Char.ofNat (asciiRun.small c.toNat) else c := by
  have hholds : asciiRun.holds c.toNat = true ↔ 0x41 ≤ c.toNat ∧ c.toNat ≤ 0x5A := by
    simp [CaseRun.holds_iff, asciiRun, Nat.mod_one]
  unfold Char.toLower
  split
  · next hupper =>
    have hheld : asciiRun.holds c.toNat = true := hholds.mpr hupper
    have hlast := (hholds.mp hheld).2
    rw [if_pos hheld]
    refine Char.toNat_inj.mp ?_
    rw [toNat_small asciiRun_mem hheld]
    change (c.toNat + 32) % 2 ^ 32 = Int.toNat (c.toNat + 32)
    omega
  · next hupper => rw [if_neg (mt hholds.mp hupper)]

/-- A character outside the runs, and no dotted capital I, is its own small form. -/
theorem lowerChar_of_not_holds (hdotted : c.toNat ≠ 0x130)
    (h : ∀ run ∈ caseRuns, run.holds c.toNat = false) : lowerChar c = [c] := by
  have hnone : caseRuns.find? (·.holds c.toNat) = none := by
    rw [List.find?_eq_none]
    exact fun run hrun ↦ by rw [h run hrun]; decide
  have hlower : c.toLower = c := by
    rw [toLower_eq, h asciiRun asciiRun_mem, if_neg Bool.false_ne_true]
  rw [lowerChar, hlower, if_neg hdotted, hnone]
  exact ite_self _

/-- How a character is lowered. -/
theorem lowerChar_cases (c : Char) :
    lowerChar c = [c] ∨ (c = '\u0130' ∧ lowerChar c = ['i', '\u0307']) ∨
      ∃ run ∈ caseRuns, run.holds c.toNat = true ∧
        lowerChar c = [Char.ofNat (run.small c.toNat)] := by
  unfold lowerChar
  split
  · rw [toLower_eq]
    split
    · next hheld => exact .inr (.inr ⟨asciiRun, asciiRun_mem, hheld, rfl⟩)
    · exact .inl rfl
  · split
    · next hdotted => exact .inr (.inl ⟨Char.toNat_inj.mp hdotted, rfl⟩)
    · cases hrun : caseRuns.find? (·.holds c.toNat) with
      | none => exact .inl rfl
      | some run =>
        have hheld := List.find?_some hrun
        exact .inr (.inr ⟨run, List.mem_of_find?_eq_some hrun, hheld, rfl⟩)

theorem lowerChar_ne_nil (c : Char) : lowerChar c ≠ [] := by
  rcases lowerChar_cases c with h | ⟨-, h⟩ | ⟨run, -, -, h⟩
  all_goals
    rw [h]
    exact List.cons_ne_nil _ _

/-- A small form that is not the character itself is in the set of small forms, and the character is
no blank. -/
theorem small_of_mem (hd : d ∈ lowerChar c) :
    d = c ∧ lowerChar c = [c] ∨ smallBits.testBit d.toNat = true ∧ isBlank c = false := by
  rcases lowerChar_cases c with h | ⟨rfl, h⟩ | ⟨run, hrun, hheld, h⟩ <;> rw [h] at hd
  · exact .inl ⟨List.mem_singleton.mp hd, h⟩
  · exact .inr ⟨testBit_smallBits_dotted hd, by decide⟩
  · obtain rfl := List.mem_singleton.mp hd
    refine .inr ⟨?_, isBlank_of_holds hrun hheld⟩
    rw [toNat_small hrun hheld]
    exact testBit_smallBits hrun hheld

/-- A character that is no capital is its own small form. -/
theorem lowerChar_of_not_testBit (h : capitalBits.testBit c.toNat = false) : lowerChar c = [c] := by
  refine lowerChar_of_not_holds (fun hdotted ↦ ?_) fun run hrun ↦ ?_
  · have hcapital : capitalBits.testBit 0x130 = true :=
      testBit_union List.mem_cons_self (testBit_bitsOf (List.mem_singleton_self _))
    rw [hdotted, hcapital] at h
    cases h
  · rw [Bool.eq_false_iff]
    intro hheld
    rw [testBit_capitalBits hrun hheld] at h
    cases h

/-- A small form is its own small form. -/
theorem lowerChar_of_mem (hd : d ∈ lowerChar c) : lowerChar d = [d] := by
  rcases small_of_mem hd with ⟨rfl, hsame⟩ | ⟨hsmall, -⟩
  · exact hsame
  · exact lowerChar_of_not_testBit (not_testBit_of_small hsmall).1

theorem isBlank_of_mem_lowerChar (hd : d ∈ lowerChar c) : isBlank d = isBlank c := by
  rcases small_of_mem hd with ⟨rfl, -⟩ | ⟨hsmall, hblank⟩
  · rfl
  · rw [hblank]
    exact isBlank_of_not_testBit (not_testBit_of_small hsmall).2

/-- A blank is its own small form. -/
theorem lowerChar_of_isBlank (hc : isBlank c = true) : lowerChar c = [c] := by
  obtain ⟨d, hd⟩ := List.exists_mem_of_ne_nil _ (lowerChar_ne_nil c)
  rcases small_of_mem hd with ⟨-, hsame⟩ | ⟨-, hblank⟩
  · exact hsame
  · rw [hblank] at hc
    cases hc

end AddonUpkeep.Text
