import AddonUpkeep.Text.Blank
import Mathlib.Data.List.DropRight
import Mathlib.Data.List.TakeWhile

/-!
# Trimming

A text is the blanks in front of it, what trimming leaves of it, and the blanks behind it.  So
blanks can be put around a text, or taken away, without changing what is left.
-/

namespace AddonUpkeep.Text

variable {c : Char} {before behind text : List Char}

theorem trimLeft_cons (hc : isBlank c = false) (text : List Char) :
    trimLeft (c :: text) = c :: text :=
  List.dropWhile_cons_of_neg (by rw [hc]; decide)

/-- A character that is no blank is kept, and so is everything in front of it. -/
theorem trimRight_cons (hc : isBlank c = false) (text : List Char) :
    trimRight (c :: text) = c :: trimRight text := by
  unfold trimRight
  rw [List.reverse_cons, List.dropWhile_append]
  split
  · next hnone =>
    rw [List.isEmpty_iff] at hnone
    rw [List.dropWhile_cons_of_neg (by rw [hc]; decide), hnone]
    rfl
  · rw [List.reverse_append]
    rfl

theorem trimRight_trimRight (text : List Char) : trimRight (trimRight text) = trimRight text :=
  List.rdropWhile_idempotent isBlank text

theorem trimBlanks_trimBlanks (text : List Char) :
    trimBlanks (trimBlanks text) = trimBlanks text := by
  unfold trimBlanks
  cases hleft : trimLeft text with
  | nil => rfl
  | cons c rest =>
    have hc : isBlank c = false := by
      have hhead := List.head?_dropWhile_not isBlank text
      rw [← trimLeft, hleft] at hhead
      exact hhead
    rw [trimRight_cons hc, trimLeft_cons hc, trimRight_cons hc, trimRight_trimRight]

theorem trimLeft_eq_self_iff :
    trimLeft text = text ↔ text.head?.map isBlank ≠ some true := by
  cases text with
  | nil => simp [trimLeft]
  | cons c rest => simp [trimLeft, List.dropWhile_eq_self_iff]

theorem trimRight_eq_self_iff :
    trimRight text = text ↔ text.getLast?.map isBlank ≠ some true := by
  rw [show trimRight text = text.rdropWhile isBlank from rfl, List.rdropWhile_eq_self_iff]
  rcases List.eq_nil_or_concat text with rfl | ⟨front, c, rfl⟩
  · simp
  · simp

/-- A text is left as it is when neither its first nor its last character is blank. -/
theorem trimBlanks_eq_self_iff : trimBlanks text = text ↔
    text.head?.map isBlank ≠ some true ∧ text.getLast?.map isBlank ≠ some true := by
  rw [← trimLeft_eq_self_iff, ← trimRight_eq_self_iff]
  refine ⟨fun h ↦ ?_, fun ⟨hleft, hright⟩ ↦ by rw [trimBlanks, hleft, hright]⟩
  have hkept : text.Sublist (trimLeft text) := by
    conv_lhs => rw [← h]
    exact (List.rdropWhile_prefix isBlank _).sublist
  have hleft : trimLeft text = text := (List.dropWhile_sublist isBlank).antisymm hkept
  refine ⟨hleft, ?_⟩
  rwa [trimBlanks, hleft] at h

/-- Letters in front of a text without blanks at its ends keep it free of them. -/
theorem trimBlanks_letters (hc : isBlank c = false) (count : Nat) (text : List Char) :
    trimBlanks (List.replicate count c ++ trimBlanks text) =
      List.replicate count c ++ trimBlanks text := by
  have hright : trimRight (trimBlanks text) = trimBlanks text := trimRight_trimRight _
  have hletters : trimRight (List.replicate count c ++ trimBlanks text) =
      List.replicate count c ++ trimBlanks text := by
    induction count with
    | zero => exact hright
    | succ count ih => rw [List.replicate_succ, List.cons_append, trimRight_cons hc, ih]
  cases count with
  | zero => exact trimBlanks_trimBlanks text
  | succ count =>
    unfold trimBlanks at hletters ⊢
    rw [List.replicate_succ, List.cons_append] at hletters ⊢
    rw [trimLeft_cons hc, hletters]

/-- Blanks around a text are dropped with those at its ends. -/
theorem trimBlanks_surrounded (hbefore : ∀ c ∈ before, isBlank c = true)
    (hbehind : ∀ c ∈ behind, isBlank c = true) (text : List Char) :
    trimBlanks (before ++ text ++ behind) = trimBlanks text := by
  have hdropped : behind.dropWhile isBlank = [] := List.dropWhile_eq_nil_iff.mpr hbehind
  have hleft : trimLeft (before ++ text ++ behind) =
      if (trimLeft text).isEmpty then [] else trimLeft text ++ behind := by
    unfold trimLeft
    rw [List.append_assoc, List.dropWhile_append_of_pos hbefore, List.dropWhile_append, hdropped]
  unfold trimBlanks
  rw [hleft]
  split
  · next hnone => rw [List.isEmpty_iff.mp hnone]
  · unfold trimRight
    rw [List.reverse_append,
      List.dropWhile_append_of_pos fun c hc ↦ hbehind c (List.mem_reverse.mp hc)]

theorem trimBlanks_of_not_isBlank (h : ∀ c ∈ text, isBlank c = false) :
    trimBlanks text = text := by
  have hdrop {text : List Char} (h : ∀ c ∈ text, isBlank c = false) :
      text.dropWhile isBlank = text := by
    cases text with
    | nil => rfl
    | cons c text => exact List.dropWhile_cons_of_neg (by simp [h c List.mem_cons_self])
  rw [trimBlanks, trimLeft, hdrop h, trimRight, hdrop fun c hc ↦ h c (List.mem_reverse.mp hc),
    List.reverse_reverse]

theorem mem_dropWhile {skips : Char → Bool} (hc : c ∈ text) (hkept : skips c = false) :
    c ∈ text.dropWhile skips := by
  rw [← List.takeWhile_append_dropWhile (p := skips) (l := text), List.mem_append] at hc
  rcases hc with htaken | hleft
  · rw [List.mem_takeWhile_imp htaken] at hkept
    cases hkept
  · exact hleft

theorem mem_trimBlanks (hc : c ∈ text) (hblank : isBlank c = false) : c ∈ trimBlanks text := by
  unfold trimBlanks trimRight trimLeft
  rw [List.mem_reverse]
  exact mem_dropWhile (List.mem_reverse.mpr (mem_dropWhile hc hblank)) hblank

theorem mem_of_mem_trimBlanks (h : c ∈ trimBlanks text) : c ∈ text := by
  have hleft : c ∈ trimLeft text :=
    List.mem_reverse.mp ((List.dropWhile_sublist isBlank).mem (List.mem_reverse.mp h))
  exact (List.dropWhile_sublist isBlank).mem hleft

/-- A text has blanks only around what trimming leaves of it. -/
theorem exists_surrounded (text : List Char) :
    ∃ before behind, (∀ c ∈ before, isBlank c = true) ∧ (∀ c ∈ behind, isBlank c = true) ∧
      text = before ++ trimBlanks text ++ behind := by
  have hblank : ∀ {text : List Char}, ∀ c ∈ text.takeWhile isBlank, isBlank c = true :=
    fun _ hc ↦ List.mem_takeWhile_imp hc
  refine ⟨text.takeWhile isBlank, ((trimLeft text).reverse.takeWhile isBlank).reverse, hblank,
    fun c hc ↦ hblank c (List.mem_reverse.mp hc), ?_⟩
  have hright : trimBlanks text ++ ((trimLeft text).reverse.takeWhile isBlank).reverse =
      trimLeft text := by
    unfold trimBlanks trimRight
    rw [← List.reverse_append, List.takeWhile_append_dropWhile, List.reverse_reverse]
  rw [List.append_assoc, hright, trimLeft, List.takeWhile_append_dropWhile]

/-- Nothing is left of a text when it is blank. -/
theorem trimBlanks_eq_nil_iff : trimBlanks text = [] ↔ ∀ c ∈ text, isBlank c = true := by
  constructor
  · intro h
    obtain ⟨before, behind, hbefore, hbehind, htext⟩ := exists_surrounded text
    rw [htext, h, List.append_nil]
    intro c hc
    exact (List.mem_append.mp hc).elim (hbefore c) (hbehind c)
  · intro h
    have hsurrounded := trimBlanks_surrounded h (List.forall_mem_nil _) []
    rwa [List.append_nil, List.append_nil] at hsurrounded

end AddonUpkeep.Text
