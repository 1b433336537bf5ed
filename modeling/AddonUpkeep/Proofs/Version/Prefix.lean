import AddonUpkeep.Proofs.Version.Alphabet

/-!
# Letters in front of a version

A version may have letters `v` in front of it and blanks around it.  The reader drops both before it
reads anything, so they do not change the version that is read.
-/

namespace AddonUpkeep.Version

open AddonUpkeep.Text

/-- A text of a version, without the blanks at its ends, with letters `v` put in front of it and
blanks around the whole. -/
def Prefixed (version spelled : String) : Prop :=
  ∃ before count behind, (∀ c ∈ before, isBlank c = true) ∧ (∀ c ∈ behind, isBlank c = true) ∧
    spelled.toList = before ++ (List.replicate count 'v' ++ (trim version).toList) ++ behind

variable {version spelled : String} {found : Version}

theorem core_of_prefixed (h : Prefixed version spelled) : core spelled = core version := by
  obtain ⟨before, count, behind, hbefore, hbehind, hspelled⟩ := h
  unfold core
  rw [hspelled, trimBlanks_surrounded hbefore hbehind, toList_trim,
    trimBlanks_letters (by decide), List.dropWhile_append_of_pos fun c hc ↦ ?_]
  rw [List.eq_of_mem_replicate hc]
  rfl

/-- The reader looks at the core of a text only, once the text is not blank. -/
theorem parse_of_core (h : parse version = .ok found) (hcore : core spelled = core version)
    (hblank : isBlankText spelled = false) : parse spelled = .ok found := by
  unfold parse at h ⊢
  split at h
  · cases h
  · extract_lets read at h
    rw [hblank, if_neg (by decide), hcore]
    split at h
    · cases h
    · next spelling hspelling =>
      dsimp only
      rw [hspelling]
      exact h

theorem isBlankText_of_parse (h : parse version = .ok found) : isBlankText version = false := by
  unfold parse at h
  split at h
  · cases h
  · next hblank => exact (Bool.not_eq_true _).mp hblank

/-- Letters `v` and blanks around a version do not change what is read. -/
theorem parse_of_prefixed (hversion : parse version = .ok found) (h : Prefixed version spelled) :
    parse spelled = .ok found := by
  apply parse_of_core hversion (core_of_prefixed h)
  obtain ⟨before, count, behind, -, -, hspelled⟩ := h
  have hsome := isBlankText_of_parse hversion
  rw [isBlankText, List.all_eq_false] at hsome ⊢
  obtain ⟨c, hc, hblank⟩ := hsome
  have hkept : c ∈ trimBlanks version.toList :=
    mem_trimBlanks hc ((Bool.not_eq_true _).mp hblank)
  exact ⟨c, by rw [hspelled, toList_trim]; simp [hkept], hblank⟩

/-- The text of a version without the blanks at its ends has no letter put in front. -/
theorem prefixed_trim (version : String) : Prefixed version (trim version) :=
  ⟨[], 0, [], by simp, by simp, by simp⟩

end AddonUpkeep.Version
