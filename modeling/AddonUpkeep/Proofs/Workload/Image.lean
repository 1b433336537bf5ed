import AddonUpkeep.Addon.KubeProxy
import AddonUpkeep.Proofs.Text.Pieces

/-!
# Reading image references

An image that is read has the text that it was read from, with a single colon in it.
-/

namespace AddonUpkeep

namespace Image

theorem toList_reference (image : Image) :
    image.reference.toList = image.repository.toList ++ ':' :: image.tag.toList := by
  simp [reference]

/-- An image that is read has the text it was read from, and no colon in its parts. -/
theorem parse?_eq_some {text : String} {image : Image} (h : parse? text = some image) :
    text = image.reference ∧ ':' ∉ image.repository.toList ∧ ':' ∉ image.tag.toList := by
  unfold parse? at h
  split at h
  · next repository tag hpieces =>
    cases h
    have hjoin := Text.joinPieces_pieces ':' text.toList
    have hnone : ∀ piece ∈ Text.pieces ':' text.toList, ':' ∉ piece :=
      fun _ ↦ Text.not_mem_of_mem_pieces
    rw [hpieces] at hjoin hnone
    refine ⟨?_, ?_, ?_⟩
    · apply String.toList_injective
      rw [← hjoin]
      simp [reference, Text.joinPieces]
    · rw [String.toList_ofList]
      exact hnone repository List.mem_cons_self
    · rw [String.toList_ofList]
      exact hnone tag (List.mem_cons_of_mem _ List.mem_cons_self)
  · simp at h

/-- The reference of an image is read as the image. -/
theorem parse?_reference {image : Image} (hrepository : ':' ∉ image.repository.toList)
    (htag : ':' ∉ image.tag.toList) : parse? image.reference = some image := by
  have hpieces : Text.pieces ':' image.reference.toList =
      [image.repository.toList, image.tag.toList] := by
    rw [toList_reference, Text.pieces_append hrepository, Text.pieces_of_not_mem htag]
  unfold parse?
  rw [hpieces]
  dsimp only
  rw [String.ofList_toList, String.ofList_toList]

/-- A reference has exactly one colon when the parts of the image have none. -/
theorem count_reference_iff {image : Image} : image.reference.toList.count ':' = 1 ↔
    ':' ∉ image.repository.toList ∧ ':' ∉ image.tag.toList := by
  rw [toList_reference, List.count_append, List.count_cons_self, ← List.count_eq_zero,
    ← List.count_eq_zero]
  omega

/-- The text of an image up to its first colon is the repository. -/
theorem takeWhile_reference {repository : String} (tag : String)
    (h : ':' ∉ repository.toList) :
    (reference ⟨repository, tag⟩).toList.takeWhile (· ≠ ':') = repository.toList := by
  rw [toList_reference, List.takeWhile_append_of_pos]
  · simp
  · intro c hc
    have hne : c ≠ ':' := fun heq ↦ h (heq ▸ hc)
    simpa using hne

end Image

end AddonUpkeep
