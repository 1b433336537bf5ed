import AddonUpkeep.Proofs.Cluster.Host
import AddonUpkeep.Proofs.Workload.Renewal

/-!
# What a renewal keeps

A renewal writes a text twelve layers down at most.  So it keeps every property by layers that texts
and empty arrays have there.  A host has room for such a text, so a renewal can be copied when the
DaemonSet can, and it can be written for the log when the DaemonSet can.
-/

namespace AddonUpkeep

open AddonUpkeep.Json

variable {F : Nat → Json → Prop}

namespace Workload

open AddonUpkeep.Affinity

variable {image expression : Json → Json → Prop}

/-- A change of the image and of the expressions keeps what both changes keep. -/
theorem keeps_alike (hF : Layered F) (himage : Keeps F 6 image)
    (hexpression : Keeps F 10 expression) : Keeps F 0 (Alike image expression) := by
  apply keeps_inPath hF
  rintro before after ⟨middle, hcontainers, hterms⟩ hbefore
  have hmiddle : F 3 middle :=
    keeps_inField hF (keeps_inFirst hF (keeps_inField hF himage)) _ _ hcontainers hbefore
  have hexpressions : Keeps F 3 (InPath termsPath (InExpressions expression)) :=
    keeps_inPath hF (keeps_inItems hF (keeps_inField hF (keeps_inItems hF hexpression)))
  exact hexpressions _ _ hterms hmiddle

end Workload

namespace KubeProxy

open AddonUpkeep.Workload

/-- Putting one more value behind the values of an expression keeps what a list of texts has. -/
theorem keeps_opens (hF : Layered F) {depth : Nat} (hempty : F (depth + 1) (.arr []))
    (htext : ∀ text, F (depth + 2) (.str text)) (label : String) (allowed : Bool) :
    Keeps F depth (Opens label allowed) := by
  intro old new h hold
  unfold Opens at h
  split at h
  · obtain ⟨-, items, hitems, rfl⟩ := h
    have hvalues : F (depth + 1) (presentOr (.arr []) (old.field? "values")) := by
      cases hfield : old.field? "values" with
      | none => exact hempty
      | some values =>
        unfold presentOr
        dsimp only
        split
        · exact hF.field hold hfield
        · exact hempty
    apply hF.setField _ hold
    refine hF.ofItems hempty fun item hitem ↦ ?_
    rcases List.mem_append.mp hitem with hlisted | hnew
    · exact hF.iterate htext hvalues hitems item hlisted
    · rw [List.mem_singleton.mp hnew]
      exact htext _
  · rw [h]
    exact hold

/-- A DaemonSet whose image is another text and whose expressions are opened for arm64 has what it
had, as long as texts and empty arrays have it where they are written. -/
theorem keeps_renewal (hF : Layered F) (himage : ∀ text, F 6 (.str text))
    (hempty : F 11 (.arr [])) (htext : ∀ text, F 12 (.str text)) (label : String) (allowed : Bool) :
    Keeps F 0 (Alike (fun _ new ↦ ∃ text, new = .str text) (Opens label allowed)) := by
  refine keeps_alike hF ?_ (keeps_opens hF hempty htext label allowed)
  rintro old _ ⟨text, rfl⟩ -
  exact himage text

variable {host : Host} {label : String} {allowed : Bool} {before after : Json}

/-- A renewal can be gone through in the room that the DaemonSet needs, if that is room for a text
where one is written. -/
theorem passes_of_renewal {own least room : Nat} {test : Int → Prop}
    (hroom : 12 * own + (own + least) ≤ room)
    (h : Alike (fun _ new ↦ ∃ text, new = .str text) (Opens label allowed) before after)
    (hbefore : before.Passes own least test room) : after.Passes own least test room := by
  have hkeeps := keeps_renewal (layered_passes own least test room)
    (fun text ↦ by simp only [Passes]; omega) ⟨by omega, trivial⟩
    (fun text ↦ by simp only [Passes]; omega) label allowed
  exact hkeeps before after h hbefore

/-- A renewal can be written for the log when the DaemonSet can. -/
theorem notes_of_renewal (h : Alike (fun _ new ↦ ∃ text, new = .str text) (Opens label allowed)
    before after) (hbefore : host.Notes before) : host.Notes after := by
  rw [Host.notes_iff] at hbefore ⊢
  intro hdebug
  have hroom : 60 ≤ host.room - Host.noteCalls := Nat.le_sub_of_add_le host.room_ge
  exact passes_of_renewal (by omega) h (hbefore hdebug)

/-- A renewal can be copied when the DaemonSet can. -/
theorem copies_of_renewal {between : Nat} (hbetween : between ≤ 2)
    (h : Alike (fun _ new ↦ ∃ text, new = .str text) (Opens label allowed) before after)
    (hbefore : host.copyFault? between before = none) : host.copyFault? between after = none := by
  rw [Host.copyFault?_eq_none_iff] at hbefore ⊢
  have hroom := host.room_ge
  exact passes_of_renewal (by omega) h hbefore

end KubeProxy

end AddonUpkeep
