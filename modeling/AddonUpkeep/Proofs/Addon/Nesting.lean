import AddonUpkeep.Proofs.Addon.Assessment
import AddonUpkeep.Proofs.Cluster.Clients
import AddonUpkeep.Proofs.Json.RoundTrip

/-!
# DaemonSets that are nested too deeply

Arrays in the metadata of a DaemonSet can be nested so that its text is read, and yet no host of the
usual room can copy it: a copy nests two calls for every layer, reading only one.
-/

namespace AddonUpkeep

open AddonUpkeep.Json AddonUpkeep.Kubectl

namespace Json

/-- A null inside so many arrays. -/
def nested : Nat → Json
  | 0 => .null
  | depth + 1 => .arr [nested depth]

theorem readable_nested {layers depth : Nat} (h : layers + depth ≤ nestingLimit + 1) :
    Readable layers (nested depth) := by
  induction depth generalizing layers with
  | zero => trivial
  | succ depth ih => exact ⟨by omega, ih (by omega), trivial⟩

end Json

namespace KubeProxy

/-- A DaemonSet with an image, with arrays in its metadata that are nested as deeply as told. -/
def workloadWithin (image : String) (depth : Nat) : Json :=
  .obj [("metadata", .obj [("name", .str "kube-proxy"), ("namespace", .str "kube-system"),
      ("notes", nested depth)]),
    ("spec", .obj [("template", .obj [("spec", .obj
      [("containers", .arr [.obj [("image", .str image)]])])])])]

theorem readable_workloadWithin (image : String) {depth : Nat} (h : depth < nestingLimit) :
    Readable 0 (workloadWithin image depth) := by
  have hnotes : Readable 2 (nested depth) := readable_nested (by omega)
  simp [workloadWithin, Readable, ReadableFields, ReadableItems, Table.keys, nestingLimit, hnotes]

/-- A client whose next reply prints the DaemonSet. -/
def offering (daemonSet : Json) : Transcript := { replies := [.finished 0 (.text daemonSet.line) ""] }

theorem offers_workloadWithin (image : String) {depth : Nat} (h : depth < nestingLimit) :
    (offering (workloadWithin image depth)).Offers (workloadWithin image depth) :=
  ⟨_, "", rfl, parse_line (readable_workloadWithin image h), _, rfl⟩

/-- What a client offers is what is read. -/
theorem fetch_of_offers {access : Access} {name scope : String} {session : Session Transcript}
    {daemonSet : Json} (h : session.cluster.Offers daemonSet) :
    ((fetch access (.str name) (.str scope)).runOn session).1 = .ok daemonSet := by
  obtain ⟨output, errors, hresult, hparse, fields, rfl⟩ := h
  rw [outcome_fetch, hresult]
  change Finished.fetched name scope ⟨0, output, errors⟩ = _
  rw [Finished.fetched, if_neg (by simp), readObject, hparse]

end KubeProxy

end AddonUpkeep
