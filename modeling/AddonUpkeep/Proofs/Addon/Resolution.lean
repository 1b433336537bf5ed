import AddonUpkeep.Addon.Summary
import AddonUpkeep.Proofs.Cluster.Session
import AddonUpkeep.Proofs.Table

/-!
# How names are resolved and results settled

Resolving takes one name after the other.  What it has found after some names depends on the names
alone: the addons that they stand for and the names that stand for none, each once and in the order
in which they first came.  Results are settled behind that, under the names of the addons, which
stand for themselves and so never meet an unknown name.
-/

namespace AddonUpkeep

open AddonUpkeep.Text

variable {σ α : Type}

namespace Catalog

/-- The name stands for no addon. -/
def isUnknown (name : String) : Bool := !(identify name).isOk

/-- The addon that a name stands for, if there is one. -/
def kind? (name : String) : Option AddonKind := (identify name).toOption

theorem identify_of_canonicalName {name : String} {kind : AddonKind}
    (h : canonicalName name = kind.name) : identify name = .ok kind := by
  unfold identify
  rw [h, AddonKind.ofName?_name]

@[simp]
theorem identify_name (kind : AddonKind) : identify kind.name = .ok kind := by
  apply identify_of_canonicalName
  cases kind
  decide +kernel

/-- The name of an addon stands for an addon. -/
@[simp]
theorem isUnknown_name (kind : AddonKind) : isUnknown kind.name = false := by
  simp [isUnknown, Except.isOk, Except.toBool]

/-- A name that stands for no addon has the fault that says so. -/
theorem identify_eq_error {name : String} {fault : Fault} (h : identify name = .error fault) :
    fault = .unknownAddon name (join ", " available) := by
  unfold identify at h
  split at h
  · cases h
  · exact (Except.error.inj h).symm

end Catalog

namespace Summary

open AddonUpkeep.Catalog

/-- The addons that names stand for, each once. -/
def namedKinds (names : List String) : List AddonKind := (names.filterMap kind?).eraseDups

/-- The names that stand for no addon, each once. -/
def unknownNames (names : List String) : List String := (names.filter isUnknown).eraseDups

/-- The entry of a name that stands for no addon. -/
def unknownEntry (name : String) : Entry α :=
  .unknown name (Fault.unknownAddon name (join ", " available)).message

/-- What the resolution of names finds. -/
def Resolution.of (names : List String) : Resolution α where
  kinds := namedKinds names
  entries := (unknownNames names).map fun name ↦ (name, unknownEntry name)
  failed := names.filter isUnknown

theorem mem_unknownNames {names : List String} {name : String} :
    name ∈ unknownNames names ↔ name ∈ names ∧ isUnknown name = true := by
  rw [unknownNames, List.mem_eraseDups, List.mem_filter]

theorem nodup_namedKinds (names : List String) : (namedKinds names).Nodup := nodup_eraseDups _

/-- There is one addon, so a list that has every addon once at most has one. -/
theorem kinds_eq {kinds : List AddonKind} (h : kinds.Nodup) :
    kinds = [] ∨ kinds = [.kubeProxy] := by
  cases kinds with
  | nil => exact .inl rfl
  | cons first rest =>
    cases rest with
    | nil =>
      cases first
      exact .inr rfl
    | cons second rest =>
      cases first
      cases second
      exact absurd List.mem_cons_self (List.nodup_cons.mp h).1

/-- The addon is named when some name is not unknown. -/
theorem namedKinds_eq (names : List String) :
    namedKinds names = if names.all isUnknown then [] else [.kubeProxy] := by
  have hempty : namedKinds names = [] ↔ names.all isUnknown = true := by
    rw [List.eq_nil_iff_forall_not_mem, List.all_eq_true]
    constructor
    · intro h name hname
      by_contra hknown
      cases hkind : identify name with
      | error fault => exact hknown (by rw [isUnknown, hkind]; rfl)
      | ok kind =>
        refine h kind (List.mem_eraseDups.mpr (List.mem_filterMap.mpr ⟨name, hname, ?_⟩))
        rw [kind?, hkind]
        rfl
    · intro h kind hkind
      obtain ⟨name, hname, hkind⟩ := List.mem_filterMap.mp (List.mem_eraseDups.mp hkind)
      have hunknown := h name hname
      rw [kind?] at hkind
      rw [isUnknown] at hunknown
      cases hidentify : identify name with
      | error fault => rw [hidentify] at hkind; cases hkind
      | ok kind => rw [hidentify] at hunknown; cases hunknown
  split
  · next hall => exact hempty.mpr hall
  · next hall => exact (kinds_eq (nodup_namedKinds names)).resolve_left (mt hempty.mp hall)

/-- The step of the resolution: one more name behind some names. -/
theorem Resolution.runOn_add (names : List String) (name : String) (session : Session σ) :
    ∃ log, ((Resolution.of names : Resolution α).add name).runOn session =
      (Resolution.of (names ++ [name]), session.noting log) := by
  unfold Resolution.add
  cases hidentify : identify name with
  | ok kind =>
    refine ⟨[], ?_⟩
    have hknown : isUnknown name = false := by rw [isUnknown, hidentify]; rfl
    have hkind : kind? name = some kind := by rw [kind?, hidentify]; rfl
    have hunknown : unknownNames (names ++ [name]) = unknownNames names := by
      simp [unknownNames, List.filter_append, hknown]
    have hkinds : namedKinds (names ++ [name]) =
        if kind ∈ namedKinds names then namedKinds names else namedKinds names ++ [kind] := by
      rw [namedKinds, List.filterMap_append, List.filterMap_cons_some hkind, List.filterMap_nil,
        eraseDups_concat]
      simp only [namedKinds, List.mem_eraseDups]
    simp only [Resolution.of, hunknown, hkinds, List.filter_append, List.contains_iff_mem,
      Session.noting_nil]
    split
    · simp [hknown]
    · simp [hknown]
  | error fault =>
    cases identify_eq_error hidentify
    refine ⟨[⟨.warning, (Fault.unknownAddon name (join ", " available)).message⟩], ?_⟩
    have hunknown : isUnknown name = true := by rw [isUnknown, hidentify]; rfl
    have hkind : kind? name = none := by rw [kind?, hidentify]; rfl
    have hkinds : namedKinds (names ++ [name]) = namedKinds names := by
      simp [namedKinds, List.filterMap_append, hkind]
    have hnames : unknownNames (names ++ [name]) =
        if name ∈ unknownNames names then unknownNames names else unknownNames names ++ [name] := by
      rw [unknownNames, List.filter_append, List.filter_cons_of_pos hunknown, List.filter_nil,
        eraseDups_concat]
      simp only [unknownNames, List.mem_eraseDups]
    have hput := Table.put_map (unknownNames names) (unknownEntry (α := α)) name
    rw [← hnames] at hput
    dsimp only
    rw [Work.runOn_bind, Work.runOn_log, Work.runOn_pure]
    simp only [Resolution.of, hkinds, List.filter_append, List.filter_cons_of_pos hunknown,
      List.filter_nil]
    rw [← hput]
    rfl

/-- Resolving finds what the names alone say, and leaves the cluster. -/
theorem runOn_resolve (names : List String) (session : Session σ) :
    ∃ log, (resolve names : Work σ (Resolution α)).runOn session =
      (Resolution.of names, session.noting log) := by
  have hfrom : ∀ (rest done : List String) (session : Session σ),
      ∃ log, (rest.foldlM Resolution.add (Resolution.of done : Resolution α)).runOn session =
        (Resolution.of (done ++ rest), session.noting log) := by
    intro rest
    induction rest with
    | nil =>
      intro done session
      refine ⟨[], ?_⟩
      rw [List.append_nil, Session.noting_nil]
      rfl
    | cons name rest ih =>
      intro done session
      obtain ⟨first, hadd⟩ := Resolution.runOn_add (α := α) done name session
      obtain ⟨second, hrest⟩ := ih (done ++ [name]) (session.noting first)
      refine ⟨first ++ second, ?_⟩
      rw [List.foldlM_cons, Work.runOn_bind, hadd, hrest, Session.noting_noting,
        List.append_assoc, List.singleton_append]
  exact hfrom names [] session

/-- The entry of an addon that has a result. -/
def knownEntry (result : Result α) : String × Entry α := (result.addon, .known result)

/-- Results of addons whose names are new stand behind the entries that are there. -/
theorem foldl_settle (results : List (Result α)) (start : Resolution α)
    (hnew : (start.entries.keys ++ results.map Result.addon).Nodup) :
    results.foldl Resolution.settle start =
      { start with
        entries := start.entries ++ results.map knownEntry
        failed := start.failed ++ (results.filter fun result ↦ !result.isSuccess).map
          Result.addon } := by
  induction results generalizing start with
  | nil => simp
  | cons result results ih =>
    have hfresh : result.addon ∉ start.entries.keys := by
      intro hmem
      exact (List.nodup_append.mp hnew).2.2 _ hmem _ List.mem_cons_self rfl
    have hput : (start.settle result).entries = start.entries ++ [knownEntry result] :=
      Table.put_of_not_mem _ hfresh
    have hkeys : (start.settle result).entries.keys = start.entries.keys ++ [result.addon] := by
      rw [hput, Table.keys, List.map_append]
      rfl
    have hlater : ((start.settle result).entries.keys ++ results.map Result.addon).Nodup := by
      rw [hkeys, List.append_assoc]
      exact hnew
    rw [List.foldl_cons, ih _ hlater, hput]
    cases hsuccess : result.isSuccess with
    | true => simp [Resolution.settle, hsuccess]
    | false => simp [Resolution.settle, hsuccess]

/-- Handling addons and settling each result at once comes to handling all, then settling. -/
theorem foldlM_settle (handle : AddonKind → Work σ (Result α)) (kinds : List AddonKind)
    (start : Resolution α) :
    kinds.foldlM (fun settled kind ↦ do return settled.settle (← handle kind)) start =
      do return (← kinds.mapM handle).foldl Resolution.settle start := by
  induction kinds generalizing start with
  | nil => simp
  | cons kind kinds ih =>
    simp only [bind_pure_comp] at ih
    simp [List.mapM_cons, ih]

/-- The results of addons come in the order of the addons. -/
theorem addons_of_mapM {handle : AddonKind → Work σ (Result α)}
    (hname : ∀ kind session, ((handle kind).runOn session).1.addon = kind.name)
    (kinds : List AddonKind) (session : Session σ) :
    ((kinds.mapM handle).runOn session).1.map Result.addon = kinds.map AddonKind.name := by
  induction kinds generalizing session with
  | nil => rfl
  | cons kind kinds ih =>
    rw [List.mapM_cons, Work.runOn_bind, Work.runOn_bind, Work.runOn_pure, List.map_cons,
      List.map_cons, hname, ih]

end Summary

end AddonUpkeep
