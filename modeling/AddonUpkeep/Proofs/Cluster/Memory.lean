import AddonUpkeep.Cluster.Memory
import AddonUpkeep.Proofs.Cluster.Host
import AddonUpkeep.Proofs.Cluster.Session
import AddonUpkeep.Proofs.Reading
import AddonUpkeep.Proofs.Table

/-!
# Reading and replacing in memory

The store of a memory files every DaemonSet at the place that it names itself.  So a DaemonSet that
was found, changed without its place and put back comes to stand where it was found.
-/

namespace AddonUpkeep

namespace Memory

/-- The outcome of reading a DaemonSet on a host. -/
def found (memory : Memory) (host : Host) (name scope : Setting) : Except Fault Json :=
  match memory.getFault with
  | some fault => .error fault
  | none =>
    if !scope.isKey then .error (.shape (.isNoKey scope.kindName))
    else if !name.isKey then .error (.shape (.isNoKey name.kindName))
    else match memory.store.get? ⟨scope, name⟩ with
      | some daemonSet => match host.copyFault? fetchCalls daemonSet with
        | some fault => .error fault
        | none => .ok daemonSet
      | none => do
        name.checkText
        scope.checkText
        .error (.resourceMissing name.text scope.text)

variable {memory : Memory} {host : Host} {name scope : Setting} {daemonSet : Json}

/-- A DaemonSet is found under a place in use, once reading does not fail and the host can copy
it. -/
theorem found_eq_ok_iff :
    memory.found host name scope = .ok daemonSet ↔ memory.getFault = none ∧ scope.isKey = true ∧
      name.isKey = true ∧ memory.store.get? ⟨scope, name⟩ = some daemonSet ∧
      host.copyFault? fetchCalls daemonSet = none := by
  unfold found
  cases memory.getFault with
  | some fault => simp
  | none =>
    cases scope.isKey with
    | false => simp
    | true =>
      cases name.isKey with
      | false => simp
      | true =>
        cases memory.store.get? ⟨scope, name⟩ with
        | some held =>
          cases hcopies : host.copyFault? fetchCalls held with
          | some fault =>
            refine iff_of_false (by simp [hcopies]) ?_
            rintro ⟨-, -, -, hheld, hnone⟩
            rw [← Option.some.inj hheld, hcopies] at hnone
            cases hnone
          | none =>
            simp only [Bool.not_true, Bool.false_eq_true, if_false, true_and, hcopies,
              Except.ok.injEq, Option.some.injEq, iff_self_and]
            rintro rfl
            exact hcopies
        | none =>
          -- whether or not the name and the namespace have texts, nothing is found
          rcases name.checkText_cases with hname | hname <;>
            rcases scope.checkText_cases with hscope | hscope <;> simp [hname, hscope, bind,
              Except.bind]

theorem get?_of_found (h : memory.found host name scope = .ok daemonSet) :
    memory.store.get? ⟨scope, name⟩ = some daemonSet :=
  (found_eq_ok_iff.mp h).2.2.2.1

/-- A DaemonSet that is found can be copied. -/
theorem copies_of_found (h : memory.found host name scope = .ok daemonSet) :
    host.copyFault? fetchCalls daemonSet = none :=
  (found_eq_ok_iff.mp h).2.2.2.2

/-- What is found depends on the store and on whether reading fails. -/
theorem found_congr {after : Memory} (hfault : after.getFault = memory.getFault)
    (hstore : after.store = memory.store) (host : Host) (name scope : Setting) :
    after.found host name scope = memory.found host name scope := by
  unfold found
  rw [hfault, hstore]

/-- What is found depends on the room of the host only. -/
theorem found_of_room_eq {other : Host} (h : host.room = other.room) (memory : Memory)
    (name scope : Setting) : memory.found host name scope = memory.found other name scope := by
  unfold found
  simp only [Host.copyFault?_congr h]

theorem runOn_fetch (name scope : Setting) (session : Session Memory) :
    (fetch name scope).runOn session =
      (session.cluster.found session.host name scope, { session with
        cluster := { session.cluster with
          reads := session.cluster.reads ++ [(name, scope)] } }) := by
  unfold fetch found
  rw [Task.runOn_bind, Task.runOn_change]
  dsimp only
  rw [Task.runOn_bind, Task.runOn_cluster]
  dsimp only
  cases session.cluster.getFault with
  | some fault => rfl
  | none =>
    dsimp only
    unfold checkKeys
    cases scope.isKey with
    | false => rfl
    | true =>
      cases name.isKey with
      | false => rfl
      | true =>
        rw [Task.runOn_bind]
        change Task.runOn (match session.cluster.store.get? ⟨scope, name⟩ with
          | some _ => _ | none => _) _ = (match session.cluster.store.get? ⟨scope, name⟩ with
          | some _ => _ | none => _, _)
        cases session.cluster.store.get? ⟨scope, name⟩ with
        | some daemonSet =>
          dsimp only
          rw [Task.runOn_host_bind, Task.runOn_check_bind]
          dsimp only
          cases session.host.copyFault? fetchCalls daemonSet <;> rfl
        | none =>
          dsimp only
          rw [Task.runOn_bind, Task.runOn_ofExcept]
          rcases name.checkText_cases with hname | hname
          · rw [hname]
            dsimp only
            rw [Task.runOn_bind, Task.runOn_ofExcept]
            rcases scope.checkText_cases with hscope | hscope <;> rw [hscope] <;> rfl
          · rw [hname]
            rfl

theorem cluster_runOn_fetch (name scope : Setting) (session : Session Memory) :
    ((fetch name scope).runOn session).2.cluster =
      { session.cluster with reads := session.cluster.reads ++ [(name, scope)] } := by
  rw [runOn_fetch]

theorem runOn_replace (daemonSet : Json) (session : Session Memory) :
    (replace daemonSet).runOn session = match session.cluster.updateFault with
      | some fault => (.error fault, session)
      | none => match session.host.copyFault? replaceCalls daemonSet with
        | some fault => (.error fault, session)
        | none => (.ok daemonSet, { session with
            cluster := { session.cluster.put daemonSet with
              updates := session.cluster.updates ++ [daemonSet] } }) := by
  unfold replace
  rw [Task.runOn_bind, Task.runOn_cluster]
  dsimp only
  cases session.cluster.updateFault with
  | some fault => rfl
  | none =>
    dsimp only
    rw [Task.runOn_host_bind, Task.runOn_check_bind]
    cases session.host.copyFault? replaceCalls daemonSet <;> rfl

end Memory

/-- What equals some key is a key: it equals itself. -/
theorem Setting.isSameKey_self {left right : Setting} (h : left.isSameKey right = true) :
    left.isSameKey left = true := by
  cases left with
  | float number =>
    cases number with
    | nan => cases right <;> simp [isSameKey, asInt?, Number.Binary64.sameNumber,
        Number.Binary64.isInt, Number.Binary64.toRatio?] at h
    | _ => simp [isSameKey, Number.Binary64.sameNumber]
  | moment time => simp [isSameKey, Moment.isSame]
  | null | bool | int | str | bytes | date => simp [isSameKey, asInt?]
  | list | pair | map | set | enclosing => cases right <;> simp [isSameKey, asInt?] at h

namespace Place

theorem beq_self {left right : Place} (h : (left == right) = true) : (left == left) = true := by
  have hparts : (left.scope.isSameKey right.scope && left.name.isSameKey right.name) = true := h
  rw [Bool.and_eq_true] at hparts
  change (left.scope.isSameKey left.scope && left.name.isSameKey left.name) = true
  rw [Setting.isSameKey_self hparts.1, Setting.isSameKey_self hparts.2]
  rfl

end Place

namespace Memory

/-- Every DaemonSet is filed at the place that it names, and nothing before it is filed there. -/
structure Filed (store : Table Place Json) : Prop where
  placed : ∀ entry ∈ store, entry.1 = .ofDaemonSet entry.2 ∨
    (entry.1 == Place.ofDaemonSet entry.2) = true
  apart : store.Pairwise fun earlier later ↦ (earlier.1 == Place.ofDaemonSet later.2) = false

theorem filed_nil : Filed [] := ⟨by simp, .nil⟩

theorem Filed.erase {store : Table Place Json} (h : Filed store) (place : Place) :
    Filed (store.erase place) where
  placed entry hentry := h.placed entry (List.mem_filter.mp hentry).1
  apart := h.apart.filter _

/-- A place that no entry has comes last; otherwise the entry that has it is overwritten. -/
theorem put_cases (store : Table Place Json) (place : Place) (daemonSet : Json) :
    ((∀ entry ∈ store, (entry.1 == place) = false) ∧
        store.put place daemonSet = store ++ [(place, daemonSet)]) ∨
      ∃ before key held after, store = before ++ (key, held) :: after ∧
        (∀ entry ∈ before, (entry.1 == place) = false) ∧ (key == place) = true ∧
        store.put place daemonSet = before ++ (key, daemonSet) :: after := by
  induction store with
  | nil => exact .inl ⟨by simp, rfl⟩
  | cons entry store ih =>
    cases hentry : entry.1 == place with
    | true => exact .inr ⟨[], entry.1, entry.2, store, rfl, by simp, hentry,
        by simp [Table.put, hentry]⟩
    | false =>
      rcases ih with ⟨hnone, hput⟩ | ⟨before, key, held, after, rfl, hbefore, hkey, hput⟩
      · refine .inl ⟨?_, by simp [Table.put, hentry, hput]⟩
        simpa [hentry] using hnone
      · refine .inr ⟨entry :: before, key, held, after, rfl, ?_, hkey,
          by simp [Table.put, hentry, hput]⟩
        simpa [hentry] using hbefore

theorem Filed.put {store : Table Place Json} (h : Filed store) (daemonSet : Json) :
    Filed (store.put (.ofDaemonSet daemonSet) daemonSet) := by
  rcases put_cases store (.ofDaemonSet daemonSet) daemonSet with
    ⟨hnone, hput⟩ | ⟨before, key, held, after, rfl, hbefore, hkey, hput⟩
  · rw [hput]
    constructor
    · intro entry hentry
      rcases List.mem_append.mp hentry with hold | hnew
      · exact h.placed entry hold
      · rw [List.mem_singleton.mp hnew]
        exact .inl rfl
    · rw [List.pairwise_append]
      refine ⟨h.apart, List.pairwise_singleton _ _, ?_⟩
      intro entry hentry last hlast
      rw [List.mem_singleton.mp hlast]
      exact hnone entry hentry
  · rw [hput]
    obtain ⟨hfirst, hrest, hacross⟩ := List.pairwise_append.mp h.apart
    constructor
    · intro entry hentry
      rcases List.mem_append.mp hentry with hold | hmore
      · exact h.placed entry (by simp [hold])
      · rcases List.mem_cons.mp hmore with rfl | hlater
        · exact .inr hkey
        · exact h.placed entry (by simp [hlater])
    · rw [List.pairwise_append]
      refine ⟨hfirst, ?_, ?_⟩
      · rw [List.pairwise_cons] at hrest ⊢
        exact hrest
      · intro entry hentry last hlast
        rcases List.mem_cons.mp hlast with rfl | hlater
        · exact hbefore entry hentry
        · exact hacross entry hentry last (by simp [hlater])

/-- A change that whoever sets a memory up makes to it. -/
inductive Edit where
  | put (daemonSet : Json)
  | delete (scope name : Setting)

/-- The memory behind an edit. -/
def Edit.on (memory : Memory) : Edit → Memory
  | put daemonSet => memory.put daemonSet
  | delete scope name => memory.delete scope name

/-- The memory that some edits make of an empty one. -/
def edited (edits : List Edit) : Memory := edits.foldl Edit.on {}

theorem Edit.filed_on {memory : Memory} (edit : Edit) (h : Filed memory.store) :
    Filed (edit.on memory).store := by
  cases edit with
  | put daemonSet => exact h.put daemonSet
  | delete scope name => exact h.erase ⟨scope, name⟩

theorem filed_edited (edits : List Edit) : Filed (edited edits).store := by
  have hfold : ∀ memory : Memory, Filed memory.store → Filed (edits.foldl Edit.on memory).store := by
    induction edits with
    | nil => exact fun _ h ↦ h
    | cons edit edits ih => exact fun memory h ↦ ih _ (edit.filed_on h)
  exact hfold {} filed_nil

/-- The entry of a DaemonSet that was found is the first one at the place where it was found, and
the first one at the place that it names. -/
theorem Filed.split {store : Table Place Json} (h : Filed store) {place : Place} {held : Json}
    (hfound : store.get? place = some held) :
    ∃ before key after, store = before ++ (key, held) :: after ∧
      (∀ entry ∈ before, (entry.1 == place) = false) ∧ (key == place) = true ∧
      (∀ entry ∈ before, (entry.1 == Place.ofDaemonSet held) = false) ∧
      (key == Place.ofDaemonSet held) = true := by
  obtain ⟨⟨key, found⟩, hfirst, hheld⟩ := Option.map_eq_some_iff.mp hfound
  obtain rfl : found = held := hheld
  obtain ⟨hkey, before, after, hstore, hbefore⟩ := List.find?_eq_some_iff_append.mp hfirst
  have hmem : (key, found) ∈ store := by rw [hstore]; simp
  have hapart := h.apart
  rw [hstore] at hapart
  obtain ⟨-, -, hacross⟩ := List.pairwise_append.mp hapart
  refine ⟨before, key, after, hstore, fun entry hentry ↦ ?_, hkey, fun entry hentry ↦ ?_, ?_⟩
  · simpa using hbefore entry hentry
  · exact hacross entry hentry _ List.mem_cons_self
  · rcases h.placed _ hmem with heq | hbeq
    · change key = Place.ofDaemonSet found at heq
      rw [← heq]
      exact Place.beq_self hkey
    · exact hbeq

/-- A DaemonSet that was found and names the same place after a change is put back where it was. -/
theorem Filed.put_of_get? {store : Table Place Json} (h : Filed store) {place : Place}
    {held changed : Json} (hfound : store.get? place = some held)
    (hsame : Place.ofDaemonSet changed = Place.ofDaemonSet held) :
    ∃ before key after, store = before ++ (key, held) :: after ∧
      (∀ entry ∈ before, (entry.1 == place) = false) ∧ (key == place) = true ∧
      store.put (.ofDaemonSet changed) changed = before ++ (key, changed) :: after := by
  obtain ⟨before, key, after, hstore, hbefore, hkey, hapart, hplaced⟩ := h.split hfound
  refine ⟨before, key, after, hstore, hbefore, hkey, ?_⟩
  rw [hstore, hsame]
  exact Table.put_of_first changed hapart hplaced

/-- Putting back the DaemonSet that was found changes nothing. -/
theorem Filed.put_held {store : Table Place Json} (h : Filed store) {place : Place} {held : Json}
    (hfound : store.get? place = some held) : store.put (.ofDaemonSet held) held = store := by
  obtain ⟨before, key, after, hstore, -, -, hput⟩ := h.put_of_get? hfound rfl
  rw [hput, hstore]

/-- Of two DaemonSets that are put in the place of one, the second remains. -/
theorem Filed.put_put {store : Table Place Json} (h : Filed store) {place : Place}
    {held first second : Json} (hfound : store.get? place = some held)
    (hfirst : Place.ofDaemonSet first = Place.ofDaemonSet held)
    (hsecond : Place.ofDaemonSet second = Place.ofDaemonSet held) :
    (store.put (.ofDaemonSet first) first).put (.ofDaemonSet second) second =
      store.put (.ofDaemonSet second) second := by
  obtain ⟨before, key, after, hstore, -, -, hapart, hplaced⟩ := h.split hfound
  rw [hstore, hfirst, hsecond, Table.put_of_first first hapart hplaced,
    Table.put_of_first second hapart hplaced, Table.put_of_first second hapart hplaced]

/-- A DaemonSet that was put back is found where the one before it was found. -/
theorem Filed.get?_put {store : Table Place Json} (h : Filed store) {place : Place}
    {held changed : Json} (hfound : store.get? place = some held)
    (hsame : Place.ofDaemonSet changed = Place.ofDaemonSet held) :
    (store.put (.ofDaemonSet changed) changed).get? place = some changed := by
  obtain ⟨before, key, after, -, hbefore, hkey, hput⟩ := h.put_of_get? hfound hsame
  have hnone : before.find? (·.1 == place) = none :=
    List.find?_eq_none.mpr fun entry hentry ↦ by simp [hbefore entry hentry]
  rw [hput, Table.get?, List.find?_append, hnone, Option.none_or]
  simp [hkey]

/-- What was put in the place of a DaemonSet that was found is found there, if it can be copied. -/
theorem found_of_put {memory after : Memory} {host : Host} {name scope : Setting}
    {held changed : Json}
    (hfiled : Filed memory.store) (hfound : memory.found host name scope = .ok held)
    (hsame : Place.ofDaemonSet changed = Place.ofDaemonSet held)
    (hcopies : host.copyFault? fetchCalls changed = none)
    (hfault : after.getFault = memory.getFault)
    (hstore : after.store = memory.store.put (.ofDaemonSet changed) changed) :
    after.found host name scope = .ok changed := by
  obtain ⟨hnone, hscope, hname, hget, -⟩ := found_eq_ok_iff.mp hfound
  refine found_eq_ok_iff.mpr ⟨hfault.trans hnone, hscope, hname, ?_, hcopies⟩
  rw [hstore]
  exact hfiled.get?_put hget hsame

/-- Two stores with the same keys in the same order, equal but for the DaemonSet at a place, which
are related as given. -/
def AlikeBut (place : Place) (R : Json → Json → Prop) : Table Place Json → Table Place Json → Prop :=
  List.Forall₂ fun before after ↦ after.1 = before.1 ∧
    if (before.1 == place) = true then R before.2 after.2 else after.2 = before.2

variable {place : Place} {R S T : Json → Json → Prop} {first middle last : Table Place Json}

theorem AlikeBut.refl (hR : ∀ daemonSet, R daemonSet daemonSet) (store : Table Place Json) :
    AlikeBut place R store store := by
  refine List.forall₂_same.mpr fun entry _ ↦ ⟨rfl, ?_⟩
  split
  · exact hR entry.2
  · rfl

theorem AlikeBut.comp (hab : AlikeBut place R first middle) (hbc : AlikeBut place S middle last)
    (h : ∀ a b c, R a b → S b c → T a c) : AlikeBut place T first last := by
  refine forall₂_comp ?_ hab hbc
  intro a b c ⟨hkey, hvalue⟩ ⟨hkey', hvalue'⟩
  rw [hkey] at hkey' hvalue'
  refine ⟨hkey', ?_⟩
  split at hvalue
  · next hplace =>
    rw [if_pos hplace] at hvalue' ⊢
    exact h _ _ _ hvalue hvalue'
  · next hplace =>
    rw [if_neg hplace] at hvalue' ⊢
    exact hvalue'.trans hvalue

theorem AlikeBut.mono (h : AlikeBut place R first last) (hRS : ∀ a b, R a b → S a b) :
    AlikeBut place S first last := by
  refine List.Forall₂.imp ?_ h
  intro before after ⟨hkey, hvalue⟩
  refine ⟨hkey, ?_⟩
  split at hvalue
  · next hplace =>
    rw [if_pos hplace]
    exact hRS _ _ hvalue
  · next hplace =>
    rw [if_neg hplace]
    exact hvalue

theorem AlikeBut.keys_eq (h : AlikeBut place R first last) : last.keys = first.keys := by
  induction h with
  | nil => rfl
  | cons hentry _ ih => exact congrArg₂ List.cons hentry.1 ih

/-- Putting back a DaemonSet that was found changes the store in that DaemonSet only. -/
theorem Filed.alikeBut_put {store : Table Place Json} (h : Filed store) {held changed : Json}
    (hfound : store.get? place = some held)
    (hsame : Place.ofDaemonSet changed = Place.ofDaemonSet held) (hR : R held changed)
    (hrefl : ∀ daemonSet, R daemonSet daemonSet) :
    AlikeBut place R store (store.put (.ofDaemonSet changed) changed) := by
  obtain ⟨before, key, after, rfl, -, hkey, hput⟩ := h.put_of_get? hfound hsame
  rw [hput]
  refine List.rel_append (AlikeBut.refl hrefl before) (.cons ⟨rfl, ?_⟩ (AlikeBut.refl hrefl after))
  rw [if_pos hkey]
  exact hR

end Memory

end AddonUpkeep
