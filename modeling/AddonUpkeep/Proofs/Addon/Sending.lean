import AddonUpkeep.Proofs.Addon.Assessment
import AddonUpkeep.Proofs.Cluster.Kubectl
import AddonUpkeep.Proofs.Json.Readable
import AddonUpkeep.Proofs.Workload.Layers
import AddonUpkeep.Proofs.Workload.Reopening

/-!
# What an update sends

An update through the command reads the DaemonSet in one run, and sends the renewed one in another.
What is sent can be read again, so the reader at the other end has the fetched DaemonSet with the
image and the expressions that the update changes, and with everything else as it was.
-/

namespace AddonUpkeep

open AddonUpkeep.Json

namespace Affinity

variable {label value : String} {workload : Json}

/-- What a search finds is whether some expression on the label lists the value. -/
theorem hasValue_iff {found : Bool} (h : hasValue workload label value = .ok found) :
    ∃ expressions, matchExpressions workload = .ok expressions ∧
      (found = true ↔ ∃ expression ∈ expressions, allows label value expression = .ok true) := by
  obtain ⟨expressions, hread, hany⟩ := hasValue_eq_ok h
  refine ⟨expressions, hread, fun hfound ↦ ?_, fun ⟨expression, hmem, hallows⟩ ↦ ?_⟩
  · rw [hfound] at hany
    exact anyExpression_eq_true hany
  · cases found with
    | true => rfl
    | false =>
      have hmissing := anyExpression_eq_false hany expression hmem
      rw [hallows] at hmissing
      cases hmissing

end Affinity

namespace KubeProxy

open AddonUpkeep.Affinity AddonUpkeep.Kubectl AddonUpkeep.Workload

variable {proxy : KubeProxy} {version : String} {fetched sent : Json}

/-- A DaemonSet and the one that an update for a version sends in its place.  The image goes from
the tag that was found to the tag of the version.  Unless some expression on the label of the
version lists arm64 already, arm64 is put behind the values of every expression on it.  Everything
else is as it was. -/
structure Renewal (proxy : KubeProxy) (version label repository tag : String) (allowed : Bool)
    (fetched sent : Json) : Prop where
  label_eq : archLabelFor version = .ok label
  allowed_iff : ∃ expressions, matchExpressions fetched = .ok expressions ∧
    (allowed = true ↔ ∃ expression ∈ expressions, allows label arm64 expression = .ok true)
  not_mem_repository : ':' ∉ repository.toList
  not_mem_tag : ':' ∉ tag.toList
  fetched_image : HasImage fetched (repository ++ ":" ++ tag)
  sent_image : HasImage sent
    (repository ++ ":" ++ "v" ++ version ++ "-" ++ proxy.imageBuild.text)
  alike : Alike (fun old new ↦ old = .str (repository ++ ":" ++ tag) ∧
      new = .str (repository ++ ":" ++ "v" ++ version ++ "-" ++ proxy.imageBuild.text))
    (Opens label allowed) fetched sent
  metadata_eq : sent.field? "metadata" = fetched.field? "metadata"

/-- What an assessment says to send is a renewal. -/
theorem renewal_of_assess {host : Host}
    (h : proxy.assess host version fetched = .ok (some sent)) :
    ∃ label repository tag allowed,
      Renewal proxy version label repository tag allowed fetched sent := by
  obtain ⟨-, -, label, allowed, image, hlabel, hallowed, himage, hassess⟩ := assess_eq_ok h
  rcases hassess with ⟨hnone, -⟩ | ⟨updated, hsome, -, halike⟩
  · cases hnone
  · cases hsome
    obtain ⟨hfetched, hrepository, htag⟩ := currentImage_eq_ok himage
    have hnew : ({ image with tag := proxy.tagFor version } : Image).reference =
        image.repository ++ ":" ++ "v" ++ version ++ "-" ++ proxy.imageBuild.text := by
      apply String.toList_injective
      simp [Image.reference, tagFor, toString]
    rw [hnew] at halike
    exact ⟨label, image.repository, image.tag, allowed, hlabel, hasValue_iff hallowed, hrepository,
      htag, hfetched, halike.hasImage hfetched, halike, halike.field?_of_ne (by decide)⟩

/-- A renewal of what was read can be read. -/
theorem Renewal.readable {label repository tag : String} {allowed : Bool}
    (h : Renewal proxy version label repository tag allowed fetched sent)
    (hfetched : Readable 0 fetched) : Readable 0 sent := by
  have hempty : Readable 11 (.arr []) := ⟨by decide, trivial⟩
  refine keeps_renewal layered_readable (fun _ ↦ trivial) hempty (fun _ ↦ trivial) label allowed _ _
    (h.alike.mono ?_ fun _ _ ↦ id) hfetched
  rintro old new ⟨-, rfl⟩
  exact ⟨_, rfl⟩

/-- The runs of the command that an update makes: it reads, and when that gives a DaemonSet that is
not as it should be, it sends another unless it is a dry run. -/
inductive UpdateRuns (proxy : KubeProxy) (version : String) (dryRun : Bool)
    (before : Transcript) : List Call → Prop
  | none : UpdateRuns proxy version dryRun before []
  | read {get : Call} (hget : get.verb? = some "get") (hnone : get.body = none) :
      UpdateRuns proxy version dryRun before [get]
  | sent {get replace : Call} {host : Host} {fetched updated : Json}
      (hget : get.verb? = some "get") (hnone : get.body = none)
      (hreplace : replace.verb? = some "replace") (hdry : dryRun = false)
      (hoffers : before.Offers fetched)
      (hassess : proxy.assess host version fetched = .ok (some updated))
      (hbody : replace.body = some updated.line) :
      UpdateRuns proxy version dryRun before [get, replace]

/-- How an update runs the command. -/
theorem apply_runs (proxy : KubeProxy) (access : Access) (version : String) (dryRun : Bool)
    (session : Session Transcript) :
    ∃ calls, session.cluster.Runs
        ((proxy.apply (Kubectl.cluster access) version dryRun).runOn session).2.cluster calls ∧
      UpdateRuns proxy version dryRun session.cluster calls := by
  obtain ⟨outcome, after, hfetch, hcases⟩ := fetch_cases access proxy.name proxy.scope session
  obtain ⟨log, hfound⟩ := proxy.daemonSet?_runOn (Kubectl.cluster access) session
  rw [show (Kubectl.cluster access).fetch = fetch access from rfl, hfetch] at hfound
  cases outcome with
  | error fault =>
    have hread : ∃ calls, session.cluster.Runs after.cluster calls ∧
        UpdateRuns proxy version dryRun session.cluster calls := by
      rcases hcases with ⟨-, -, hruns⟩ | ⟨get, hget, hnone, hruns, -⟩
      · exact ⟨[], hruns, .none⟩
      · exact ⟨[get], hruns, .read hget hnone⟩
    dsimp only at hfound
    split at hfound
    · rcases proxy.name.checkText_cases with hname | hname
      · rw [hname] at hfound
        rw [apply_of_absent version dryRun hfound]
        exact hread
      · rw [hname] at hfound
        rw [apply_of_fault version dryRun hfound]
        exact hread
    · rw [apply_of_fault version dryRun hfound]
      exact hread
  | ok fetched =>
    rcases hcases with ⟨fault, hfault, -⟩ | ⟨get, hget, hnone, hruns, hoffers⟩
    · cases hfault
    · obtain ⟨found, noted, hrun⟩ := apply_of_found version dryRun hfound
      rw [hrun]
      cases hassess : proxy.assess after.host version fetched with
      | error fault => exact ⟨[get], hruns, .read hget hnone⟩
      | ok assessment =>
        cases assessment with
        | none => exact ⟨[get], hruns, .read hget hnone⟩
        | some updated =>
          cases dryRun with
          | true => exact ⟨[get], hruns, .read hget hnone⟩
          | false =>
            have hsending : ∃ calls, session.cluster.Runs
                (((Kubectl.cluster access).replace updated).runOn
                  (after.noting found)).2.cluster calls ∧
                UpdateRuns proxy version false session.cluster calls := by
              rcases replace_cases access updated (after.noting found) with
                hnothing | ⟨sent, hsent, hbody, hsending⟩
              · exact ⟨[get], hruns.trans hnothing, .read hget hnone⟩
              · exact ⟨[get, sent], hruns.trans hsending,
                  .sent hget hnone hsent rfl (hoffers fetched rfl) hassess hbody⟩
            unfold carriesOut
            dsimp only
            rw [if_neg (by decide)]
            cases hindrance after.host version (.ok fetched) with
            | some fault => exact ⟨[get], hruns, .read hget hnone⟩
            | none =>
              revert hsending
              dsimp only
              rcases ((Kubectl.cluster access).replace updated).runOn (after.noting found) with
                ⟨outcome, last⟩
              cases outcome with
              | error fault => exact id
              | ok answer => exact id

/-- Whatever an update sends is a renewal of the DaemonSet that it has read: the reply to its own
reading holds the fetched document, and the file that it sends holds the renewed one. -/
theorem apply_sends_renewal (proxy : KubeProxy) (access : Access) (version : String)
    (session : Session Transcript) :
    ∃ calls, session.cluster.Runs
        ((proxy.apply (Kubectl.cluster access) version false).runOn session).2.cluster calls ∧
      ∀ replace ∈ calls, replace.verb? = some "replace" →
        ∃ get output errors fetched body sent label repository tag allowed,
          calls = [get, replace] ∧ get.verb? = some "get" ∧
          session.cluster.nextResult none = .ok ⟨0, output, errors⟩ ∧
          Json.parse output = .ok fetched ∧ (∃ fields, fetched = .obj fields) ∧
          replace.body = some body ∧ Json.parse body = .ok sent ∧
          Renewal proxy version label repository tag allowed fetched sent := by
  obtain ⟨calls, hruns, hupdate⟩ := apply_runs proxy access version false session
  refine ⟨calls, hruns, fun call hcall hverb ↦ ?_⟩
  cases hupdate with
  | none => cases hcall
  | read hget =>
    rw [List.mem_singleton.mp hcall, hget] at hverb
    exact absurd (Option.some.inj hverb) (by decide)
  | @sent get replace host fetched updated hget hnone hreplace hdry hoffers hassess hbody =>
    have hsame : call = replace := by
      rcases List.mem_cons.mp hcall with rfl | hlast
      · rw [hget] at hverb
        exact absurd (Option.some.inj hverb) (by decide)
      · exact List.mem_singleton.mp hlast
    subst hsame
    obtain ⟨output, errors, hreply, hparse, hobject⟩ := hoffers
    obtain ⟨label, repository, tag, allowed, hrenewal⟩ := renewal_of_assess hassess
    have hsent : Json.parse updated.line = .ok updated :=
      parse_line (hrenewal.readable (readable_of_parse hparse))
    exact ⟨get, output, errors, fetched, updated.line, updated, label, repository, tag, allowed,
      rfl, hget, hreply, hparse, hobject, hbody, hsent, hrenewal⟩

/-- An image that is behind is sent with the tag for the version, and with nothing else changed. -/
theorem apply_sends_newer_tag :
    let daemonSet := fun image : String ↦
      Json.obj [("metadata", .obj [("resourceVersion", .str "7")]), ("spec", .obj
        [("template", .obj [("spec", .obj [("containers", .arr [.obj [("image", .str image)]])])])])]
    let proxy := KubeProxy.ofSettings []
    let session : Session Transcript :=
      { cluster := { replies := [.finished 0 (.text (daemonSet "registry:v1.17").line) ""] } }
    ∃ calls, session.cluster.Runs
        ((proxy.apply (Kubectl.cluster {}) "1.20" false).runOn session).2.cluster calls ∧
      calls.map Call.body = [none, some (daemonSet "registry:v1.20-eksbuild.1").line] ∧
      ∃ replace ∈ calls, replace.verb? = some "replace" ∧
        ∃ get output errors fetched body sent label repository tag allowed,
          calls = [get, replace] ∧ get.verb? = some "get" ∧
          session.cluster.nextResult none = .ok ⟨0, output, errors⟩ ∧
          Json.parse output = .ok fetched ∧ (∃ fields, fetched = .obj fields) ∧
          replace.body = some body ∧ Json.parse body = .ok sent ∧
          Renewal proxy "1.20" label repository tag allowed fetched sent := by
  intro daemonSet proxy session
  obtain ⟨calls, hruns, hsends⟩ := apply_sends_renewal proxy {} "1.20" session
  have hcalls : calls =
      ((proxy.apply (Kubectl.cluster {}) "1.20" false).runOn session).2.cluster.calls :=
    hruns.calls_eq.symm
  have hmade : calls.map (fun call ↦ (call.verb?, call.body)) = [(some "get", none),
      (some "replace", some (daemonSet "registry:v1.20-eksbuild.1").line)] := by
    rw [hcalls]
    decide +kernel
  obtain ⟨get, others, hget, hread, hothers⟩ := List.map_eq_cons_iff.mp hmade
  obtain ⟨replace, hreplace, hsent⟩ := List.map_eq_singleton_iff.mp hothers
  obtain ⟨hverb, hbody⟩ := Prod.mk.inj hsent
  have hmem : replace ∈ calls := by
    rw [hget, hreplace]
    exact List.mem_cons_of_mem _ List.mem_cons_self
  refine ⟨calls, hruns, ?_, replace, hmem, hverb, hsends replace hmem hverb⟩
  rw [hget, hreplace, List.map_cons, List.map_singleton, hbody, (Prod.mk.inj hread).2]

end KubeProxy

end AddonUpkeep
