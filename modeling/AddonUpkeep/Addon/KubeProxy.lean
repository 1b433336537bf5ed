import AddonUpkeep.Addon.Basic
import AddonUpkeep.Workload.Affinity

/-!
# The kube-proxy addon

Keeps the image tag of the kube-proxy DaemonSet in step with the control-plane version and opens its
node affinity for arm64.  A cluster without the DaemonSet has nothing to keep.  An image reference
is a repository and a tag with a single colon between them.
-/

namespace AddonUpkeep

/-- A repository and a tag. -/
structure Image where
  repository : String
  tag : String
  deriving DecidableEq, Repr

namespace Image

/-- Read an image reference; none unless it holds exactly one colon. -/
def parse? (reference : String) : Option Image :=
  match Text.pieces ':' reference.toList with
  | [repository, tag] => some ⟨String.ofList repository, String.ofList tag⟩
  | _ => none

/-- The reference of an image. -/
def reference (image : Image) : String := image.repository ++ ":" ++ image.tag

end Image

/-- The kube-proxy addon: which DaemonSet it keeps and the build of its image. -/
structure KubeProxy where
  name : Setting
  scope : Setting
  imageBuild : Setting

namespace KubeProxy

/-- The name of the addon. -/
def addonName : String := "kube-proxy"

/-- A setting, or its default when it is not given. -/
def settingOr (settings : Settings) (key : String) (default : String) : Setting :=
  (settings.get? (.str key)).getD (.str default)

/-- The addon of some settings. -/
def ofSettings (settings : Settings) : KubeProxy where
  name := settingOr settings "name" "kube-proxy"
  scope := settingOr settings "namespace" "kube-system"
  imageBuild := settingOr settings "image_build" "eksbuild.1"

/-- The image tag for a control-plane version, as far as the build has a text. -/
def tagFor (proxy : KubeProxy) (version : String) : String :=
  s!"v{version}-{proxy.imageBuild.text}"

/-- The image tag for a control-plane version. -/
def expectedTag (proxy : KubeProxy) (version : String) : Except Fault String := do
  proxy.imageBuild.checkText
  return proxy.tagFor version

/-- The first version on which nodes carry the settled architecture label. -/
def archLabelMinimum : String := "1.18"

/-- The architecture label of nodes on a version. -/
def archLabelFor (version : String) : Except VersionProblem String := do
  return if ← Version.isAtLeast archLabelMinimum version then Affinity.archLabel
    else Affinity.betaArchLabel

/-- The tag of an image reference. -/
def imageTag (reference : String) : Except Fault String :=
  match Image.parse? reference with
  | some image => .ok image.tag
  | none => .error (.imageForm reference)

/-- The containers of a workload, of which there is at least one. -/
def containers (proxy : KubeProxy) (workload : Json) : Except Fault Json := do
  let containers ← (do
    let pod ← workload.descend Affinity.podPath
    return Json.presentOr (.arr []) (← pod.lookup "containers")).mapError Fault.shape
  match containers with
  | .arr [] => do
    proxy.name.checkText
    .error (.noContainers proxy.name.text)
  | .arr _ | .obj _ | .str _ => .ok containers
  | other => .error (.shape (.hasNoSize other.kindName))

/-- The first of some containers. -/
def firstContainer : Json → Except ShapeProblem Json
  | .arr (container :: _) => .ok container
  | .str _ => .ok (.str "")
  | _ => .error .hasNoFirst

/-- The image reference of the first container, empty when there is none. -/
def imageReference (proxy : KubeProxy) (workload : Json) : Except Fault String := do
  let containers ← proxy.containers workload
  let image ← (do
    let container ← firstContainer containers
    return Json.presentOr (.str "") (← container.lookup "image")).mapError Fault.shape
  match image with
  | .str reference => .ok reference
  | other => .error (.shape (.hasNoPieces other.kindName))

/-- The image of the first container. -/
def currentImage (proxy : KubeProxy) (workload : Json) : Except Fault Image := do
  let reference ← proxy.imageReference workload
  match Image.parse? reference with
  | some image => .ok image
  | none => do
    proxy.name.checkText
    .error (.workloadImageForm reference proxy.name)

/-- Change the first item of an array. -/
def changeFirst (change : Json → Json) : Json → Except ShapeProblem Json
  | .arr (item :: items) => .ok (.arr (change item :: items))
  | other => .ok other

/-- The workload with another image in its first container. -/
def setImage (workload : Json) (image : Image) : Except ShapeProblem Json :=
  Affinity.changeAt (changeFirst (·.setField "image" (.str image.reference)))
    (Affinity.podPath ++ ["containers"]) workload

variable {σ : Type}

/-- The DaemonSet, if the cluster has it. -/
def daemonSet? (proxy : KubeProxy) (cluster : Cluster σ) : Task σ (Option Json) := do
  match ← ExceptT.lift (cluster.fetch proxy.name proxy.scope).outcome with
  | .ok daemonSet => return some daemonSet
  | .error fault =>
    if fault.kind = .missingResource then
      Task.ofExcept proxy.name.checkText
      Addon.note addonName .warning s!"{proxy.name.literal} was not found"
      return none
    else Task.fail fault

/-- Whether the DaemonSet runs the image tag for the version.  An absent DaemonSet does. -/
def isUpToDate (proxy : KubeProxy) (cluster : Cluster σ) (version : String) : Task σ Bool := do
  match ← proxy.daemonSet? cluster with
  | none => return true
  | some daemonSet =>
    let expected ← Task.ofExcept (proxy.expectedTag version)
    let image ← Task.ofExcept (proxy.currentImage daemonSet)
    return image.tag == expected

/-- The DaemonSet as it should be: the image with the tag for the version and, unless an expression
on the architecture label allows arm64 already, arm64 behind the values of all of them. -/
def renewed (daemonSet : Json) (image : Image) (label : String) (allowed : Bool) :
    Except ShapeProblem Json := do
  let daemonSet ← setImage daemonSet image
  if allowed then return daemonSet else Affinity.withValue daemonSet label Affinity.arm64

/-- What keeps a host from making the renewed DaemonSet.  The DaemonSet is copied before its image
is set, and once more, one call deeper, before arm64 is put behind values; the new image is a text
in the place of a text, which does not change what a copy takes. -/
def copyFault? (host : Host) (daemonSet : Json) (allowed : Bool) : Option Fault :=
  host.copyFault? (if allowed then 0 else 1) daemonSet

/-- Bring the DaemonSet to match the version. -/
def apply (proxy : KubeProxy) (cluster : Cluster σ) (version : String) (dryRun : Bool) :
    Task σ Outcome := do
  match ← proxy.daemonSet? cluster with
  | none => return .noChangeNeeded
  | some daemonSet =>
    let label ← Task.ofExcept ((archLabelFor version).mapError Fault.version)
    let allowed ← Task.ofShape (Affinity.hasValue daemonSet label Affinity.arm64)
    if !allowed then
      Addon.note addonName .info s!"missing {Affinity.arm64} nodeSelector value"
    let _ ← Task.ofExcept (proxy.containers daemonSet)
    Task.ofExcept proxy.name.checkText
    Addon.noteDocument addonName s!"{proxy.name.text} [current]" daemonSet
    let image ← Task.ofExcept (proxy.currentImage daemonSet)
    let expected ← Task.ofExcept (proxy.expectedTag version)
    if image.tag == expected && allowed then
      Addon.note addonName .debug s!"image = {image.reference}, desired tag = {expected}"
      Addon.note addonName .info s!"{proxy.name.literal} is already up-to-date"
      return .noChangeNeeded
    else if dryRun then
      Addon.note addonName .critical s!"(plan) {proxy.name.literal} is not up-to-date"
      return .changePending
    else
      let image := { image with tag := expected }
      Task.check (copyFault? (← Task.host) daemonSet allowed)
      let updated ← Task.ofShape (renewed daemonSet image label allowed)
      Addon.noteDocument addonName s!"{proxy.name.text} [updated]" updated
      let _ ← cluster.replace updated
      Addon.note addonName .info s!"{proxy.name.literal} is now up-to-date"
      return .applied

/-- The addon on a cluster. -/
def addon (proxy : KubeProxy) (cluster : Cluster σ) : Addon σ :=
  ⟨addonName, proxy.isUpToDate cluster, proxy.apply cluster⟩

end KubeProxy

end AddonUpkeep
