import AddonUpkeep.Addon.KubeProxy
import AddonUpkeep.Text.Blank

/-!
# The catalog of addons

The addons that can be named, the other names they go by, and their settings.  Case and blanks
around a name do not count.
-/

namespace AddonUpkeep

open AddonUpkeep.Text

/-- The addons of the catalog. -/
inductive AddonKind where
  | kubeProxy
  deriving DecidableEq, Repr

namespace AddonKind

/-- The name of an addon. -/
def name : AddonKind → String
  | kubeProxy => "kube-proxy"

/-- The addon of a name. -/
def ofName? (name : String) : Option AddonKind :=
  match name with
  | "kube-proxy" => some kubeProxy
  | _ => none

@[simp]
theorem ofName?_name (kind : AddonKind) : ofName? kind.name = some kind := by
  cases kind; rfl

end AddonKind

namespace Catalog

/-- The other names of addons. -/
def aliases : Table String String := [("kubeproxy", "kube-proxy"), ("proxy", "kube-proxy")]

/-- A name without the blanks around it and in lower case. -/
def plainName (name : String) : String := trim (lower name)

/-- The name that a name stands for. -/
def canonicalName (name : String) : String :=
  (aliases.get? (plainName name)).getD (plainName name)

/-- All names of addons, sorted. -/
def available : List String := ["kube-proxy", "kubeproxy", "proxy"]

/-- The addon that a name stands for. -/
def identify (name : String) : Except Fault AddonKind :=
  match AddonKind.ofName? (canonicalName name) with
  | some kind => .ok kind
  | none => .error (.unknownAddon name (join ", " available))

/-- Settings by canonical names; of several settings for one addon the last count. -/
def ofSettings (given : Table String (Option Settings)) : Table String (Option Settings) :=
  Table.putAll [] (given.map fun entry ↦ (canonicalName entry.1, entry.2))

/-- The settings of an addon. -/
def settingsOf (settings : Table String (Option Settings)) (kind : AddonKind) : Settings :=
  ((settings.get? kind.name).join).getD []

/-- The kube-proxy addon with its settings. -/
def kubeProxy (settings : Table String (Option Settings)) : KubeProxy :=
  .ofSettings (settingsOf settings .kubeProxy)

/-- An addon with its settings on a cluster. -/
def addon {σ : Type} (settings : Table String (Option Settings)) (cluster : Cluster σ) :
    AddonKind → Addon σ
  | .kubeProxy => (kubeProxy settings).addon cluster

end Catalog

end AddonUpkeep
