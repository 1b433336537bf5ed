import AddonUpkeep.Cluster.Memory
import AddonUpkeep.Main
import AddonUpkeep.Proofs.Addon.Absence
import AddonUpkeep.Proofs.Addon.Agreement
import AddonUpkeep.Proofs.Addon.ArchLabel
import AddonUpkeep.Proofs.Addon.Convergence
import AddonUpkeep.Proofs.Addon.DryRun
import AddonUpkeep.Proofs.Addon.MemoryRun
import AddonUpkeep.Proofs.Addon.Operators
import AddonUpkeep.Proofs.Addon.Prefix
import AddonUpkeep.Proofs.Addon.Repetition
import AddonUpkeep.Proofs.Addon.Replacement
import AddonUpkeep.Proofs.Addon.Spelling
import AddonUpkeep.Proofs.Cli.Calls
import AddonUpkeep.Proofs.Cli.CanonicalNames
import AddonUpkeep.Proofs.Cli.Escaping
import AddonUpkeep.Proofs.Cli.Failures
import AddonUpkeep.Proofs.Cli.Levels
import AddonUpkeep.Proofs.Cli.Names
import AddonUpkeep.Proofs.Cli.Writing
import AddonUpkeep.Proofs.Cluster.Refusals
import AddonUpkeep.Proofs.Config.FileFaults
import AddonUpkeep.Proofs.Config.Precedence
import AddonUpkeep.Proofs.Text.Lowercase
import AddonUpkeep.Proofs.Version.Dotted
import AddonUpkeep.Proofs.Version.Normal
import AddonUpkeep.Proofs.Workload.Appending
import AddonUpkeep.Proofs.Workload.Shape
