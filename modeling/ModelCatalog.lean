import ModelCatalog.Main
import ModelCatalog.Proofs.Registry.Durability
import ModelCatalog.Proofs.Registry.History
import ModelCatalog.Proofs.Store.Freshness
import ModelCatalog.Proofs.Catalog.Qualifier
import ModelCatalog.Proofs.Catalog.Keyless
import ModelCatalog.Proofs.Command.Gate
import ModelCatalog.Proofs.Command.Untouched
import ModelCatalog.Proofs.Registry.Confidentiality
import ModelCatalog.Proofs.Registry.Backup
import ModelCatalog.Proofs.Json.Edited
import ModelCatalog.Proofs.Settings.Braced
import ModelCatalog.Proofs.Store.Rekeyed
import ModelCatalog.Proofs.Files.Shape
import ModelCatalog.Proofs.Store.Coupled
import ModelCatalog.Proofs.Catalog.Coupled
import ModelCatalog.Proofs.Command.Secrecy
import ModelCatalog.Proofs.Registry.Replacement
import ModelCatalog.Proofs.Registry.Interrupted
import ModelCatalog.Proofs.Store.Phase
import ModelCatalog.Proofs.Registry.Race
import ModelCatalog.Proofs.Registry.Idempotence
import ModelCatalog.Proofs.Registry.Complete
import ModelCatalog.Proofs.Store.Interleaving
import ModelCatalog.Proofs.Catalog.Grouping
import ModelCatalog.Proofs.Catalog.Stages
import ModelCatalog.Proofs.Model.Order
import ModelCatalog.Proofs.Model.Pages
import ModelCatalog.Proofs.Registry.Paging
import ModelCatalog.Proofs.Registry.Gate
import ModelCatalog.Proofs.Registry.Editable
import ModelCatalog.Proofs.Text.Occurrence
import ModelCatalog.Proofs.Text.LowerCase
import ModelCatalog.Proofs.Model.Search
import ModelCatalog.Proofs.Text.Canonical
import ModelCatalog.Proofs.Web.Host
import ModelCatalog.Proofs.Web.Written
import ModelCatalog.Proofs.Catalog.Exclusion
import ModelCatalog.Proofs.Catalog.Relabelling
import ModelCatalog.Proofs.Web.Percent
import ModelCatalog.Proofs.Web.Path
import ModelCatalog.Proofs.Web.Beneath
import ModelCatalog.Proofs.Web.Parameters
import ModelCatalog.Proofs.Provider.Endpoint
import ModelCatalog.Proofs.Provider.Authorization
import ModelCatalog.Proofs.Store.Version
import ModelCatalog.Proofs.Provider.Patch
import ModelCatalog.Proofs.Registry.Revision
import ModelCatalog.Proofs.Catalog.Wire
