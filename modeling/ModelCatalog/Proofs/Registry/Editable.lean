import ModelCatalog.Proofs.Registry.Gate
import ModelCatalog.Proofs.Registry.Paging

namespace ModelCatalog

namespace Registry
open Ordered Store Action

end Registry
end ModelCatalog
