import ModelCatalog.Error
import ModelCatalog.Model.Record

namespace ModelCatalog
open Ordered Json

-- Over a stored model only the keys that an item carries count.
structure ModelImport where
  members : Extensions
deriving DecidableEq

namespace ModelImport

def id (item : ModelImport) : String := ((item.members.get? "id").bind Value.text?).getD ""

def ofForm (form : ModelForm) : ModelImport :=
  ⟨((Value.ofTree (Codec.modelForm.write form)).members?).getD ∅⟩

def toForm (item : ModelImport) : Except Error ModelForm :=
  (Codec.modelForm.readTree item.members.toValue.tree).mapError
    (fun fault => .invalid (.importItem item.id fault))

def overlay (item : ModelImport) (stored : ModelRecord) : Except Error ModelForm :=
  let merged := (ofForm stored.toForm).members.insertAll item.members.entries
  (Codec.modelForm.readTree (Extensions.toValue merged).tree).mapError
    (fun fault => .invalid (.importItem stored.id fault))

end ModelImport

namespace Json.Codec

def modelImport : Codec ModelImport where
  write item := extensions.write item.members
  read m node := (extensions.read m node).map (⟨·⟩)

end Json.Codec
end ModelCatalog
