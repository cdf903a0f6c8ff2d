import ModelCatalog.Proofs.Store.Document

namespace ModelCatalog.Store
open Ordered Json Decimal

-- Documents and contents, both ways. Well-formed contents whose reals read back are what their document
-- decodes to, if it nests within the reader's limit. Whatever bytes decode, the contents are well-formed and
-- their document does nest within the limit, so writing them and reading them again changes nothing.
theorem document_round_trip :
    (∀ text : String, decodeBytes text.toUTF8 = decode text) ∧
    (∀ s : Contents, s.WellFormed → (toTree s).Exact → (toTree s).depth ≤ 127 →
      decodeBytes (encode s).toUTF8 = .ok s) ∧
    ∀ (bytes : ByteArray) (s : Contents), decodeBytes bytes = .ok s →
      s.WellFormed ∧ (toTree s).depth ≤ 127 ∧
        ((toTree s).Exact → decodeBytes (encode s).toUTF8 = .ok s ∧
          (decodeBytes (encode s).toUTF8).map encode = .ok (encode s)) := by
  have written : ∀ s : Contents, s.WellFormed → (toTree s).Exact → (toTree s).depth ≤ 127 →
      decodeBytes (encode s).toUTF8 = .ok s := by
    intro s formed exact shallow
    rw [decodeBytes_toUTF8,decode_encode formed exact,if_pos shallow]
  refine ⟨decodeBytes_toUTF8,written,?_⟩
  intro bytes s decoded
  obtain ⟨formed,shallow⟩ := decode_sound decoded
  refine ⟨formed,shallow,fun exact => ?_⟩
  have again := written s formed exact shallow
  exact ⟨again,by rw [again]; rfl⟩

-- A model with a parameter that is no integer and free data out of order, and a connection whose successor
-- is the next id, though a lower one is listed. The version stands last.
def listing : String :=
  let model := "\x7b\"id\":\"a\",\"user_id\":\"o\",\"name\":\"A\",\"params\":\x7b\"temperature\":0.5\x7d," ++
    "\"meta\":\x7b\"extra\":\x7b\"z\":[null],\"b\":true\x7d\x7d,\"created_at\":1,\"updated_at\":2\x7d"
  let connection := "\x7b\"id\":6,\"name\":\"c\",\"type\":\"ollama\",\"base_url\":\"u\"," ++
    "\"created_at\":1,\"updated_at\":2\x7d"
  "\x7b\"next_connection_id\":2,\"models\":[" ++ model ++ "],\"connections\":[" ++ connection ++ "],\"version\":1\x7d"

def listedModel : ModelRecord where
  id := "a"
  owner := "o"
  baseModelId := none
  name := "A"
  params := { temperature := some ⟨false,0x3FE0000000000000,by decide⟩ }
  info := { extra := .ofList [("b",.ofTree (.bool true)),("z",.ofTree (.array [.null]))] }
  access := none
  isActive := true
  createdAt := ⟨1,by decide⟩
  updatedAt := ⟨2,by decide⟩

def listedConnection : Connection where
  id := ⟨6,by decide⟩
  name := "c"
  kind := .ollama
  baseUrl := "u"
  apiKey := ""
  enabled := true
  label := none
  qualifier := none
  tags := []
  modelIds := []
  headers := ∅
  authType := .bearer
  apiVersion := none
  azure := false
  extra := ∅
  createdAt := ⟨1,by decide⟩
  updatedAt := ⟨2,by decide⟩

def listedContents : Contents where
  models := .ofList [("a",listedModel)]
  connections := .ofList [(⟨6,by decide⟩,listedConnection)]
  nextId := ⟨7,by decide⟩

theorem decode_listing : decode listing = .ok listedContents := by
  have decoded : (decode listing).toOption = some listedContents := by decide +kernel
  exact ok_of_toOption decoded

theorem listedContents_exact : (toTree listedContents).Exact := by decide +kernel

-- The version stands last and the listed counter is too low; the reals read back, and so the contents are what their
-- own document decodes to.
theorem listing_round_trip :
    decodeBytes listing.toUTF8 = .ok listedContents ∧ (toTree listedContents).Exact ∧
      listedContents.WellFormed ∧ (toTree listedContents).depth ≤ 127 ∧
      decodeBytes (encode listedContents).toUTF8 = .ok listedContents ∧
      (decodeBytes (encode listedContents).toUTF8).map encode = .ok (encode listedContents) := by
  have decoded : decodeBytes listing.toUTF8 = .ok listedContents := by
    rw [decodeBytes_toUTF8,decode_listing]
  obtain ⟨formed,shallow,again⟩ := document_round_trip.2.2 listing.toUTF8 listedContents decoded
  exact ⟨decoded,listedContents_exact,formed,shallow,again listedContents_exact⟩

end ModelCatalog.Store
