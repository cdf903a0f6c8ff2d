import ModelCatalog.Catalog.Listing
import ModelCatalog.Proofs.Json.Nesting
import ModelCatalog.Proofs.Ordered.Keyed
import Mathlib.Data.List.Basic

namespace ModelCatalog
open Ordered

namespace Json.Value

theorem member?_ofTree {members : List (String × Tree)} (distinct : (members.map (·.1)).Nodup) (name : String) :
    (Value.ofTree (.object members)).member? name = (Entries.find? name members).map Value.ofTree := by
  let v := Value.ofTree (.object members)
  obtain ⟨held,found,entries⟩ := Option.map_eq_some_iff.mp (members?_tree (v := v) rfl)
  have keys : ((Tree.normalizeMembers members).map (·.1)).Nodup := by
    rw [Tree.normalizeMembers_eq,List.map_map]
    exact distinct
  have trees : (held.get? name).map Value.tree = (Entries.find? name members).map Tree.normalize := by
    rw [← Keyed.get?_map,Keyed.get?,entries]
    change (Keyed.ofList (Tree.normalizeMembers members)).get? name = _
    rw [Keyed.get?_ofList_distinct keys,Tree.normalizeMembers_eq,Entries.find?_map]
  change v.members?.bind (·.get? name) = _
  rw [found,Option.bind_some]
  refine Option.map_injective (fun _ _ => Value.ext) (trees.trans ?_)
  rw [Option.map_map]
  rfl

theorem items?_ofTree (items : List Tree) : (Value.ofTree (.array items)).items? = some (items.map Value.ofTree) := by
  have trees : ∀ {v : Value} {items : List Tree}, v.tree = .array items →
      v.items?.map (fun vs => vs.map Value.tree) = some items := by
    rintro ⟨tree,canonical⟩ items array
    cases array
    simp [items?]
  obtain ⟨held,found,same⟩ := Option.map_eq_some_iff.mp (trees (v := Value.ofTree (.array items)) rfl)
  rw [found,Option.some_inj]
  refine List.map_injective_iff.mpr (fun _ _ => Value.ext) (same.trans ?_)
  rw [Tree.normalizeItems_eq,List.map_map]
  rfl

end Json.Value

theorem Connection.qualified_injective {c : Connection} {id id' : String} (same : c.qualified id = c.qualified id') :
    id = id' := by
  unfold qualified at same
  split at same
  · split at same
    · exact same
    · exact (String.append_right_inj _).mp same
  · exact same

namespace Listing
open Json

def items (kind : ProviderKind) (payload : Value) : List Value :=
  match kind with
  | .openAI => openAIItems payload
  | .ollama => ((payload.member? "models").bind Value.items?).getD []

-- The items that entries are made of. They are the provider's own, but where an OpenAI provider lists none those that
-- stand for the allowed models.
def offered (kind : ProviderKind) (c : Connection) (payload : Value) : List Value :=
  match kind with
  | .openAI =>
    if (items .openAI payload).isEmpty ∧ c.modelIds ≠ [] then c.modelIds.map synthesized else items .openAI payload
  | .ollama => items .ollama payload

def reported (kind : ProviderKind) (raw : Value) : Option String :=
  match kind with
  | .openAI => (raw.member? "id").bind Value.text?
  | .ollama => ((raw.member? "model").or (raw.member? "name")).bind Value.text?

-- What a kind leaves out for its id. Only one of them asks for the allowed models.
def LeftOut (kind : ProviderKind) (c : Connection) (id : String) : Prop :=
  match kind with
  | .openAI => isPublic c ∧ isNonChat id
  | .ollama => c.modelIds ≠ [] ∧ id ∉ c.modelIds

instance : (kind : ProviderKind) → (c : Connection) → (id : String) → Decidable (LeftOut kind c id)
  | .openAI,c,id => inferInstanceAs (Decidable (isPublic c = true ∧ isNonChat id = true))
  | .ollama,c,id => inferInstanceAs (Decidable (c.modelIds ≠ [] ∧ id ∉ c.modelIds))

def shownName (kind : ProviderKind) (c : Connection) (raw : Value) (id : String) : String :=
  match kind with
  | .openAI => (((raw.member? "name").bind Value.text?).filter (· ≠ "")).getD id
  | .ollama => c.qualified id

def listed? (kind : ProviderKind) (c : Connection) (index : Nat) (raw : Value) : Option CatalogEntry :=
  (reported kind raw).bind fun id =>
    if LeftOut kind c id then none else some (entry c kind index id (shownName kind c raw id) raw)

theorem normalize_eq (kind : ProviderKind) (c : Connection) (index : Nat) (payload : Value) :
    normalize kind c index payload = (offered kind c payload).filterMap (listed? kind c index) := by
  cases kind with
  | openAI => rfl
  | ollama => rfl

section
variable {kind : ProviderKind} {c : Connection} {index : Nat} {payload raw : Value} {id : String} {e : CatalogEntry}

theorem mem_normalize : e ∈ normalize kind c index payload ↔ ∃ raw ∈ offered kind c payload, ∃ id,
    reported kind raw = some id ∧ ¬ LeftOut kind c id ∧ e = entry c kind index id (shownName kind c raw id) raw := by
  rw [normalize_eq,List.mem_filterMap]
  refine exists_congr fun raw => and_congr_right fun _ => ?_
  rw [listed?,Option.bind_eq_some_iff]
  refine exists_congr fun id => and_congr_right fun _ => ?_
  constructor
  · intro shown
    split at shown
    · cases shown
    · next kept =>
      cases shown
      exact ⟨kept,rfl⟩
  · rintro ⟨kept,rfl⟩
    exact if_neg kept

theorem reported_synthesized (id : String) : reported .openAI (synthesized id) = some id := by
  have distinct : (([("id",.text id),("name",.text id)] : List (String × Tree)).map (·.1)).Nodup := by simp
  rw [reported,synthesized,Value.member?_ofTree distinct]
  rfl

theorem offered_synthesized (none : items .openAI payload = []) (allowed : c.modelIds ≠ []) :
    offered .openAI c payload = c.modelIds.map synthesized := by
  rw [offered,none]
  exact if_pos ⟨rfl,allowed⟩

theorem offered_items (listed : kind = .openAI → items .openAI payload = [] → c.modelIds = []) :
    offered kind c payload = items kind payload := by
  cases kind with
  | ollama => rfl
  | openAI =>
    refine if_neg fun both => both.2 (listed rfl ?_)
    exact List.isEmpty_iff.mp both.1

theorem openAI_unrestricted (listed : items .openAI payload ≠ []) (ids : List String) :
    normalize .openAI { c with modelIds := ids } index payload = normalize .openAI c index payload := by
  have own (d : Connection) : offered .openAI d payload = items .openAI payload :=
    offered_items fun _ none => (listed none).elim
  rw [normalize_eq,normalize_eq,own,own]
  rfl

theorem listed_unless (offers : raw ∈ offered kind c payload) (named : reported kind raw = some id) :
    (∃ e ∈ normalize kind c index payload, e.raw = raw ∧ e.id = c.qualified id) ∨ LeftOut kind c id := by
  by_cases out : LeftOut kind c id
  · exact .inr out
  · exact .inl ⟨_,mem_normalize.mpr ⟨raw,offers,id,named,out,rfl⟩,rfl,rfl⟩

theorem ollama_restricted (allowed : c.modelIds ≠ []) (member : e ∈ normalize .ollama c index payload) :
    ∃ id ∈ c.modelIds, e.id = c.qualified id := by
  obtain ⟨raw,-,id,-,kept,rfl⟩ := mem_normalize.mp member
  exact ⟨id,Decidable.of_not_not fun missing => kept ⟨allowed,missing⟩,rfl⟩

theorem synthesized_restricted (none : items .openAI payload = []) (allowed : c.modelIds ≠ [])
    (member : e ∈ normalize .openAI c index payload) : ∃ id ∈ c.modelIds, e.id = c.qualified id := by
  obtain ⟨raw,offers,id,named,-,rfl⟩ := mem_normalize.mp member
  rw [offered_synthesized none allowed] at offers
  obtain ⟨own,there,rfl⟩ := List.mem_map.mp offers
  have same : own = id := Option.some.inj ((reported_synthesized own).symm.trans named)
  exact ⟨own,there,by rw [same]; rfl⟩

end

-- How far the allowed models of a connection restrict what it lists. An Ollama connection lists allowed models only,
-- and so does an OpenAI one whose provider lists nothing. Where an OpenAI provider lists something, the allowed models
-- are not asked for: the listing is the same whatever they are, and each item with an id is in it unless it is left
-- out as a model that cannot chat. Where none are allowed no item of either kind is left out for that.
theorem allowed_models_bound_listings (c : Connection) (index : Nat) (payload : Value) :
    (c.modelIds ≠ [] → ∀ e ∈ normalize .ollama c index payload, ∃ id ∈ c.modelIds, e.id = c.qualified id) ∧
    (c.modelIds ≠ [] → items .openAI payload = [] →
      ∀ e ∈ normalize .openAI c index payload, ∃ id ∈ c.modelIds, e.id = c.qualified id) ∧
    (items .openAI payload ≠ [] → ∀ ids,
      normalize .openAI { c with modelIds := ids } index payload = normalize .openAI c index payload) ∧
    (∀ kind, c.modelIds = [] ∨ kind = .openAI → ∀ raw ∈ items kind payload, ∀ id, reported kind raw = some id →
      (∃ e ∈ normalize kind c index payload, e.raw = raw ∧ e.id = c.qualified id) ∨
        kind = .openAI ∧ isPublic c ∧ isNonChat id) ∧
    ∀ id id', c.qualified id = c.qualified id' → id = id' := by
  refine ⟨fun allowed e member => ollama_restricted allowed member,
    fun allowed none e member => synthesized_restricted none allowed member,
    fun listed ids => openAI_unrestricted listed ids,?_,fun id id' => Connection.qualified_injective⟩
  intro kind free raw listed id named
  have offers : raw ∈ offered kind c payload := by
    rw [offered_items]
    · exact listed
    · rintro rfl none
      rw [none] at listed
      exact (List.not_mem_nil listed).elim
  rcases listed_unless offers named with shown | out
  · exact .inl shown
  · cases kind with
    | openAI => exact .inr ⟨rfl,out⟩
    | ollama => exact (out.1 (free.resolve_right (by decide))).elim

def oneAllowed : Connection where
  id := .first
  name := "c"
  kind := .openAI
  baseUrl := "http://h"
  apiKey := ""
  enabled := true
  label := none
  qualifier := some "p"
  tags := []
  modelIds := ["a"]
  headers := ∅
  authType := .bearer
  apiVersion := none
  azure := false
  extra := ∅
  createdAt := ⟨31,by decide⟩
  updatedAt := ⟨32,by decide⟩

def besides : Value := .ofTree (.object [("id",.text "b")])

def twoListed : Value := .ofTree (.object [("data",.array [.object [("id",.text "a")],.object [("id",.text "b")]])])

theorem unlisted_model_surfaces : besides ∈ items .openAI twoListed ∧ reported .openAI besides = some "b" ∧
    ∃ e ∈ normalize .openAI oneAllowed 0 twoListed, e.id = oneAllowed.qualified "b" ∧
      ∀ id ∈ oneAllowed.modelIds, e.id ≠ oneAllowed.qualified id := by
  have listed : besides ∈ items .openAI twoListed := by decide +kernel
  have named : reported .openAI besides = some "b" := by decide +kernel
  obtain ⟨-,-,-,surfaces,unique⟩ := allowed_models_bound_listings oneAllowed 0 twoListed
  rcases surfaces .openAI (.inr rfl) besides listed "b" named with ⟨e,shown,-,own⟩ | ⟨-,-,silent⟩
  · refine ⟨listed,named,e,shown,own,fun id member same => ?_⟩
    cases List.mem_singleton.mp member
    exact absurd (unique "b" "a" (own.symm.trans same)) (by decide)
  · exact absurd silent (by decide +kernel)

end Listing
end ModelCatalog
