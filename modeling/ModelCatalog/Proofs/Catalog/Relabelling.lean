import ModelCatalog.Proofs.Catalog.Listing

namespace ModelCatalog

-- A connection with other labels: those that it puts on its models.
def Connection.relabel (c : Connection) (qualifier : Option String) (tags : List String) (label : Option String) :
    Connection :=
  { c with qualifier := qualifier,tags := tags,label := label }

def front : Option String → String
  | some q => if q = "" then "" else q ++ "."
  | none => ""

namespace Connection
variable {c : Connection}

theorem qualified_front (c : Connection) (id : String) : c.qualified id = front c.qualifier ++ id := by
  unfold qualified front
  cases c.qualifier with
  | none => exact String.empty_append.symm
  | some q =>
    by_cases empty : q = ""
    · simp only [empty,if_true,String.empty_append]
    · simp only [empty,if_false]

theorem labelText_some (c : Connection) : c.labelText ≠ "" := by
  unfold labelText
  cases given : c.label.filter (· ≠ "") with
  | none =>
    cases c.kind with
    | openAI => decide
    | ollama => decide
  | some label =>
    obtain ⟨-,some⟩ := Option.filter_eq_some_iff.mp given
    exact of_decide_eq_true some

end Connection

namespace Listing
open Json
variable {kind : ProviderKind} {c : Connection} {index : Nat} {payload raw : Value} {e : CatalogEntry}

def shown (kind : ProviderKind) (c : Connection) (raw : Value) : Bool :=
  (reported kind raw).any fun id => !decide (LeftOut kind c id)

theorem listed?_raw (kind : ProviderKind) (c : Connection) (index : Nat) (raw : Value) :
    (listed? kind c index raw).map CatalogEntry.raw = Option.guard (shown kind c) raw := by
  unfold listed? Option.guard
  cases own : reported kind raw with
  | none => simp [shown,own]
  | some id =>
    by_cases out : LeftOut kind c id
    · simp [shown,own,out]
    · simp [shown,own,out,entry]

theorem listed?_id (kind : ProviderKind) (c : Connection) (index : Nat) (raw : Value) :
    (listed? kind c index raw).map CatalogEntry.id =
      (((listed? kind c index raw).map CatalogEntry.raw).bind (reported kind)).map (front c.qualifier ++ ·) := by
  unfold listed?
  cases own : reported kind raw with
  | none => rfl
  | some id =>
    by_cases out : LeftOut kind c id
    · simp [out]
    · simp [out,entry,own,Connection.qualified_front]

theorem raws_eq (kind : ProviderKind) (c : Connection) (index : Nat) (payload : Value) :
    (normalize kind c index payload).map CatalogEntry.raw = (offered kind c payload).filter (shown kind c) := by
  rw [normalize_eq,List.map_filterMap,← List.filterMap_eq_filter]
  exact List.filterMap_congr fun raw _ => listed?_raw kind c index raw

theorem ids_eq (kind : ProviderKind) (c : Connection) (index : Nat) (payload : Value) :
    (normalize kind c index payload).map CatalogEntry.id =
      (((normalize kind c index payload).map CatalogEntry.raw).filterMap (reported kind)).map (front c.qualifier ++ ·) := by
  rw [List.map_filterMap,normalize_eq,List.map_filterMap,List.map_filterMap,List.filterMap_filterMap]
  refine List.filterMap_congr fun raw _ => (listed?_id kind c index raw).trans ?_
  rw [Option.map_bind]
  rfl

theorem raws_relabelled (kind : ProviderKind) (c : Connection) (index : Nat) (payload : Value) (qualifier : Option String)
    (tags : List String) (label : Option String) (index' : Nat) :
    (normalize kind (c.relabel qualifier tags label) index' payload).map CatalogEntry.raw =
      (normalize kind c index payload).map CatalogEntry.raw := by
  rw [raws_eq,raws_eq]
  cases kind with
  | openAI => rfl
  | ollama => rfl

-- A listing keeps the provider's items in their order, or those that stand for the allowed models where an OpenAI
-- provider lists none, and marks each with its position and the connection's tags and label. Other labels and another
-- position show the same items: no item comes or goes for them, and a qualifier stands in front of the same ids.
theorem listing_only_relabels (kind : ProviderKind) (c : Connection) (index : Nat) (payload : Value) :
    ((normalize kind c index payload).map CatalogEntry.raw).Sublist
      (if kind = .openAI ∧ items kind payload = [] ∧ c.modelIds ≠ [] then c.modelIds.map synthesized
        else items kind payload) ∧
    (∀ e ∈ normalize kind c index payload,
      e.origin = .single index ∧ e.tags = c.tags ∧ e.label = c.labelText ∧ e.label ≠ "" ∧
        (reported kind e.raw).map (front c.qualifier ++ ·) = some e.id) ∧
    ∀ qualifier tags label index',
      (normalize kind (c.relabel qualifier tags label) index' payload).length = (normalize kind c index payload).length ∧
      (normalize kind (c.relabel qualifier tags label) index' payload).map CatalogEntry.raw =
        (normalize kind c index payload).map CatalogEntry.raw ∧
      (normalize kind (c.relabel qualifier tags label) index' payload).map CatalogEntry.id =
        ((normalize kind (c.relabel none c.tags c.label) index payload).map CatalogEntry.id).map (front qualifier ++ ·) := by
  refine ⟨?_,?_,?_⟩
  · have offers : offered kind c payload =
        if kind = .openAI ∧ items kind payload = [] ∧ c.modelIds ≠ [] then c.modelIds.map synthesized
          else items kind payload := by
      split
      · next none =>
        obtain ⟨rfl,empty,allowed⟩ := none
        exact offered_synthesized empty allowed
      · next listed =>
        refine offered_items ?_
        rintro rfl empty
        exact Decidable.of_not_not fun allowed => listed ⟨rfl,empty,allowed⟩
    rw [← offers,raws_eq]
    exact List.filter_sublist
  · intro e member
    obtain ⟨raw,-,id,own,-,rfl⟩ := mem_normalize.mp member
    refine ⟨rfl,rfl,rfl,c.labelText_some,?_⟩
    rw [show (entry c kind index id (shownName kind c raw id) raw).raw = raw from rfl,own,Option.map_some,
      ← Connection.qualified_front]
    rfl
  · intro qualifier tags label index'
    have raws := raws_relabelled kind c index payload qualifier tags label index'
    refine ⟨?_,raws,?_⟩
    · simpa only [List.length_map] using congrArg List.length raws
    · rw [ids_eq,ids_eq,raws,raws_relabelled kind c index]
      simp [front,Connection.relabel]

def nameless : Value := .ofTree (.object [("data",.array [.object [("id",.text "b")],.object [("name",.text "x")],
  .object [("id",.text "a"),("name",.text "A")]])])

-- Of three items the one without an id is not shown, and the two others keep their order under another qualifier.
theorem qualified_listing_in_order : (∃ e ∈ normalize .openAI oneAllowed 4 nameless, e.origin = .single 4 ∧ e.label ≠ "") ∧
    (normalize .openAI (oneAllowed.relabel (some "work") ["gpu"] (some "local")) 7 nameless).map CatalogEntry.id =
      ["work.b","work.a"] ∧
    (normalize .openAI (oneAllowed.relabel (some "work") ["gpu"] (some "local")) 7 nameless).map CatalogEntry.raw =
      (normalize .openAI oneAllowed 4 nameless).map CatalogEntry.raw := by
  obtain ⟨-,marked,alike⟩ := listing_only_relabels .openAI oneAllowed 4 nameless
  obtain ⟨-,raws,ids⟩ := alike (some "work") ["gpu"] (some "local") 7
  refine ⟨?_,?_,raws⟩
  · have some : normalize .openAI oneAllowed 4 nameless ≠ [] := by decide +kernel
    obtain ⟨e,member⟩ := List.exists_mem_of_ne_nil _ some
    obtain ⟨origin,-,-,label,-⟩ := marked e member
    exact ⟨e,member,origin,label⟩
  · have bare : (normalize .openAI (oneAllowed.relabel none oneAllowed.tags oneAllowed.label) 4 nameless).map
        CatalogEntry.id = ["b","a"] := by decide +kernel
    rw [ids,bare]
    decide

end Listing
end ModelCatalog
