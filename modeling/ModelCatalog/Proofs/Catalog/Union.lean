import ModelCatalog.Proofs.Catalog.Agreement
import ModelCatalog.Proofs.Catalog.Listing
import ModelCatalog.Proofs.Catalog.Merge
import ModelCatalog.Proofs.Store.Consistent
import ModelCatalog.Proofs.Store.RoundTrip
import ModelCatalog.Proofs.Store.Run

namespace ModelCatalog.Catalog
open Ordered Store Web

theorem listModels_normalizes {s : Service} {w : Surroundings} {c : Connection} {index : Nat}
    {entries : List CatalogEntry} (listed : s.listModels w c index = .ok entries) :
    ∃ payload, entries = Listing.normalize c.kind c index payload := by
  obtain ⟨⟨status,body⟩,-,read⟩ := Json.bind_ok.mp listed
  dsimp only at read
  split at read
  · cases read
  · split at read
    · next payload _ =>
      cases read
      exact ⟨payload,rfl⟩
    · cases read

theorem listModels_origin {s : Service} {w : Surroundings} {c : Connection} {index : Nat} {entries : List CatalogEntry}
    (listed : s.listModels w c index = .ok entries) : ∀ e ∈ entries, e.origin = .single index := by
  intro e member
  obtain ⟨payload,rfl⟩ := listModels_normalizes listed
  obtain ⟨raw,-,id,-,-,rfl⟩ := Listing.mem_normalize.mp member
  rfl

-- What the adapters answer where each connection has a network of its own.
def Service.listedBy (s : Service) (network : Connection → Network) : Listings := fun c index =>
  s.listModels { network := network c } c index

section
variable {s : Service} {listings : Listings} {t : Contents} {c : Connection} {i : Nat}

theorem find_position (tidy : t.Tidy) (there : t.connections.values[i]? = some c) :
    t.connections.values.zipIdx.find? (fun place => place.1.id = c.id) = some (c,i) := by
  have member : (c,i) ∈ t.connections.values.zipIdx := List.mk_mem_zipIdx_iff_getElem?.mpr there
  cases found : t.connections.values.zipIdx.find? (fun place => place.1.id = c.id) with
  | none => exact absurd (decide_eq_true rfl) (List.find?_eq_none.mp found (c,i) member)
  | some place =>
    obtain ⟨c',j⟩ := place
    have own := List.find?_some found
    simp only [decide_eq_true_eq] at own
    have other := List.mk_mem_zipIdx_iff_getElem?.mp (List.mem_of_find?_eq_some found)
    obtain ⟨within,first⟩ := List.getElem?_eq_some_iff.mp there
    obtain ⟨within',second⟩ := List.getElem?_eq_some_iff.mp other
    have ascending := List.pairwise_iff_getElem.mp (Contents.connections_ascending tidy)
    -- Two positions of one id would be out of order.
    rcases Nat.lt_trichotomy i j with less | rfl | greater
    · have order := ascending i j within within' less
      rw [first,second,own] at order
      exact absurd order (Int.lt_irrefl _)
    · cases first.symm.trans second
      rfl
    · have order := ascending j i within' within greater
      rw [first,second,own] at order
      exact absurd order (Int.lt_irrefl _)

theorem getIndexed_run (tidy : t.Tidy) (there : t.connections.values[i]? = some c) :
    (Registry.Connections.getIndexed c.id).run memory t = (.ok (i,c),t) := by
  have found := find_position tidy there
  have listed : Registry.Connections.list.run memory t = (.ok t.connections.values,t) := rfl
  rw [Registry.Connections.getIndexed,Action.run_bind listed]
  split
  · next found' =>
    cases found.symm.trans found'
    rfl
  · next none => cases found.symm.trans none

theorem connectionModels_run (tidy : t.Tidy) (there : t.connections.values[i]? = some c) {w : Surroundings}
    (steady : w.cancellation = .never) : (s.connectionModels w c.id).run memory t =
      (s.adapter c.kind >>= fun _ => s.listModels w c i,t) := by
  rw [Service.connectionModels,Action.run_bind (getIndexed_run tidy there)]
  dsimp only
  cases s.adapter c.kind with
  | error e => rfl
  | ok _ =>
    rw [unlessCancelled_never steady]
    rfl

theorem answer_adds {e : CatalogEntry} {batch : List CatalogEntry} (added : e ∈ batch) :
    s.answer listings (c,i) = .ok batch ↔
      (c.enabled = true ∨ s.config.skipDisabled = false) ∧ (s.adapter c.kind >>= fun _ => listings c i) = .ok batch := by
  unfold Service.answer Service.fetch
  by_cases skipped : (s.config.skipDisabled && !c.enabled) = true
  · have out : ¬ (c.enabled = true ∨ s.config.skipDisabled = false) := by
      simp only [Bool.and_eq_true,Bool.not_eq_true'] at skipped
      simp [skipped.1,skipped.2]
    rw [if_pos skipped]
    constructor
    · intro empty
      cases empty
      exact absurd added List.not_mem_nil
    · exact fun both => absurd both.1 out
  · have asked : c.enabled = true ∨ s.config.skipDisabled = false := by
      cases enabled : c.enabled <;> simp_all
    rw [if_neg skipped]
    exact ⟨fun listed => ⟨asked,listed⟩,fun both => both.2⟩

theorem strict_merges {catalog : List CatalogEntry} {connections : List Connection}
    (listed : s.strict listings connections = .ok catalog) :
    catalog = merge (connections.zipIdx.filterMap (s.batch? listings)) := by
  cases failures : (s.lenient listings connections).failures with
  | nil =>
    rw [strict_listed failures,lenient_eq] at listed
    cases listed
    rfl
  | cons f rest =>
    rw [strict_failed failures] at listed
    cases listed

theorem mem_batches {connections : List Connection} {e : CatalogEntry} :
    e ∈ (connections.zipIdx.filterMap (s.batch? listings)).flatten ↔
      ∃ i c batch, connections[i]? = some c ∧ s.answer listings (c,i) = .ok batch ∧ e ∈ batch := by
  rw [List.mem_flatten]
  constructor
  · rintro ⟨batch,member,added⟩
    obtain ⟨⟨c,i⟩,place,found⟩ := List.mem_filterMap.mp member
    exact ⟨i,c,batch,List.mk_mem_zipIdx_iff_getElem?.mp place,batch_some found,added⟩
  · rintro ⟨i,c,batch,there,answered,added⟩
    refine ⟨batch,List.mem_filterMap.mpr ⟨(c,i),List.mk_mem_zipIdx_iff_getElem?.mpr there,?_⟩,added⟩
    exact (batch_ok answered).1

-- The first entry of an id is the first one in the batch of the lowest position that lists it.
theorem first_batch {connections : List Connection} {m : String} {first : CatalogEntry}
    (found : (connections.zipIdx.filterMap (s.batch? listings)).flatten.find? (·.id = m) = some first) :
    ∃ i c batch, connections[i]? = some c ∧ s.answer listings (c,i) = .ok batch ∧ batch.find? (·.id = m) = some first ∧
      ∀ j c' batch', connections[j]? = some c' → s.answer listings (c',j) = .ok batch' → (∃ e ∈ batch', e.id = m) →
        i ≤ j := by
  obtain ⟨own,earlier,head,tail,later,split,before,ahead⟩ := List.find?_flatten_eq_some_iff.mp found
  obtain ⟨front,back,places,fronts,backs⟩ := List.filterMap_eq_append_iff.mp split
  obtain ⟨none,⟨c,i⟩,rest,parts,silent,listed,-⟩ := List.filterMap_eq_cons_iff.mp backs
  rw [parts] at places
  have member (place : Connection × Nat) : place ∈ connections.zipIdx ↔
      place ∈ front ∨ place ∈ none ∨ place = (c,i) ∨ place ∈ rest := by
    rw [places,List.mem_append,List.mem_append,List.mem_cons]
  have there : connections[i]? = some c := List.mk_mem_zipIdx_iff_getElem?.mp ((member _).mpr (.inr (.inr (.inl rfl))))
  refine ⟨i,c,_,there,batch_some listed,List.find?_eq_some_iff_append.mpr ⟨own,head,tail,rfl,ahead⟩,?_⟩
  rintro j c' batch' there' answered ⟨e,added,same⟩
  have batch := (batch_ok answered).1
  rcases (member (c',j)).mp (List.mk_mem_zipIdx_iff_getElem?.mpr there') with old | quiet | here | behind
  · have listed' : batch' ∈ earlier := fronts ▸ List.mem_filterMap.mpr ⟨_,old,batch⟩
    have other := before batch' listed' e added
    simp [same] at other
  · cases (silent _ quiet).symm.trans batch
  · cases here
    exact Nat.le_refl _
  · have order := places_ascending connections
    rw [places] at order
    have less := (List.pairwise_cons.mp (List.pairwise_append.mp (List.pairwise_append.mp order).2.1).2.1).1 _ behind
    exact Nat.le_of_lt less

end

section
variable {s : Service} {network : Connection → Network} {t : Contents} {c : Connection} {i : Nat} {m : String}
  {entries catalog : List CatalogEntry} {e : CatalogEntry}

theorem connectionModels_lists (tidy : t.Tidy) (there : t.connections.values[i]? = some c) :
    (s.connectionModels { network := network c } c.id).run memory t = (.ok entries,t) ↔
      (s.adapter c.kind >>= fun _ => s.listedBy network c i) = .ok entries := by
  rw [connectionModels_run tidy there rfl]
  exact ⟨fun same => (Prod.mk.inj same).1,fun same => Prod.ext same rfl⟩

theorem lists_origin (listed : (s.adapter c.kind >>= fun _ => s.listedBy network c i) = .ok entries) :
    ∀ e ∈ entries, e.origin = .single i := by
  obtain ⟨_,-,answered⟩ := Json.bind_ok.mp listed
  exact listModels_origin answered

theorem mem_origin {connections : List Connection}
    (stands : StandsFor e (connections.zipIdx.filterMap (s.batch? (s.listedBy network))).flatten) :
    i ∈ e.origin.indices ↔ ∃ c batch, connections[i]? = some c ∧ s.answer (s.listedBy network) (c,i) = .ok batch ∧
      ∃ x ∈ batch, x.id = e.id := by
  have single {j : Nat} {c : Connection} {batch : List CatalogEntry} {x : CatalogEntry}
      (answered : s.answer (s.listedBy network) (c,j) = .ok batch) (added : x ∈ batch) : x.origin = .single j :=
    lists_origin ((answer_adds added).mp answered).2 x added
  rw [stands.origins i]
  constructor
  · rintro ⟨x,member,own,index⟩
    obtain ⟨j,c,batch,there,answered,added⟩ := mem_batches.mp member
    rw [single answered added] at index
    cases List.mem_singleton.mp index
    exact ⟨c,batch,there,answered,x,added,own⟩
  · rintro ⟨c,batch,there,answered,x,added,own⟩
    refine ⟨x,mem_batches.mpr ⟨i,c,batch,there,answered,added⟩,own,?_⟩
    rw [single answered added]
    exact List.mem_singleton_self i

theorem answers_iff (tidy : t.Tidy) (there : t.connections.values[i]? = some c) (added : e ∈ entries) :
    s.answer (s.listedBy network) (c,i) = .ok entries ↔ (c.enabled = true ∨ s.config.skipDisabled = false) ∧
      (s.connectionModels { network := network c } c.id).run memory t = (.ok entries,t) := by
  rw [answer_adds added,connectionModels_lists tidy there]

end

-- On a store, whose contents are tidy whatever calls it had, the catalog is the union of the listings of its
-- connections. An entry's origin holds exactly the positions whose connection is fetched and lists the entry's id;
-- what a connection lists by itself carries its position; and except for its origin an entry is the first one of
-- its id in the listing of the lowest of its positions.
theorem catalog_is_union {s : Service} {network : Connection → Network} {t : Contents} (tidy : t.Tidy)
    {catalog : List CatalogEntry} (listed : s.strict (s.listedBy network) t.connections.values = .ok catalog) :
    (∀ m i, (∃ e ∈ catalog, e.id = m ∧ i ∈ e.origin.indices) ↔ ∃ c entries, t.connections.values[i]? = some c ∧
      (c.enabled = true ∨ s.config.skipDisabled = false) ∧
      (s.connectionModels { network := network c } c.id).run memory t = (.ok entries,t) ∧ ∃ e ∈ entries, e.id = m) ∧
    catalog.Pairwise (fun a b => a.id < b.id) ∧
    (∀ i c entries, t.connections.values[i]? = some c →
      (s.connectionModels { network := network c } c.id).run memory t = (.ok entries,t) →
      (Registry.Connections.getIndexed c.id).run memory t = (.ok (i,c),t) ∧ ∀ e ∈ entries, e.origin = .single i) ∧
    (∀ e ∈ catalog, ∃ i c entries first, i ∈ e.origin.indices ∧ (∀ j ∈ e.origin.indices, i ≤ j) ∧
      t.connections.values[i]? = some c ∧
      (s.connectionModels { network := network c } c.id).run memory t = (.ok entries,t) ∧
      entries.find? (·.id = e.id) = some first ∧ e = { first with origin := e.origin }) ∧
    ∀ net, (∀ c, network c = net) → (s.aggregate { network := net }).run memory t = (.ok catalog,t) := by
  have merged := strict_merges listed
  refine ⟨fun m i => ⟨?_,?_⟩,by rw [merged]; exact merge_ascending _,fun i c entries there shown => ?_,fun e member => ?_,
    fun net same => ?_⟩
  · rintro ⟨e,member,rfl,index⟩
    rw [merged] at member
    obtain ⟨c,batch,there,answered,x,added,own⟩ := (mem_origin (mem_merge member)).mp index
    obtain ⟨asked,shown⟩ := (answers_iff tidy there added).mp answered
    exact ⟨c,batch,there,asked,shown,x,added,own⟩
  · rintro ⟨c,entries,there,asked,shown,x,added,rfl⟩
    have answered := (answers_iff tidy there added).mpr ⟨asked,shown⟩
    obtain ⟨e,member,own⟩ := exists_merge (mem_batches.mpr ⟨i,c,entries,there,answered,added⟩)
    rw [merged]
    exact ⟨e,member,own,(mem_origin (mem_merge member)).mpr ⟨c,entries,there,answered,x,added,own.symm⟩⟩
  · exact ⟨getIndexed_run tidy there,lists_origin ((connectionModels_lists tidy there).mp shown)⟩
  · rw [merged] at member
    -- The first entry of an id lies in the batch of the lowest position that lists it.
    have stands := mem_merge member
    obtain ⟨first,found,copied⟩ := stands.first
    obtain ⟨i,c,batch,there,answered,inside,lowest⟩ := first_batch found
    have added := List.mem_of_find?_eq_some inside
    have own := List.find?_some inside
    simp only [decide_eq_true_eq] at own
    refine ⟨i,c,batch,first,(mem_origin stands).mpr ⟨c,batch,there,answered,first,added,own⟩,fun j index => ?_,there,
      ((answers_iff tidy there added).mp answered).2,inside,copied⟩
    obtain ⟨c',batch',there',answered',x,added',own'⟩ := (mem_origin stands).mp index
    exact lowest j c' batch' there' answered' ⟨x,added',own'⟩
  · have stored := (aggregates_stored s (w := { network := net }) rfl t).1
    have one : s.listedBy network = s.listModels { network := net } := by
      funext c index
      rw [Service.listedBy,same]
    rw [stored,← one,listed]

def endpoint (id : ConnectionId) (name : String) : Connection := { listedConnection with id,name,baseUrl := "http://h" }

-- Two connections, the second with a gap before its id, and a network that answers each of them differently.
def twoEndpoints : Contents where
  models := ∅
  connections := .ofList [(.first,endpoint .first "a"),(⟨4,by decide⟩,endpoint ⟨4,by decide⟩ "b")]
  nextId := ⟨5,by decide⟩

def tagged (c : Connection) : Network := fun _ =>
  if c.name = "a" then .answered 200 (some "\x7b\"models\":[\x7b\"name\":\"m\"\x7d]\x7d")
  else .answered 200 (some "\x7b\"models\":[\x7b\"name\":\"k\"\x7d,\x7b\"name\":\"m\"\x7d]\x7d")

def standard : Service := ⟨ProviderKind.all,{}⟩

-- The model that both connections list has both positions, and so it is in the listing of the second one.
theorem shared_model_has_both_positions : ∃ catalog,
    standard.strict (standard.listedBy tagged) twoEndpoints.connections.values = .ok catalog ∧
    (catalog.map fun e => (e.id,e.origin)) = [("k",.single 1),("m",.merged [0,1])] ∧
    ∃ c entries, twoEndpoints.connections.values[1]? = some c ∧
      (c.enabled = true ∨ standard.config.skipDisabled = false) ∧
      (standard.connectionModels { network := tagged c } c.id).run memory twoEndpoints = (.ok entries,twoEndpoints) ∧
      ∃ e ∈ entries, e.id = "m" := by
  have tidy : twoEndpoints.Tidy := ⟨by decide,by decide +kernel,by decide,by decide +kernel⟩
  have merged : ((standard.strict (standard.listedBy tagged) twoEndpoints.connections.values).toOption.map
      fun catalog => catalog.map fun e => (e.id,e.origin)) = some [("k",.single 1),("m",.merged [0,1])] := by
    decide +kernel
  obtain ⟨catalog,same,names⟩ := Option.map_eq_some_iff.mp merged
  have listed := Json.ok_of_toOption same
  have shared : ("m",Origin.merged [0,1]) ∈ catalog.map fun e => (e.id,e.origin) := by
    rw [names]
    decide
  obtain ⟨e,member,both⟩ := List.mem_map.mp shared
  obtain ⟨own,origin⟩ := Prod.mk.inj both
  have index : 1 ∈ e.origin.indices := by
    rw [origin]
    decide
  exact ⟨catalog,listed,names,((catalog_is_union tidy listed).1 "m" 1).mp ⟨e,member,own,index⟩⟩

end ModelCatalog.Catalog
