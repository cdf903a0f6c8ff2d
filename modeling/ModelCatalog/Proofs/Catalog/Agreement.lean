import ModelCatalog.Catalog.Service
import ModelCatalog.Proofs.Catalog.Flight

namespace ModelCatalog.Catalog
open Store

namespace Service

def answer (s : Service) (listings : Listings) (place : Connection × Nat) : Except Error (List CatalogEntry) :=
  s.fetch listings place.2 place.1

def batch? (s : Service) (listings : Listings) (place : Connection × Nat) : Option (List CatalogEntry) :=
  (s.answer listings place).toOption

def failure? (s : Service) (listings : Listings) (place : Connection × Nat) : Option Failure :=
  Failure.of? (place,s.answer listings place)

end Service

section
variable {s : Service} {listings : Listings} {connections : List Connection} {place : Connection × Nat}
  {places : List (Connection × Nat)} {batch : List CatalogEntry} {e : Error} {f : Failure}

theorem strict_eq (s : Service) (listings : Listings) (connections : List Connection) :
    s.strict listings connections = (connections.zipIdx.mapM (s.answer listings)).map merge := rfl

theorem lenient_eq (s : Service) (listings : Listings) (connections : List Connection) :
    s.lenient listings connections = ⟨merge (connections.zipIdx.filterMap (s.batch? listings)),
      connections.zipIdx.filterMap (s.failure? listings)⟩ := by
  have paired : connections.zipIdx.zip (connections.zipIdx.map (s.answer listings)) =
      connections.zipIdx.map fun place => (place,s.answer listings place) := List.map_prod_left_eq_zip.symm
  change Lenient.gather connections (connections.zipIdx.map (s.answer listings)) = _
  rw [Lenient.gather,paired]
  simp only [List.filterMap_map]
  rfl

theorem batch_ok (answered : s.answer listings place = .ok batch) :
    s.batch? listings place = some batch ∧ s.failure? listings place = none := by
  rw [Service.batch?,Service.failure?,answered]
  exact ⟨rfl,rfl⟩

theorem failure_error (answered : s.answer listings place = .error e) :
    s.batch? listings place = none ∧ s.failure? listings place = some ⟨place.2,place.1.id,e⟩ := by
  rw [Service.batch?,Service.failure?,answered]
  exact ⟨rfl,rfl⟩

theorem batch_some (found : s.batch? listings place = some batch) : s.answer listings place = .ok batch := by
  cases answered : s.answer listings place with
  | ok other =>
    cases (batch_ok answered).1.symm.trans found
    rfl
  | error e => cases (failure_error answered).1.symm.trans found

theorem failure_some (found : s.failure? listings place = some f) :
    f.index = place.2 ∧ f.id = place.1.id ∧ s.answer listings place = .error f.error := by
  cases answered : s.answer listings place with
  | ok batch => cases (batch_ok answered).2.symm.trans found
  | error e =>
    cases (failure_error answered).2.symm.trans found
    exact ⟨rfl,rfl,rfl⟩

theorem mem_failures : f ∈ (s.lenient listings connections).failures ↔
    ∃ c, connections[f.index]? = some c ∧ f.id = c.id ∧ s.fetch listings f.index c = .error f.error := by
  rw [lenient_eq,List.mem_filterMap]
  constructor
  · rintro ⟨⟨c,index⟩,member,found⟩
    obtain ⟨rfl,same,answered⟩ := failure_some found
    exact ⟨c,List.mk_mem_zipIdx_iff_getElem?.mp member,same,answered⟩
  · rintro ⟨c,there,same,answered⟩
    have answered : s.answer listings (c,f.index) = .error f.error := answered
    refine ⟨(c,f.index),List.mk_mem_zipIdx_iff_getElem?.mpr there,?_⟩
    rw [(failure_error answered).2,← same]

theorem places_ascending (connections : List Connection) : connections.zipIdx.Pairwise fun a b => a.2 < b.2 := by
  refine List.pairwise_map.mp ?_
  rw [List.zipIdx_map_snd]
  exact List.pairwise_lt_range'

theorem failures_ascending (s : Service) (listings : Listings) (connections : List Connection) :
    (s.lenient listings connections).failures.Pairwise fun f g => f.index < g.index := by
  rw [lenient_eq]
  refine List.pairwise_filterMap.mpr ((places_ascending connections).imp fun less f first g second => ?_)
  rw [(failure_some first).1,(failure_some second).1]
  exact less

theorem answers_listed (none : places.filterMap (s.failure? listings) = []) :
    places.mapM (s.answer listings) = .ok (places.filterMap (s.batch? listings)) := by
  induction places with
  | nil => rfl
  | cons place rest ih =>
    cases answered : s.answer listings place with
    | ok batch =>
      obtain ⟨listed,fine⟩ := batch_ok answered
      rw [List.filterMap_cons_none fine] at none
      rw [List.mapM_cons,answered,ih none,List.filterMap_cons_some listed]
      rfl
    | error e =>
      rw [List.filterMap_cons_some (failure_error answered).2] at none
      cases none

theorem answers_failed (first : places.filterMap (s.failure? listings) = f :: rest) :
    places.mapM (s.answer listings) = .error f.error := by
  induction places with
  | nil => cases first
  | cons place others ih =>
    rw [List.mapM_cons]
    cases answered : s.answer listings place with
    | ok batch =>
      rw [List.filterMap_cons_none (batch_ok answered).2] at first
      rw [ih first]
      rfl
    | error e =>
      rw [List.filterMap_cons_some (failure_error answered).2] at first
      cases first
      rfl

theorem strict_listed (none : (s.lenient listings connections).failures = []) :
    s.strict listings connections = .ok (s.lenient listings connections).entries := by
  rw [lenient_eq] at none ⊢
  rw [strict_eq,answers_listed none]
  rfl

theorem strict_failed (first : (s.lenient listings connections).failures = f :: rest) :
    s.strict listings connections = .error f.error := by
  rw [lenient_eq] at first
  rw [strict_eq,answers_failed first]
  rfl

end

def turnOff (failures : List Failure) (place : Connection × Nat) : Connection :=
  if place.2 ∈ failures.map (·.index) then { place.1 with enabled := false } else place.1

def withoutFailed (failures : List Failure) (connections : List Connection) : List Connection :=
  connections.zipIdx.map (turnOff failures)

section
variable {s : Service} {listings : Listings} {connections : List Connection} {place : Connection × Nat}

theorem answer_turnedOff (skips : s.config.skipDisabled = true) (member : place ∈ connections.zipIdx) :
    s.answer listings (turnOff (s.lenient listings connections).failures place,place.2) =
      .ok ((s.batch? listings place).getD []) := by
  obtain ⟨c,index⟩ := place
  have there := List.mk_mem_zipIdx_iff_getElem?.mp member
  cases answered : s.answer listings (c,index) with
  | ok batch =>
    have kept : index ∉ (s.lenient listings connections).failures.map (·.index) := by
      intro failed
      obtain ⟨f,failure,rfl⟩ := List.mem_map.mp failed
      obtain ⟨c',found,-,error⟩ := mem_failures.mp failure
      cases there.symm.trans found
      cases answered.symm.trans error
    rw [turnOff,if_neg kept,answered,(batch_ok answered).1]
    rfl
  | error e =>
    have failure : (⟨index,c.id,e⟩ : Failure) ∈ (s.lenient listings connections).failures :=
      mem_failures.mpr ⟨c,there,rfl,answered⟩
    have failed : index ∈ (s.lenient listings connections).failures.map (·.index) := List.mem_map_of_mem failure
    rw [turnOff,if_pos failed,(failure_error answered).1,Service.answer,Service.fetch,skips]
    rfl

theorem zipIdx_withoutFailed (failures : List Failure) (connections : List Connection) :
    (withoutFailed failures connections).zipIdx =
      connections.zipIdx.map fun place => (turnOff failures place,place.2) := by
  refine List.ext_getElem? fun i => ?_
  simp only [withoutFailed,List.getElem?_zipIdx,List.getElem?_map]
  cases connections[i]? <;> simp

theorem flatten_batches (places : List (Connection × Nat)) :
    (places.map fun place => (s.batch? listings place).getD []).flatten = (places.filterMap (s.batch? listings)).flatten := by
  induction places with
  | nil => rfl
  | cons place rest ih =>
    rw [List.map_cons,List.flatten_cons,ih]
    cases found : s.batch? listings place with
    | some batch => rw [List.filterMap_cons_some found]; rfl
    | none => rw [List.filterMap_cons_none found]; rfl

theorem mapM_of_ok {f : α → Except ε β} {g : α → β} {items : List α} (all : ∀ a ∈ items, f a = .ok (g a)) :
    items.mapM f = .ok (items.map g) := by
  induction items with
  | nil => rfl
  | cons a rest ih =>
    rw [List.mapM_cons,all a List.mem_cons_self,ih fun b member => all b (List.mem_cons_of_mem _ member)]
    rfl

theorem strict_withoutFailed (skips : s.config.skipDisabled = true) :
    s.strict listings (withoutFailed (s.lenient listings connections).failures connections) =
      .ok (s.lenient listings connections).entries := by
  have batches : (withoutFailed (s.lenient listings connections).failures connections).zipIdx.mapM (s.answer listings) =
      .ok (connections.zipIdx.map fun place => (s.batch? listings place).getD []) := by
    rw [zipIdx_withoutFailed,List.mapM_map]
    exact mapM_of_ok fun _ member => answer_turnedOff skips member
  rw [strict_eq,batches,lenient_eq]
  change Except.ok (merge _) = Except.ok (merge _)
  rw [merge,merge,flatten_batches]

theorem unlessCancelled_never {w : Surroundings} (steady : w.cancellation = .never) (result : Except Error α) :
    Service.unlessCancelled w result = result := by
  rw [Service.unlessCancelled,steady]
  exact if_neg (by decide)

theorem aggregates_stored (s : Service) {w : Surroundings} (steady : w.cancellation = .never) (t : Contents) :
    (s.aggregate w).run memory t = (s.strict (s.listModels w) t.connections.values,t) ∧
      (s.aggregateLenient w).run memory t = (.ok (s.lenient (s.listModels w) t.connections.values),t) := by
  have strict : (s.aggregate w).run memory t =
      (Service.unlessCancelled w (s.strict (s.listModels w) t.connections.values),t) := rfl
  have lenient : (s.aggregateLenient w).run memory t = (Service.unlessCancelled w do
      let catalog := s.lenient (s.listModels w) t.connections.values
      if w.cancellation = .whileWaiting ∧ catalog.failures.any (fun f => f.error = Service.cancelled) then
        throw Service.cancelled
      return catalog,t) := rfl
  have late : ¬ w.cancellation = .whileWaiting := by
    rw [steady]
    decide
  refine ⟨by rw [strict,unlessCancelled_never steady],?_⟩
  rw [lenient,unlessCancelled_never steady]
  simp only [late,false_and,if_false]
  rfl

end

-- Both ways of one catalog, for any adapters, any settings and any answers, as long as a connection's answer is the
-- same in both. The failures are the connections that fail, in their order. Without any, the strict way lists what
-- the lenient way does; otherwise its error is the first one's; and once exactly those are turned off that failed,
-- it lists what the lenient way did, if disabled connections are skipped. However many connections are fetched
-- side by side and in whatever order they answer, every schedule comes to an end and to these results.
theorem strict_agrees_with_lenient (s : Service) (listings : Listings) (connections : List Connection) :
    (∀ f, f ∈ (s.lenient listings connections).failures ↔
      ∃ c, connections[f.index]? = some c ∧ f.id = c.id ∧ s.fetch listings f.index c = .error f.error) ∧
    (s.lenient listings connections).failures.Pairwise (fun f g => f.index < g.index) ∧
    ((s.lenient listings connections).failures = [] →
      s.strict listings connections = .ok (s.lenient listings connections).entries) ∧
    (∀ f rest, (s.lenient listings connections).failures = f :: rest →
      s.strict listings connections = .error f.error) ∧
    (s.config.skipDisabled = true →
      s.strict listings (withoutFailed (s.lenient listings connections).failures connections) =
        .ok (s.lenient listings connections).entries) ∧
    (∀ flight, Flight.Reached (s.answer listings) s.config.concurrency connections.zipIdx flight →
      flight.running.length ≤ s.config.concurrency ∧
      (∀ batches, flight.strict? = some batches → batches.map merge = s.strict listings connections) ∧
      (∀ results, flight.all? = some results → Lenient.gather connections results = s.lenient listings connections) ∧
      (flight.strict? = none ∨ flight.all? = none →
        ∃ next, Flight.Step (s.answer listings) s.config.concurrency flight next) ∧
      ∀ next, Flight.Step (s.answer listings) s.config.concurrency flight next → next.left < flight.left) ∧
    (∀ n, let resized : Service := { s with config := { s.config with maxConcurrency := n } }
      resized.strict listings connections = s.strict listings connections ∧
        resized.lenient listings connections = s.lenient listings connections) ∧
    ∀ w t, w.cancellation = .never → t.connections.values = connections →
      (s.aggregate w).run memory t = (s.strict (s.listModels w) connections,t) ∧
      (s.aggregateLenient w).run memory t = (.ok (s.lenient (s.listModels w) connections),t) := by
  refine ⟨fun f => mem_failures,failures_ascending s listings connections,strict_listed,fun _ _ => strict_failed,
    strict_withoutFailed,fun flight reached => ?_,fun _ => ⟨rfl,rfl⟩,?_⟩
  · refine ⟨reached.inTurn.within,fun batches found => ?_,fun results found => ?_,fun unfinished => ?_,fun next step => ?_⟩
    · rw [reached.strict found,strict_eq]
    · rw [reached.all found]
      rfl
    · have wide : 0 < s.config.concurrency := Nat.lt_of_lt_of_le Nat.zero_lt_one (Nat.le_max_right _ _)
      exact Flight.progress wide (unfinished.elim Flight.unfinished_of_strict id)
    · exact step.left_lt
  · rintro w t steady rfl
    exact aggregates_stored s steady t

def sometimes (c : Connection) (index : Nat) : Except Error (List CatalogEntry) :=
  if c.name = "down" then .error (.unreachable .badBody)
  else .ok [Listing.entry c .ollama index c.name c.name .null]

def registered (id : ConnectionId) (name : String) : Connection where
  id := id
  name := name
  kind := .ollama
  baseUrl := "http://h"
  apiKey := ""
  enabled := true
  label := none
  qualifier := none
  tags := []
  modelIds := []
  headers := ∅
  authType := .bearer
  apiVersion := none
  azure := false
  extra := ∅
  createdAt := ⟨21,by decide⟩
  updatedAt := ⟨22,by decide⟩

def threeRegistered : List Connection :=
  [registered .first "up",registered ⟨12,by decide⟩ "down",registered ⟨15,by decide⟩ "up"]

-- No connection at a time is as many as one.
def narrow : Service := ⟨ProviderKind.all,{ maxConcurrency := 0 }⟩

-- The second connection fails; turned off, it leaves the positions of the others as they are.
theorem turned_off_keeps_positions :
    (narrow.lenient sometimes threeRegistered).failures.map (fun f => (f.index,f.id.value)) = [(1,12)] ∧
    narrow.strict sometimes threeRegistered = .error (.unreachable .badBody) ∧
    (narrow.lenient sometimes threeRegistered).entries.map (fun e => (e.id,e.origin)) = [("up",.merged [0,2])] ∧
    narrow.strict sometimes (withoutFailed (narrow.lenient sometimes threeRegistered).failures threeRegistered) =
      .ok (narrow.lenient sometimes threeRegistered).entries := by
  obtain ⟨-,-,-,failed,turnedOff,-⟩ := strict_agrees_with_lenient narrow sometimes threeRegistered
  have entries : (narrow.lenient sometimes threeRegistered).entries.map (fun e => (e.id,e.origin)) =
      [("up",.merged [0,2])] := by decide +kernel
  exact ⟨rfl,failed _ [] rfl,entries,turnedOff rfl⟩

end ModelCatalog.Catalog
