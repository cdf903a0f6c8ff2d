import ModelCatalog.Proofs.Catalog.Union

namespace ModelCatalog
open Json Store Web

-- A qualifier that goes on behind another one with a dot, the sign that also stands before a model's id.
def Continues (q q' : String) : Prop := ∃ rest, q' = q ++ "." ++ rest

theorem continues_of_shared {q q' id id' : String} (same : q ++ "." ++ id = q' ++ "." ++ id') :
    q = q' ∨ Continues q q' ∨ Continues q' q := by
  have listed : q.toList ++ '.' :: id.toList = q'.toList ++ '.' :: id'.toList := by
    simpa using congrArg String.toList same
  have spelled {p p' : String} {rest : List Char} (longer : p'.toList = p.toList ++ '.' :: rest) : Continues p p' :=
    ⟨String.ofList rest,String.toList_inj.mp (by simpa using longer)⟩
  -- One of them is as long as the other, or the dot of the shorter one stands in the longer one.
  rcases List.append_eq_append_iff.mp listed with ⟨more,longer,rest⟩ | ⟨more,longer,rest⟩
  · cases more with
    | nil => exact .inl (String.toList_inj.mp (by simpa using longer.symm))
    | cons c more =>
      obtain ⟨rfl,-⟩ := List.cons.inj rest
      exact .inr (.inl (spelled longer))
  · cases more with
    | nil => exact .inl (String.toList_inj.mp (by simpa using longer))
    | cons c more =>
      obtain ⟨rfl,-⟩ := List.cons.inj rest
      exact .inr (.inr (spelled longer))

theorem shared_of_continues {q q' : String} (nested : Continues q q' ∨ Continues q' q) :
    ∃ id id', q ++ "." ++ id = q' ++ "." ++ id' := by
  rcases nested with ⟨rest,rfl⟩ | ⟨rest,rfl⟩
  · exact ⟨rest ++ "." ++ "m","m",by simp only [String.append_assoc]⟩
  · exact ⟨"m",rest ++ "." ++ "m",by simp only [String.append_assoc]⟩

theorem Connection.qualified_eq {c : Connection} {q : String} (own : c.qualifier = some q) (given : q ≠ "")
    (id : String) : c.qualified id = q ++ "." ++ id := by
  rw [qualified,own]
  exact if_neg given

namespace Listing

def named (id : String) : Tree := .object [("name",.text id)]

def naming (ids : List String) : Tree := .object [("models",.array (ids.map named))]

theorem items_naming (ids : List String) :
    items .ollama (.ofTree (naming ids)) = ids.map fun id => .ofTree (named id) := by
  have distinct : (([("models",.array (ids.map named))] : List (String × Tree)).map (·.1)).Nodup := by simp
  have found : Ordered.Entries.find? "models" [("models",Tree.array (ids.map named))] = some (.array (ids.map named)) :=
    rfl
  rw [items,naming,Value.member?_ofTree distinct,found,Option.map_some,Option.bind_some,Value.items?_ofTree,List.map_map]
  rfl

theorem reported_named (id : String) : reported .ollama (.ofTree (named id)) = some id := by
  have distinct : (([("name",.text id)] : List (String × Tree)).map (·.1)).Nodup := by simp
  rw [reported,named,Value.member?_ofTree distinct,Value.member?_ofTree distinct]
  rfl

theorem naming_listed {c : Connection} (all : c.modelIds = []) {ids : List String} {id : String} (member : id ∈ ids)
    (index : Nat) : ∃ e ∈ normalize .ollama c index (.ofTree (naming ids)), e.id = c.qualified id := by
  have offers : Value.ofTree (named id) ∈ offered .ollama c (.ofTree (naming ids)) := by
    rw [offered_items ProviderKind.noConfusion,items_naming]
    exact List.mem_map_of_mem member
  rcases listed_unless offers (reported_named id) with ⟨e,shown,-,own⟩ | ⟨some,-⟩
  · exact ⟨e,shown,own⟩
  · exact absurd all some

end Listing

namespace Catalog

section
variable {s : Service} {network : Connection → Network} {connections : List Connection} {catalog : List CatalogEntry}
  {c c' : Connection} {i j : Nat}

theorem shares_entry (listed : s.strict (s.listedBy network) connections = .ok catalog)
    (there : connections[i]? = some c) (there' : connections[j]? = some c') :
    (∃ e ∈ catalog, i ∈ e.origin.indices ∧ j ∈ e.origin.indices) ↔
      ∃ batch batch', s.answer (s.listedBy network) (c,i) = .ok batch ∧
        s.answer (s.listedBy network) (c',j) = .ok batch' ∧ ∃ x ∈ batch, ∃ y ∈ batch', x.id = y.id := by
  rw [strict_merges listed]
  constructor
  · rintro ⟨e,member,first,second⟩
    have stands := mem_merge member
    obtain ⟨d,batch,place,answered,x,added,own⟩ := (mem_origin stands).mp first
    obtain ⟨d',batch',place',answered',y,added',own'⟩ := (mem_origin stands).mp second
    cases there.symm.trans place
    cases there'.symm.trans place'
    exact ⟨batch,batch',answered,answered',x,added,y,added',own.trans own'.symm⟩
  · rintro ⟨batch,batch',answered,answered',x,added,y,added',same⟩
    obtain ⟨e,member,own⟩ := exists_merge (mem_batches.mpr ⟨i,c,batch,there,answered,added⟩)
    have stands := mem_merge member
    refine ⟨e,member,(mem_origin stands).mpr ⟨c,batch,there,answered,x,added,own.symm⟩,?_⟩
    exact (mem_origin stands).mpr ⟨c',batch',there',answered',y,added',same.symm.trans own.symm⟩

theorem strict_succeeds {listings : Listings}
    (answers : ∀ place ∈ connections.zipIdx, ∃ batch, s.answer listings place = .ok batch) :
    ∃ catalog, s.strict listings connections = .ok catalog := by
  have none : (s.lenient listings connections).failures = [] := by
    rw [lenient_eq]
    refine List.filterMap_eq_nil_iff.mpr fun place member => ?_
    obtain ⟨batch,answered⟩ := answers place member
    exact (batch_ok answered).2
  exact ⟨_,strict_listed none⟩

theorem answer_qualified {batch : List CatalogEntry} {e : CatalogEntry} {q : String} (own : c.qualifier = some q)
    (given : q ≠ "") (answered : s.answer (s.listedBy network) (c,i) = .ok batch) (added : e ∈ batch) :
    ∃ id, e.id = q ++ "." ++ id := by
  obtain ⟨_,-,listed⟩ := bind_ok.mp ((answer_adds added).mp answered).2
  obtain ⟨payload,rfl⟩ := listModels_normalizes listed
  obtain ⟨raw,-,id,-,-,rfl⟩ := Listing.mem_normalize.mp added
  exact ⟨id,Connection.qualified_eq own given id⟩

end

def qualifiedEndpoint (id : ConnectionId) (q : String) : Connection := { endpoint id "c" with qualifier := some q }

def twoQualified (q q' : String) : Contents where
  models := ∅
  connections := .ofList [(.first,qualifiedEndpoint .first q),(⟨9,by decide⟩,qualifiedEndpoint ⟨9,by decide⟩ q')]
  nextId := ⟨10,by decide⟩

def uniform (ids : List String) : Network := fun _ =>
  .answered 200 (some (Codec.value.write (.ofTree (Listing.naming ids))).pretty)

theorem twoQualified_tidy (q q' : String) : (twoQualified q q').Tidy where
  models_keyed _ member := (List.not_mem_nil member).elim
  connections_keyed entry member := by
    rcases List.mem_cons.mp member with rfl | last
    · rfl
    · cases List.mem_singleton.mp last
      rfl
  next_first := (by decide : (1 : Int) ≤ 10)
  next_above entry member := by
    rcases List.mem_cons.mp member with rfl | last
    · exact (by decide : (1 : Int) < 10)
    · cases List.mem_singleton.mp last
      exact (by decide : (9 : Int) < 10)

theorem naming_read (m n : String) : Codec.value.readText
    (Codec.value.write (.ofTree (Listing.naming [m,n]))).pretty = .ok (.ofTree (Listing.naming [m,n])) := by
  refine Codec.value_faithful.readText_pretty trivial ?_ ?_
  · intro x real
    exact absurd real List.not_mem_nil
  · have three : (Codec.value.write (.ofTree (Listing.naming [m,n]))).depth = 3 := rfl
    omega

theorem endpoint_sendable (id : ConnectionId) (q : String) :
    ∃ r, standard.request (qualifiedEndpoint id q) (qualifiedEndpoint id q).listUrl = .ok r := by
  have same : standard.request (qualifiedEndpoint id q) (qualifiedEndpoint id q).listUrl =
    standard.request (qualifiedEndpoint .first "") (qualifiedEndpoint .first "").listUrl := rfl
  have sendable :
      (standard.request (qualifiedEndpoint .first "") (qualifiedEndpoint .first "").listUrl).toOption.isSome := by
    decide +kernel
  obtain ⟨r,made⟩ := Option.isSome_iff_exists.mp sendable
  exact ⟨r,same.trans (ok_of_toOption made)⟩

theorem uniform_lists (id : ConnectionId) (q m n : String) (index : Nat) :
    standard.listModels { network := uniform [m,n] } (qualifiedEndpoint id q) index =
      .ok (Listing.normalize .ollama (qualifiedEndpoint id q) index (.ofTree (Listing.naming [m,n]))) := by
  obtain ⟨r,made⟩ := endpoint_sendable id q
  have sent : standard.send { network := uniform [m,n] } (qualifiedEndpoint id q) (qualifiedEndpoint id q).listUrl =
      .ok (200,some (Codec.value.write (.ofTree (Listing.naming [m,n]))).pretty) := by
    rw [Service.send,made]
    rfl
  refine bind_ok.mpr ⟨_,sent,?_⟩
  dsimp only
  rw [naming_read]
  rfl

theorem uniform_answers (id : ConnectionId) (q m n : String) (index : Nat) :
    standard.answer (standard.listedBy fun _ => uniform [m,n]) (qualifiedEndpoint id q,index) =
      .ok (Listing.normalize .ollama (qualifiedEndpoint id q) index (.ofTree (Listing.naming [m,n]))) := by
  have named : m ∈ [m,n] := List.mem_cons_self
  obtain ⟨e,added,-⟩ := Listing.naming_listed (c := qualifiedEndpoint id q) rfl named index
  exact (answer_adds added).mpr ⟨.inl rfl,bind_ok.mpr ⟨(),rfl,uniform_lists id q m n index⟩⟩

theorem shared_name_merges {q q' id id' : String} (given : q ≠ "") (given' : q' ≠ "")
    (same : q ++ "." ++ id = q' ++ "." ++ id') :
    ∃ catalog, (standard.aggregate { network := uniform [id,id'] }).run memory (twoQualified q q') =
      (.ok catalog,twoQualified q q') ∧ ∃ e ∈ catalog, 0 ∈ e.origin.indices ∧ 1 ∈ e.origin.indices := by
  let c := qualifiedEndpoint .first q
  let c' := qualifiedEndpoint ⟨9,by decide⟩ q'
  have first := uniform_answers .first q id id' 0
  have second := uniform_answers ⟨9,by decide⟩ q' id id' 1
  have strict : ∃ catalog, standard.strict (standard.listedBy fun _ => uniform [id,id']) [c,c'] = .ok catalog := by
    refine strict_succeeds fun place member => ?_
    rcases List.mem_cons.mp member with rfl | last
    · exact ⟨_,first⟩
    · cases List.mem_singleton.mp last
      exact ⟨_,second⟩
  obtain ⟨catalog,listed⟩ := strict
  have named : id ∈ [id,id'] ∧ id' ∈ [id,id'] := ⟨List.mem_cons_self,List.mem_cons_of_mem _ List.mem_cons_self⟩
  obtain ⟨x,added,own⟩ := Listing.naming_listed (c := c) rfl named.1 0
  obtain ⟨y,added',own'⟩ := Listing.naming_listed (c := c') rfl named.2 1
  refine ⟨catalog,?_,(shares_entry (i := 0) (j := 1) listed rfl rfl).mpr ⟨_,_,first,second,x,added,y,added',?_⟩⟩
  · rw [(aggregates_stored standard rfl (twoQualified q q')).1]
    exact Prod.ext listed rfl
  · rw [own,own',Connection.qualified_eq rfl given,Connection.qualified_eq rfl given',same]

-- Which qualifiers keep the models of their connections apart. If neither continues the other one behind a dot, no
-- entry of any catalog has positions of both, whatever the providers list. If one does, a store with these qualifiers
-- on two endpoints and answers of their providers make a catalog that holds two different models as one entry.
theorem qualifiers_keep_apart {q q' : String} (given : q ≠ "") (given' : q' ≠ "") (different : q ≠ q') :
    (¬ (Continues q q' ∨ Continues q' q) → ∀ (s : Service) (network : Connection → Network) connections catalog,
      s.strict (s.listedBy network) connections = .ok catalog → ∀ i j c c', connections[i]? = some c →
        connections[j]? = some c' → c.qualifier = some q → c'.qualifier = some q' →
          ∀ e ∈ catalog, ¬ (i ∈ e.origin.indices ∧ j ∈ e.origin.indices)) ∧
    (Continues q q' ∨ Continues q' q → ∃ (t : Contents) (c c' : Connection) (net : Network) (catalog : List CatalogEntry),
      t.Tidy ∧ t.connections.values = [c,c'] ∧ c.qualifier = some q ∧ c'.qualifier = some q' ∧
      (standard.aggregate { network := net }).run memory t = (.ok catalog,t) ∧
        ∃ e ∈ catalog, 0 ∈ e.origin.indices ∧ 1 ∈ e.origin.indices) := by
  refine ⟨fun apart s network connections catalog listed i j c c' there there' own own' e member both => ?_,
    fun nested => ?_⟩
  · obtain ⟨batch,batch',answered,answered',x,added,y,added',same⟩ :=
      (shares_entry listed there there').mp ⟨e,member,both⟩
    obtain ⟨id,shown⟩ := answer_qualified own given answered added
    obtain ⟨id',shown'⟩ := answer_qualified own' given' answered' added'
    exact apart ((continues_of_shared (shown.symm.trans (same.trans shown'))).resolve_left different)
  · obtain ⟨id,id',same⟩ := shared_of_continues nested
    obtain ⟨catalog,listed,merged⟩ := shared_name_merges given given' same
    exact ⟨twoQualified q q',_,_,uniform [id,id'],catalog,twoQualified_tidy q q',rfl,rfl,rfl,listed,merged⟩

-- A dot in a qualifier is enough.
theorem dotted_qualifier_merges : "a" ≠ "" ∧ "a.b" ≠ "" ∧ "a" ≠ "a.b" ∧ Continues "a" "a.b" ∧
    ∃ (t : Contents) (c c' : Connection) (net : Network) (catalog : List CatalogEntry),
      t.Tidy ∧ t.connections.values = [c,c'] ∧ c.qualifier = some "a" ∧ c'.qualifier = some "a.b" ∧
      (standard.aggregate { network := net }).run memory t = (.ok catalog,t) ∧
        ∃ e ∈ catalog, 0 ∈ e.origin.indices ∧ 1 ∈ e.origin.indices := by
  have nested : Continues "a" "a.b" := ⟨"b",by decide⟩
  refine ⟨by decide,by decide,by decide,nested,?_⟩
  exact (qualifiers_keep_apart (by decide) (by decide) (by decide)).2 (.inl nested)

end Catalog
end ModelCatalog
