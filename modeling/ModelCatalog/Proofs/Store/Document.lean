import ModelCatalog.Proofs.Json.Bytes
import ModelCatalog.Proofs.Json.Document
import ModelCatalog.Proofs.Model.Codec
import ModelCatalog.Store.Document

namespace ModelCatalog.Store
open Ordered Json

-- What every call keeps: records stand under their own ids, and the next id is at least one and above every connection.
structure Contents.Tidy (s : Contents) : Prop where
  models_keyed : ∀ entry ∈ s.models.entries, entry.2.id = entry.1
  connections_keyed : ∀ entry ∈ s.connections.entries, entry.2.id = entry.1
  next_first : 1 ≤ s.nextId.value
  next_above : ∀ entry ∈ s.connections.entries, entry.1.value < s.nextId.value

structure Contents.WellFormed (s : Contents) : Prop extends s.Tidy where
  null_free : ∀ entry ∈ s.models.entries, entry.2.NullFree

theorem listedLayout_lawful : listedLayout.Lawful
    (fun values => (∀ m ∈ values.1,m.NullFree) ∧ True ∧ True ∧ True) 5 := by
  have composed : listedLayout.Composed _ 5 :=
    .defaulted (Codec.list_faithful Codec.modelRecord_faithful) (by simp) <|
      .defaulted (Codec.plain_list Codec.connection_faithful) trivial <|
      .defaulted (Codec.integer_faithful ..) trivial .done
  exact composed 5 (Nat.le_refl 5) (by decide)

-- The version is no field of the listed part, and the listed part has no field named so.
theorem version_unlisted : "version" ∉ listedLayout.names := by decide

theorem listed_ignores_version (m : Medium) (node : Node) (complete : node.complete = true) :
    listedLayout.fill m listedLayout.blank (some "version",node) = .ok listedLayout.blank := by
  simp [Layout.fill_named,Layout.fill?_unknown m node listedLayout _ version_unlisted,complete]

theorem depth_listed (models : List ModelRecord) (connections : List Connection) (nextId : Unsigned64) :
    Tree.memberDepth (listedLayout.write (models,connections,nextId,())) ≤ n + 1 ↔
      (∀ r ∈ models, (Codec.modelRecord.write r).depth ≤ n) ∧
        ∀ c ∈ connections, (Codec.connection.write c).depth ≤ n := by
  change max (Tree.itemDepth (models.map Codec.modelRecord.write) + 1)
    (max (Tree.itemDepth (connections.map Codec.connection.write) + 1) (max 0 0)) ≤ n + 1 ↔ _
  simp only [Nat.max_le,Nat.add_le_add_iff_right,Tree.itemDepth_le,List.forall_mem_map]
  simp

theorem depth_toTree (s : Contents) : (toTree s).depth =
    Tree.memberDepth (listedLayout.write (s.models.values,s.connections.values,s.nextId,())) + 1 := by
  simp [toTree,Tree.depth,Tree.memberDepth,Codec.natural]

-- The header looks at the version alone, however deep the rest is nested.
theorem read_header (s : Contents) : header.read .document (.ofTree (toTree s)) = .ok version := by
  let layout := Layout.field (.required "version" (Codec.natural "u32" 4294967295)) .done
  let others := listedLayout.write (s.models.values,s.connections.values,s.nextId,())
  have first : layout.fill (.text 126) layout.blank
      (some "version",.ofTree ((Codec.natural "u32" 4294967295).write version)) = .ok (some version,()) := by
    rw [Layout.fill_named]
    rfl
  have rest : (Node.ofMembers others).foldlM (layout.fill (.text 126)) (some version,()) = .ok (some version,()) := by
    refine layout.fold_unknown (.text 126) _ others fun member found own => ?_
    have listed := listedLayout.names_write _ member found
    rw [List.mem_singleton.mp own] at listed
    exact version_unlisted listed
  have members : (Node.ofMembers (("version",(Codec.natural "u32" 4294967295).write version) :: others)).foldlM
      (layout.fill (.text 126)) layout.blank = .ok (some version,()) := by
    rw [Node.ofMembers,List.foldlM_cons,first]
    exact rest
  have read : layout.read "Header" .document (.ofTree (toTree s)) = .ok (version,()) := by
    change (Node.ofMembers (("version",(Codec.natural "u32" 4294967295).write version) :: others)).foldlM
      (layout.fill (.text 126)) layout.blank >>= _ = _
    rw [members]
    rfl
  exact congrArg (Except.map Prod.fst) read

theorem read_listed (m : Medium) (s : Contents) (nullFree : ∀ entry ∈ s.models.entries, entry.2.NullFree) :
    listed.read m (.ofTree (toTree s)) =
      m.within (toTree s).depth ⟨s.models.values,s.connections.values,s.nextId⟩ := by
  have ok : ∀ r ∈ s.models.values, r.NullFree := by
    intro r member
    obtain ⟨key,found⟩ := Keyed.mem_values.mp member
    exact nullFree (key,r) found
  have read : listedLayout.read "Document" m (.ofTree (toTree s)) =
      m.within (toTree s).depth (s.models.values,s.connections.values,s.nextId,()) := by
    rw [depth_toTree]
    refine m.enter_within _ _ _ fun inner _ => ?_
    rw [← listedLayout_lawful.read_members inner _ ⟨ok,trivial,trivial,trivial⟩]
    simp only [Node.ofMembers,List.foldlM_cons,listed_ignores_version inner _ (Node.complete_ofTree _)]
    rfl
  have all := congrArg (Except.map fun values => Listed.mk values.1 values.2.1 values.2.2.1) read
  rw [Medium.map_within] at all
  exact all

@[simp] theorem max_value (a b : ConnectionId) : (max a b).value = max a.value b.value := by
  change (if a.value ≤ b.value then b else a).value = _
  split <;> omega

theorem succ?_iff {id next : ConnectionId} : Contents.succ? id = some next ↔ next.value = id.value + 1 := by
  unfold Contents.succ? Bounded.ofInt?
  split
  · rw [Option.some_inj,Bounded.ext_iff,eq_comm]
  · next outside =>
    refine ⟨fun found => (by cases found),fun same => (outside ?_).elim⟩
    rw [← same]
    exact next.range

theorem foldl_max (ids : List ConnectionId) (start : ConnectionId) :
    start.value ≤ (ids.foldl max start).value ∧ ∀ id ∈ ids, id.value ≤ (ids.foldl max start).value := by
  induction ids generalizing start with
  | nil => exact ⟨Int.le_refl _,fun id member => (List.not_mem_nil member).elim⟩
  | cons head rest ih =>
    obtain ⟨least,others⟩ := ih (max start head)
    rw [max_value] at least
    refine ⟨by rw [List.foldl_cons]; omega,fun id member => ?_⟩
    rcases List.mem_cons.mp member with rfl | member
    · rw [List.foldl_cons]
      omega
    · exact others id member

theorem foldl_max_lt {ids : List ConnectionId} {start : ConnectionId} {bound : Int} (first : start.value < bound)
    (all : ∀ id ∈ ids, id.value < bound) : (ids.foldl max start).value < bound := by
  induction ids generalizing start with
  | nil => exact first
  | cons head rest ih =>
    have here := all head List.mem_cons_self
    exact ih (by rw [max_value]; omega) fun id member => all id (List.mem_cons_of_mem _ member)

theorem Listed.le_highest {d : Listed} {c : Connection} (member : c ∈ d.connections) : c.id.value ≤ d.highest.value :=
  (foldl_max _ _).2 c.id (List.mem_map_of_mem member)

section
variable {d : Listed} {s : Contents}

theorem Listed.contents_ok (found : d.contents = .ok s) :
    s.models = Keyed.ofList (d.models.map fun m => (m.id,m)) ∧
      s.connections = Keyed.ofList (d.connections.map fun c => (c.id,c)) ∧
      d.nextId.value ≤ s.nextId.value ∧ d.highest.value < s.nextId.value := by
  unfold contents at found
  split at found
  · cases found
  · next above follows =>
    cases found
    have step := succ?_iff.mp follows
    refine ⟨rfl,rfl,?_,?_⟩
    · rw [max_value]
      omega
    · rw [max_value]
      omega

theorem contents_listed (formed : s.WellFormed) :
    Listed.contents ⟨s.models.values,s.connections.values,s.nextId⟩ = .ok s := by
  let d : Listed := ⟨s.models.values,s.connections.values,s.nextId⟩
  have below : d.highest.value < s.nextId.value := by
    refine foldl_max_lt (Int.lt_of_lt_of_le (by decide) formed.next_first) fun id member => ?_
    obtain ⟨c,listed,rfl⟩ := List.mem_map.mp member
    obtain ⟨key,found⟩ := Keyed.mem_values.mp listed
    rw [show c.id = key from formed.connections_keyed (key,c) found]
    exact formed.next_above (key,c) found
  have last := s.nextId.range
  have start := d.highest.range
  let above : ConnectionId := ⟨d.highest.value + 1,by omega⟩
  have next : max s.nextId above = s.nextId := Bounded.ext (by
    have step : above.value = d.highest.value + 1 := rfl
    rw [max_value]
    omega)
  have follows : Contents.succ? d.highest = some above := succ?_iff.mpr rfl
  change d.contents = _
  simp only [Listed.contents,follows]
  change Except.ok (Contents.mk (Keyed.ofList (s.models.values.map _)) (Keyed.ofList (s.connections.values.map _))
    (max s.nextId above)) = _
  rw [Keyed.ofList_values s.models (·.id) formed.models_keyed,
    Keyed.ofList_values s.connections (·.id) formed.connections_keyed,next]

end

theorem decode_encode {s : Contents} (formed : s.WellFormed) (exact : (toTree s).Exact) :
    decode (encode s) = if (toTree s).depth ≤ 127 then .ok s else .error (.serialization .malformed) := by
  have first : header.readFrom (.ofTree (toTree s),true) = .ok version := by
    rw [Codec.readFrom,read_header]
    rfl
  have second : listed.readFrom (.ofTree (toTree s),true) =
      Medium.document.within (toTree s).depth ⟨s.models.values,s.connections.values,s.nextId⟩ := by
    rw [Codec.readFrom,read_listed _ s formed.null_free]
    exact Medium.within_ok _ _ _ _ _ rfl
  have room : Medium.document.Admits (toTree s).depth ↔ (toTree s).depth ≤ 127 := Iff.rfl
  rw [decode,encode,Node.read_pretty (toTree s) exact,decodeFrom,first,second]
  by_cases shallow : (toTree s).depth ≤ 127
  · simp only [Medium.within,room,shallow,if_true]
    exact contents_listed formed
  · simp only [Medium.within,room,shallow,if_false]
    rfl

theorem toTree_shallow (s : Contents) : (toTree s).depth ≤ n + 2 ↔
    (∀ r ∈ s.models.values, (Codec.modelRecord.write r).depth ≤ n) ∧
      ∀ c ∈ s.connections.values, (Codec.connection.write c).depth ≤ n := by
  rw [depth_toTree,Nat.succ_le_succ_iff]
  exact depth_listed _ _ _

section
variable {d : Listed} {s : Contents}

theorem mem_contents_models (found : d.contents = .ok s) {entry : String × ModelRecord}
    (member : entry ∈ s.models.entries) : entry.2.id = entry.1 ∧ entry.2 ∈ d.models := by
  rw [(Listed.contents_ok found).1] at member
  obtain ⟨r,listed,rfl⟩ := List.mem_map.mp (Keyed.mem_ofList member)
  exact ⟨rfl,listed⟩

theorem mem_contents_connections (found : d.contents = .ok s) {entry : ConnectionId × Connection}
    (member : entry ∈ s.connections.entries) : entry.2.id = entry.1 ∧ entry.2 ∈ d.connections := by
  rw [(Listed.contents_ok found).2.1] at member
  obtain ⟨c,listed,rfl⟩ := List.mem_map.mp (Keyed.mem_ofList member)
  exact ⟨rfl,listed⟩

theorem listed_tidy (found : d.contents = .ok s) : s.Tidy where
  models_keyed _ member := (mem_contents_models found member).1
  connections_keyed _ member := (mem_contents_connections found member).1
  next_first := by
    have above := (Listed.contents_ok found).2.2.2
    have least := d.highest.range
    omega
  next_above entry member := by
    obtain ⟨own,listed⟩ := mem_contents_connections found member
    have above := (Listed.contents_ok found).2.2.2
    have highest := Listed.le_highest listed
    rw [own] at highest
    omega

theorem listed_wellFormed (found : d.contents = .ok s) (nullFree : ∀ r ∈ d.models, r.NullFree) : s.WellFormed :=
  ⟨listed_tidy found,fun _ member => nullFree _ (mem_contents_models found member).2⟩

theorem contents_shallow (found : d.contents = .ok s) (shallow : (listed.write d).depth ≤ n + 2) :
    (toTree s).depth ≤ n + 2 := by
  obtain ⟨models,connections⟩ := (depth_listed _ _ _).mp (Nat.succ_le_succ_iff.mp shallow)
  refine (toTree_shallow s).mpr ⟨fun r member => ?_,fun c member => ?_⟩
  · obtain ⟨key,stored⟩ := Keyed.mem_values.mp member
    exact models r (mem_contents_models found stored).2
  · obtain ⟨key,stored⟩ := Keyed.mem_values.mp member
    exact connections c (mem_contents_connections found stored).2

end

theorem listed_faithful : listed.Faithful (fun d => ∀ r ∈ d.models, r.NullFree) 6 :=
  (Layout.codec_faithful _ listedLayout_lawful (fun _ => rfl) (fun _ => rfl)).restate (by simp)

@[simp] theorem decodeBytes_toUTF8 (text : String) : decodeBytes text.toUTF8 = decode text := by
  rw [decodeBytes,Node.readBytes_toUTF8,decode]

theorem decode_listed {found : Node × Bool} (decoded : decodeFrom found = .ok s) :
    ∃ d, listed.read .document found.1 = .ok d ∧ d.contents = .ok s := by
  simp only [decodeFrom,bind_ok] at decoded
  obtain ⟨v,-,decoded⟩ := decoded
  split at decoded
  · cases decoded
  · simp only [bind_ok,mapError_ok,Codec.readFrom_ok] at decoded
    obtain ⟨d,⟨read,-⟩,contents⟩ := decoded
    exact ⟨d,read,contents⟩

theorem decoded_tidy {found : Node × Bool} (decoded : decodeFrom found = .ok s) : s.Tidy := by
  obtain ⟨d,-,contents⟩ := decode_listed decoded
  exact listed_tidy contents

theorem reread_toTree (s : Contents) : ∃ models connections, Node.reread (toTree s) =
    .object [(some "version",.ofTree ((Codec.natural "u32" 4294967295).write version)),(some "models",models),
      (some "connections",connections),(some "next_connection_id",.ofTree (Codec.unsigned64.write s.nextId))] none := by
  refine ⟨Node.reread ((Codec.list Codec.modelRecord).write s.models.values),
    Node.reread ((Codec.list Codec.connection).write s.connections.values),?_⟩
  have first : Node.reread ((Codec.natural "u32" 4294967295).write version) =
      .ofTree ((Codec.natural "u32" 4294967295).write version) := Node.reread_exact _ (fun _ member => nomatch member)
  have last : Node.reread (Codec.unsigned64.write s.nextId) = .ofTree (Codec.unsigned64.write s.nextId) :=
    Node.reread_exact _ (fun _ member => nomatch member)
  rw [← first,← last]
  rfl

theorem counter_filled (s : Contents) (m : Medium) :
    let counter := Layout.field (.defaulted "next_connection_id" Codec.unsigned64 ConnectionId.unassigned) .done
    [(some "version",.ofTree ((Codec.natural "u32" 4294967295).write version)),
      (some "next_connection_id",.ofTree (Codec.unsigned64.write s.nextId))].foldlM (counter.fill m) counter.blank =
        .ok (some s.nextId,()) := by
  intro counter
  have written : Codec.unsigned64.read m (.ofTree (Codec.unsigned64.write s.nextId)) = .ok s.nextId :=
    ((Codec.integer_faithful ..).read_write m s.nextId trivial).trans (m.within_zero _)
  change ((Codec.unsigned64.read m _).map fun a => (some a,())) >>= pure = _
  rw [written]
  rfl

theorem counter_read {s : Contents} {d : Listed} (read : listed.read .document (.reread (toTree s)) = .ok d) :
    d.nextId = s.nextId := by
  obtain ⟨models,connections,same⟩ := reread_toTree s
  obtain ⟨⟨models',connections',nextId,_⟩,inside,rfl⟩ := map_ok.mp read
  rw [same] at inside
  simp only [Layout.read,bind_ok] at inside
  obtain ⟨inner,-,⟨slot,slot',slot'',_⟩,filled,_,_,settled⟩ := inside
  have behind := (Layout.fold_field (Layout.fold_field filled).1).1
  have counted := (counter_filled s inner).symm.trans behind
  cases counted
  cases slot <;> cases slot' <;> cases settled <;> rfl

-- However the reals of a document come back, the counter does not fall behind the one that was written.
theorem decode_encode_next {s s' : Contents} (decoded : decode (encode s) = .ok s') :
    s.nextId.value ≤ s'.nextId.value := by
  rw [decode,encode,Node.read_printed] at decoded
  obtain ⟨d,read,contents⟩ := decode_listed decoded
  rw [← counter_read read]
  exact (Listed.contents_ok contents).2.2.1

theorem decode_sound {found : Node × Bool} (decoded : decodeFrom found = .ok s) :
    s.WellFormed ∧ (toTree s).depth ≤ 127 := by
  obtain ⟨d,read,contents⟩ := decode_listed decoded
  have nullFree := listed_faithful.valid_read _ _ d read
  have shallow : (listed.write d).depth ≤ 125 + 2 :=
    listed_faithful.admits_read .document _ d read (by decide : 6 ≤ 127)
  exact ⟨listed_wellFormed contents nullFree,contents_shallow contents shallow⟩

end ModelCatalog.Store
