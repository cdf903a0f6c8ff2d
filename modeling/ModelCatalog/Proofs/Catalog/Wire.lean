import ModelCatalog.Catalog.Entry
import ModelCatalog.Proofs.Model.Wire
import ModelCatalog.Proofs.Provider.Patch

namespace ModelCatalog
open Ordered Json

def Origin.Within (o : Origin) : Prop := ∀ i ∈ o.indices, i ≤ Codec.maxSize

namespace Json

theorem Node.ofMembers_append (first second : List (String × Tree)) :
    Node.ofMembers (first ++ second) = Node.ofMembers first ++ Node.ofMembers second := by
  induction first with
  | nil => rfl
  | cons member rest ih => exact congrArg _ ih

namespace Layout

theorem fill?_known (m : Medium) (node : Node) :
    (l : Layout τ σ) → (slots : σ) → name ∈ l.names → ∃ filled, l.fill? m name node slots = some filled
  | .field f rest,(slot,slots),known => by
    by_cases own : name = f.name
    · exact ⟨_,if_pos own⟩
    · obtain ⟨filled,found⟩ := fill?_known m node rest slots ((List.mem_cons.mp known).resolve_left own)
      exact ⟨filled.map (slot,·),(if_neg own).trans (by rw [found]; rfl)⟩

theorem Lawful.fills {l : Layout τ σ} (lawful : l.Lawful valid floor) {values : τ} (ok : valid values)
    {members : List (String × Tree)} (distinct : (members.map (·.1)).Nodup)
    (carried : ∀ name ∈ l.names,
      Entries.find? name members = (Entries.find? name (l.write values)).map Tree.normalize) :
    ∃ slots, (Node.ofMembers members).foldlM (l.fill .tree) l.blank = .ok slots ∧ l.settle slots = .ok values :=
  bind_ok.mp ((fill_gathers distinct l lawful.names_distinct values).mpr
    (lawful.gathers handed_value ok trivial carried))

end Layout

namespace Codec
open Layout

def originNames : List String := singleOrigin.names ++ mergedOrigin.names

theorem singleOrigin_lawful : singleOrigin.Lawful (fun values => values.1 ≤ maxSize ∧ True) 1 := by
  have composed : singleOrigin.Composed _ 0 := .required size_faithful .done
  exact composed 1 (Nat.zero_le _) (by decide)

theorem mergedOrigin_lawful : mergedOrigin.Lawful (fun values => (∀ i ∈ values.1, i ≤ maxSize) ∧ True) 1 := by
  have composed : mergedOrigin.Composed _ 1 := .required (list_faithful size_faithful) .done
  exact composed 1 (Nat.le_refl _) (by decide)

theorem entryHead_lawful : entryHead.Lawful (fun _ => True ∧ True ∧ True ∧ True ∧ True) 1 := by
  have composed : entryHead.Composed _ 0 :=
    .required text_faithful <| .required text_faithful <| .required providerKind_faithful <|
      .required text_faithful .done
  exact composed 1 (Nat.zero_le _) (by decide)

theorem entryTail_lawful : entryTail.Lawful (fun _ => True ∧ True ∧ True) 1 := by
  have composed : entryTail.Composed _ 1 :=
    .nonempty (plain_list text_faithful) (fun _ => List.isEmpty_iff.mp) trivial <| .required value_faithful .done
  exact composed 1 (Nat.le_refl _) (by decide)

theorem originOf_within {members : List (Option String × Node)} (read : originOf members = .ok o) : o.Within := by
  unfold originOf at read
  dsimp only at read
  split at read
  · next index single =>
    cases read
    have fits := (singleOrigin_lawful.sound_read "Origin" .tree _ _ single).1.1
    intro i member
    cases List.mem_singleton.mp member
    exact fits
  · split at read
    · next indices merged =>
      cases read
      exact (mergedOrigin_lawful.sound_read "Origin" .tree _ _ merged).1.1
    · cases read

-- Whether a member is none of an entry's own.
def stray (name : String) : Bool := name ∉ entryHead.names ++ entryTail.names

def strays (members : List (String × Tree)) : List (String × Tree) := members.filter fun member => stray member.1

section
variable {s : EntrySlots} {t : Tree}

theorem fill_head (known : name ∈ entryHead.names) :
    s.fill .tree (some name,.ofTree t) =
      (entryHead.fill .tree s.head (some name,.ofTree t)).map fun head => { s with head } := by
  obtain ⟨outcome,found⟩ := fill?_known .tree (.ofTree t) entryHead s.head known
  rw [fill_named,found]
  simp only [EntrySlots.fill,Node.key,bind,Except.bind,found]
  cases outcome <;> rfl

theorem fill_tail (unknown : name ∉ entryHead.names) (known : name ∈ entryTail.names) :
    s.fill .tree (some name,.ofTree t) =
      (entryTail.fill .tree s.tail (some name,.ofTree t)).map fun tail => { s with tail } := by
  obtain ⟨outcome,found⟩ := fill?_known .tree (.ofTree t) entryTail s.tail known
  rw [fill_named,found]
  simp only [EntrySlots.fill,Node.key,bind,Except.bind,fill?_unknown .tree _ entryHead s.head unknown,found]
  cases outcome <;> rfl

theorem fill_stray (unknown : name ∉ entryHead.names) (unknown' : name ∉ entryTail.names) :
    s.fill .tree (some name,.ofTree t) = .ok { s with others := s.others ++ [(some name,.ofTree t)] } := by
  have complete : (Node.ofTree t).toTree .tree = .ok t := (Node.toTree_ofTree .tree t).trans (if_pos trivial)
  simp only [EntrySlots.fill,Node.key,bind,Except.bind,fill?_unknown .tree _ entryHead s.head unknown,
    fill?_unknown .tree _ entryTail s.tail unknown',complete]
  rfl

theorem fill_entry (filled : entryHead.fill .tree s.head (some name,.ofTree t) = .ok head)
    (filled' : entryTail.fill .tree s.tail (some name,.ofTree t) = .ok tail) :
    s.fill .tree (some name,.ofTree t) = .ok ⟨head,tail,s.others ++ Node.ofMembers (strays [(name,t)])⟩ := by
  have apart : ∀ name ∈ entryHead.names, name ∉ entryTail.names := by decide
  by_cases first : name ∈ entryHead.names
  · have own : stray name = false := decide_eq_false (not_not.mpr (List.mem_append_left _ first))
    cases (fill_unknown .tree s.tail t (apart name first)).symm.trans filled'
    rw [fill_head first,filled]
    simp [Except.map,strays,own,Node.ofMembers]
  by_cases second : name ∈ entryTail.names
  · have own : stray name = false := decide_eq_false (not_not.mpr (List.mem_append_right _ second))
    cases (fill_unknown .tree s.head t first).symm.trans filled
    rw [fill_tail first second,filled']
    simp [Except.map,strays,own,Node.ofMembers]
  · have other : stray name = true := decide_eq_true fun own => (List.mem_append.mp own).elim first second
    cases (fill_unknown .tree s.head t first).symm.trans filled
    cases (fill_unknown .tree s.tail t second).symm.trans filled'
    rw [fill_stray first second]
    simp [strays,other,Node.ofMembers]

end

-- Reading an entry is reading what stands before its origin, what stands behind it, and what is kept, each by itself.
theorem fold_entry {members : List (String × Tree)} {s : EntrySlots}
    (filled : (Node.ofMembers members).foldlM (entryHead.fill .tree) s.head = .ok head)
    (filled' : (Node.ofMembers members).foldlM (entryTail.fill .tree) s.tail = .ok tail) :
    (Node.ofMembers members).foldlM (EntrySlots.fill .tree) s =
      .ok ⟨head,tail,s.others ++ Node.ofMembers (strays members)⟩ := by
  induction members generalizing s with
  | nil =>
    cases filled
    cases filled'
    simp [strays,Node.ofMembers,pure,Except.pure]
  | cons member rest ih =>
    obtain ⟨name,t⟩ := member
    rw [Node.ofMembers,List.foldlM_cons] at filled filled'
    obtain ⟨head₁,first,others⟩ := bind_ok.mp filled
    obtain ⟨tail₁,first',others'⟩ := bind_ok.mp filled'
    rw [Node.ofMembers,List.foldlM_cons]
    refine bind_ok.mpr ⟨_,fill_entry first first',(ih others others').trans ?_⟩
    dsimp only
    rw [List.append_assoc,← Node.ofMembers_append,strays,strays,strays,← List.filter_append,List.singleton_append]

def entryHeadOf (e : CatalogEntry) : String × String × ProviderKind × String × Unit :=
  (e.id,e.name,e.ownedBy,e.label,())

def entryTailOf (e : CatalogEntry) : List String × Value × Unit := (e.tags,e.raw,())

def entryMembers (e : CatalogEntry) : List (String × Tree) :=
  entryHead.write (entryHeadOf e) ++ originMembers e.origin ++ entryTail.write (entryTailOf e)

theorem originMembers_names (o : Origin) : ((originMembers o).map (·.1)).Sublist originNames := by
  cases o with
  | single index => exact (List.sublist_append_left ..)
  | merged indices => exact (List.sublist_append_right ..)

theorem entryMembers_distinct (e : CatalogEntry) : ((entryMembers e).map (·.1)).Nodup := by
  have names : (entryHead.names ++ originNames ++ entryTail.names).Nodup := by decide
  refine names.sublist ?_
  rw [entryMembers,List.map_append,List.map_append]
  exact ((write_sublist entryHead _).append (originMembers_names e.origin)).append (write_sublist entryTail _)

theorem find?_elsewhere {members : List (String × Tree)} {names : List String}
    (written : (members.map (·.1)).Sublist names) (other : name ∉ names) : Entries.find? name members = none :=
  Entries.find?_eq_none.mpr fun member found same => other (written.subset (List.mem_map.mpr ⟨member,found,same⟩))

theorem find?_entry (e : CatalogEntry) (name : String) :
    Entries.find? name (Keyed.ofList (Tree.normalizeMembers (entryMembers e))).entries =
      ((Entries.find? name (entryHead.write (entryHeadOf e))).or ((Entries.find? name (originMembers e.origin)).or
        (Entries.find? name (entryTail.write (entryTailOf e))))).map Tree.normalize := by
  rw [find?_normalized (entryMembers_distinct e),entryMembers,Entries.find?_append,Entries.find?_append,Option.or_assoc]

-- An origin comes back from members that hold what was written for it: a single position is found first, and a list of
-- them is not taken for one.
theorem originOf_carried {o : Origin} (within : o.Within) {members : List (String × Tree)}
    (distinct : (members.map (·.1)).Nodup)
    (carried : ∀ name ∈ originNames,
      Entries.find? name members = (Entries.find? name (originMembers o)).map Tree.normalize) :
    originOf (Node.ofMembers members) = .ok o := by
  cases o with
  | single index =>
    have fits := within index List.mem_cons_self
    have read : singleOrigin.read "Origin" .tree (.object (Node.ofMembers members) none) = .ok (index,()) :=
      singleOrigin_lawful.read_carried "Origin" ⟨fits,trivial⟩ distinct fun name known =>
        carried name (List.mem_append_left _ known)
    rw [originOf,read]
  | merged indices =>
    have fits : ∀ i ∈ ((indices,()) : List Nat × Unit).1, i ≤ maxSize := within
    have read : mergedOrigin.read "Origin" .tree (.object (Node.ofMembers members) none) = .ok (indices,()) :=
      mergedOrigin_lawful.read_carried "Origin" ⟨fits,trivial⟩ distinct fun name known =>
        carried name (List.mem_append_right _ known)
    cases single : singleOrigin.read "Origin" .tree (.object (Node.ofMembers members) none) with
    | ok values =>
      obtain ⟨⟨slot,filled,taken⟩,-⟩ := gathered_field.mp
        ((read_gathers distinct singleOrigin_lawful.names_distinct "Origin" values).mp single)
      have absent : Entries.find? "url_idx" members = none := carried "url_idx" List.mem_cons_self
      rw [show (Field.required "url_idx" size).name = "url_idx" from rfl,absent] at filled
      cases filled
      cases taken
    | error fault => rw [originOf,single,read]

theorem entry_read (e : CatalogEntry) (within : e.origin.Within) :
    catalogEntry.readTree (catalogEntry.write e).normalize = .ok e := by
  have apart : (∀ name ∈ entryHead.names, name ∉ originNames ∧ name ∉ entryTail.names) ∧
      (∀ name ∈ originNames, name ∉ entryHead.names ∧ name ∉ entryTail.names) ∧
      ∀ name ∈ entryTail.names, name ∉ entryHead.names ∧ name ∉ originNames := by decide
  obtain ⟨heads,origins,tails⟩ := apart
  have written := find?_entry e
  have distinct := Keyed.keys_distinct (Keyed.ofList (Tree.normalizeMembers (entryMembers e)))
  change catalogEntry.read .tree
    (.object (Node.ofMembers (Keyed.ofList (Tree.normalizeMembers (entryMembers e))).entries) none) = _
  generalize (Keyed.ofList (Tree.normalizeMembers (entryMembers e))).entries = members at written distinct
  obtain ⟨slots,filled,settled⟩ := entryHead_lawful.fills (by simp) distinct fun name known => by
    obtain ⟨unkept,behind⟩ := heads name known
    rw [written,find?_elsewhere (originMembers_names _) unkept,find?_elsewhere (write_sublist entryTail _) behind,
      Option.or_none,Option.or_none]
  obtain ⟨slots',filled',settled'⟩ := entryTail_lawful.fills (by simp) distinct fun name known => by
    obtain ⟨before,unkept⟩ := tails name known
    rw [written,find?_elsewhere (originMembers_names _) unkept,find?_elsewhere (write_sublist entryHead _) before,
      Option.none_or,Option.none_or]
  have origin : originOf (Node.ofMembers (strays members)) = .ok e.origin := by
    refine originOf_carried within ?_ fun name known => ?_
    · exact distinct.sublist (List.filter_sublist.map _)
    · obtain ⟨before,behind⟩ := origins name known
      have kept : stray name = true := decide_eq_true fun own => (List.mem_append.mp own).elim before behind
      rw [strays,Entries.find?_filter stray,if_pos kept,written,find?_elsewhere (write_sublist entryHead _) before,
        find?_elsewhere (write_sublist entryTail _) behind,Option.none_or,Option.or_none]
  have filling := fold_entry (s := {}) filled filled'
  refine bind_ok.mpr ⟨.tree,rfl,bind_ok.mpr ⟨_,filling,bind_ok.mpr ⟨(),rfl,bind_ok.mpr ⟨_,settled,?_⟩⟩⟩⟩
  exact bind_ok.mpr ⟨_,settled',bind_ok.mpr ⟨_,origin,rfl⟩⟩

theorem catalogEntry_within {m : Medium} {node : Node} (read : catalogEntry.read m node = .ok e) : e.origin.Within := by
  simp only [catalogEntry] at read
  split at read
  · obtain ⟨_,-,read⟩ := bind_ok.mp read
    obtain ⟨slots,-,read⟩ := bind_ok.mp read
    obtain ⟨_,-,read⟩ := bind_ok.mp read
    obtain ⟨_,-,read⟩ := bind_ok.mp read
    obtain ⟨_,-,read⟩ := bind_ok.mp read
    obtain ⟨o,found,made⟩ := bind_ok.mp read
    cases made
    exact originOf_within found
  · cases read

theorem catalogEntry_returns : catalogEntry.Returns (·.origin.Within) where
  reads_iff e := by
    constructor
    · rintro ⟨m,node,read⟩
      exact catalogEntry_within read
    · intro within
      exact ⟨.tree,_,entry_read e within⟩
  back := by
    rintro e ⟨m,node,read⟩
    exact entry_read e (catalogEntry_within read)

end Codec
end Json

open Codec

-- What crosses the wire comes back as it was: the origin of an entry in its form, a patch with the fields that it sets
-- and no others, access control with the rules that it has. What crosses it are all values but those whose counts do not
-- fit 64 bits, or whose optional free JSON is null.
theorem wire_types_return :
    (catalogEntry.Returns (·.origin.Within) ∧ connectionPatch.Returns (fun _ => True) ∧
      connectionForm.Returns (fun _ => True) ∧ modelForm.Returns ModelForm.NullFree ∧
      modelFilter.Returns (fun f => ∀ page, f.page = some page → page ≤ maxSize) ∧
      accessControl.Returns (fun _ => True) ∧
      modelPage.Returns fun page => (∀ r ∈ page.items, r.NullFree) ∧ page.total ≤ maxSize) ∧
    (∀ e e', catalogEntry.Reads e → catalogEntry.ofValue (catalogEntry.toValue e) = .ok e' →
      (∀ i, e.origin = .single i → e'.origin = .single i) ∧ ∀ is, e.origin = .merged is → e'.origin = .merged is) ∧
    (∀ p p', connectionPatch.Reads p → connectionPatch.ofValue (connectionPatch.toValue p) = .ok p' →
      ∀ a, p.value? a = none → p'.value? a = none) ∧
    ∀ access access', accessControl.Reads access → accessControl.ofValue (accessControl.toValue access) = .ok access' →
      (access.read = none → access'.read = none) ∧ (access.write = none → access'.write = none) := by
  have patches := connectionPatch_faithful.returns
  have accesses := accessControl_faithful.returns
  refine ⟨⟨catalogEntry_returns,patches,connectionForm_faithful.returns,modelForm_faithful.returns,
    modelFilter_faithful.returns,accesses,modelPage_faithful.returns⟩,?_,?_,?_⟩
  · intro e e' reads back
    cases (catalogEntry_returns.back e reads).symm.trans back
    exact ⟨fun _ => id,fun _ => id⟩
  · intro p p' reads back a
    cases (patches.back p reads).symm.trans back
    exact id
  · intro access access' reads back
    cases (accesses.back access reads).symm.trans back
    exact ⟨id,id⟩

-- An entry with a list of positions, a member of no field and a value whose keys are out of order.
def mergedText : String :=
  "\x7b\"x\":[],\"urls\":[2,0],\"id\":\"m\",\"name\":\"M\",\"owned_by\":\"openai\",\"connection_type\":\"external\"," ++
    "\"raw\":\x7b\"b\":1,\"a\":null\x7d\x7d"

-- A patch that says null for one field and leaves out most others, and access control with one rule.
def patchText : String := "\x7b\"name\":null,\"enable\":false\x7d"
def accessText : String := "\x7b\"read\":\x7b\x7d\x7d"

theorem merged_entry_returns :
    (∃ e, catalogEntry.readText mergedText = .ok e ∧ e.origin = .merged [2,0] ∧
      catalogEntry.ofValue (catalogEntry.toValue e) = .ok e) ∧
    (∃ p, connectionPatch.readText patchText = .ok p ∧ p = { enabled := some false } ∧
      connectionPatch.ofValue (connectionPatch.toValue p) = .ok p) ∧
    ∃ access, accessControl.readText accessText = .ok access ∧ access.write = none ∧
      accessControl.ofValue (accessControl.toValue access) = .ok access := by
  obtain ⟨⟨entries,patches,-,-,-,accesses,-⟩,-⟩ := wire_types_return
  have merged : ((catalogEntry.readText mergedText).toOption.map CatalogEntry.origin) = some (.merged [2,0]) := by
    decide +kernel
  have patched : (connectionPatch.readText patchText).toOption = some { enabled := some false } := by decide +kernel
  have ruled : ((accessControl.readText accessText).toOption.map AccessControl.write) = some none := by decide +kernel
  obtain ⟨e,read,origin⟩ := Option.map_eq_some_iff.mp merged
  obtain ⟨access,read',absent⟩ := Option.map_eq_some_iff.mp ruled
  have first := ok_of_toOption read
  have second := ok_of_toOption patched
  have third := ok_of_toOption read'
  exact ⟨⟨e,first,origin,entries.back e (reads_text first)⟩,⟨_,second,rfl,patches.back _ (reads_text second)⟩,
    ⟨access,third,absent,accesses.back access (reads_text third)⟩⟩

end ModelCatalog
