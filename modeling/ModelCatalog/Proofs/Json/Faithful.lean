import ModelCatalog.Proofs.Json.Document
import ModelCatalog.Proofs.Json.Nesting

namespace ModelCatalog.Json
open Ordered Decimal

theorem bind_ok {x : Except ε α} {f : α → Except ε β} : (x >>= f) = .ok b ↔ ∃ a, x = .ok a ∧ f a = .ok b := by
  cases x <;> simp [bind,Except.bind]

theorem pure_ok {a b : α} : (pure a : Except ε α) = .ok b ↔ a = b := by simp [pure,Except.pure]

theorem map_ok {x : Except ε α} {f : α → β} : x.map f = .ok b ↔ ∃ a, x = .ok a ∧ f a = b := by
  cases x <;> simp [Except.map]

theorem mapError_ok {x : Except ε α} {f : ε → ε'} : x.mapError f = .ok a ↔ x = .ok a := by
  cases x <;> simp [Except.mapError]

theorem ok_of_toOption {e : Except ε α} (same : e.toOption = some a) : e = .ok a := by
  cases e with
  | ok b => exact congrArg Except.ok (Option.some.inj same)
  | error e => cases same

theorem Codec.readFrom_ok {c : Codec α} {found : Node × Bool} :
    c.readFrom found = .ok a ↔ c.read .document found.1 = .ok a ∧ found.2 = true := by
  simp only [readFrom,bind_ok]
  constructor
  · rintro ⟨b,read,clean⟩
    split at clean
    · next whole =>
      cases clean
      exact ⟨read,whole⟩
    · cases clean
  · rintro ⟨read,clean⟩
    exact ⟨a,read,if_pos clean⟩

theorem Codec.readText_ok {c : Codec α} {text : String} :
    c.readText text = .ok a ↔ c.read .document (Node.read text).1 = .ok a ∧ (Node.read text).2 = true := readFrom_ok

namespace Node

mutual
theorem admits_toTree : (m : Medium) → (node : Node) → (t : Tree) → node.toTree m = .ok t → m.Admits t.depth
  | m,.null,_,rfl | m,.bool _,_,rfl | m,.number (some _),_,rfl | m,.text (some _),_,rfl => m.admits_zero
  | m,.array items closed,t,read => by
    simp only [toTree,bind_ok,pure_ok] at read
    obtain ⟨inner,entered,trees,inside,-,-,rfl⟩ := read
    exact (Medium.admits_enter entered).mpr (admits_itemsToTrees inner items trees inside)
  | m,.object members stop,t,read => by
    simp only [toTree,bind_ok,pure_ok] at read
    obtain ⟨inner,entered,trees,inside,-,-,rfl⟩ := read
    exact (Medium.admits_enter entered).mpr (admits_membersToTrees inner members trees inside)

theorem admits_itemsToTrees : (m : Medium) → (items : List Node) → (trees : List Tree) →
    itemsToTrees m items = .ok trees → m.Admits (Tree.itemDepth trees)
  | m,[],_,rfl => m.admits_zero
  | m,item :: rest,trees,read => by
    simp only [itemsToTrees,bind_ok,pure_ok] at read
    obtain ⟨tree,first,others,inside,rfl⟩ := read
    exact Medium.admits_max.mpr ⟨admits_toTree m item tree first,admits_itemsToTrees m rest others inside⟩

theorem admits_membersToTrees : (m : Medium) → (members : List (Option String × Node)) →
    (trees : List (String × Tree)) → membersToTrees m members = .ok trees → m.Admits (Tree.memberDepth trees)
  | m,[],_,rfl => m.admits_zero
  | m,(some key,item) :: rest,trees,read => by
    simp only [membersToTrees,bind_ok,pure_ok] at read
    obtain ⟨tree,first,others,inside,rfl⟩ := read
    exact Medium.admits_max.mpr ⟨admits_toTree m item tree first,admits_membersToTrees m rest others inside⟩
end

end Node

namespace Codec
variable {α β : Type} {c : Codec α} {valid valid' : α → Prop} {floor floor' : Nat}

-- What is written reads back, exactly where the medium has room for it, and as a value too, whose members stand in
-- another order; what is read is valid, and where the medium has room for the codec's own containers, it has room for
-- what is read as well.
structure Faithful (c : Codec α) (valid : α → Prop) (floor : Nat) : Prop where
  read_write : ∀ m a, valid a → c.read m (.ofTree (c.write a)) = m.within (c.write a).depth a
  read_value : ∀ a, valid a → c.readTree (c.write a).normalize = .ok a
  valid_read : ∀ m node a, c.read m node = .ok a → valid a
  admits_read : ∀ m node a, c.read m node = .ok a → m.Admits floor → m.Admits (c.write a).depth

def Reads (c : Codec α) (a : α) : Prop := ∃ m node, c.read m node = .ok a

theorem reads_text {text : String} (read : c.readText text = .ok a) : c.Reads a :=
  ⟨.document,(Node.read text).1,(readText_ok.mp read).1⟩

theorem Faithful.valid_reads (faithful : Faithful c valid floor) (reads : c.Reads a) : valid a := by
  obtain ⟨m,node,read⟩ := reads
  exact faithful.valid_read m node a read

theorem Faithful.reads_valid (faithful : Faithful c valid floor) (ok : valid a) : c.Reads a :=
  ⟨.tree,.ofTree (c.write a),faithful.read_write .tree a ok⟩

theorem Faithful.readText_pretty (faithful : Faithful c valid floor) (ok : valid a) (exact : (c.write a).Exact)
    (shallow : (c.write a).depth ≤ 127) : c.readText (c.write a).pretty = .ok a := by
  rw [readText_ok,Node.read_pretty _ exact]
  refine ⟨?_,rfl⟩
  rw [faithful.read_write .document a ok]
  exact if_pos shallow

-- A valid value is never written as null, so that an optional one can be told from none.
def Solid (c : Codec α) (valid : α → Prop) : Prop := ∀ a, valid a → c.write a ≠ .null

theorem Faithful.congr (faithful : Faithful c valid floor) (same : ∀ a, valid a ↔ valid' a) (less : floor ≤ floor') :
    Faithful c valid' floor' where
  read_write m a ok := faithful.read_write m a ((same a).mpr ok)
  read_value a ok := faithful.read_value a ((same a).mpr ok)
  valid_read m node a read := (same a).mp (faithful.valid_read m node a read)
  admits_read m node a read room := faithful.admits_read m node a read (room.mono less)

theorem Faithful.restate (faithful : Faithful c valid floor) (same : ∀ a, valid a ↔ valid' a) :
    Faithful c valid' floor := faithful.congr same (Nat.le_refl _)

theorem bool_faithful : bool.Faithful (fun _ => True) 0 where
  read_write m b _ := (m.within_zero b).symm
  read_value _ _ := rfl
  valid_read _ _ _ _ := trivial
  admits_read m _ _ _ _ := m.admits_zero

theorem text_faithful : text.Faithful (fun _ => True) 0 where
  read_write m s _ := (m.within_zero s).symm
  read_value _ _ := rfl
  valid_read _ _ _ _ := trivial
  admits_read m _ _ _ _ := m.admits_zero

theorem real_faithful : real.Faithful (fun _ => True) 0 where
  read_write m x _ := (m.within_zero x).symm
  read_value _ _ := rfl
  valid_read _ _ _ _ := trivial
  admits_read m _ _ _ _ := m.admits_zero

theorem integer_faithful (type : String) (low high : Int) (lowRange : Integral low) (highRange : Integral high) :
    (integer type low high lowRange highRange).Faithful (fun _ => True) 0 where
  read_write m a _ := by
    simp [integer,Node.ofTree,Bounded.ofInt?,a.range,Tree.depth,m.within_zero]
  read_value a _ := by
    simp [readTree,integer,Tree.normalize,Node.ofTree,Bounded.ofInt?,a.range]
  valid_read _ _ _ _ := trivial
  admits_read m _ _ _ _ := m.admits_zero

theorem natural_faithful (type : String) (high : Nat) (range : high < 18446744073709551616) :
    (natural type high range).Faithful (· ≤ high) 0 where
  read_write m n fits := by
    simp [natural,Node.ofTree,Number.ofNat,Tree.depth,m.within_zero,fits]
  read_value n fits := by
    simp [readTree,natural,Tree.normalize,Node.ofTree,Number.ofNat,fits]
  valid_read m node n read := by
    simp only [natural] at read
    split at read
    · split at read
      · next bounds => cases read; omega
      · cases read
    · cases read
  admits_read m _ _ _ _ := m.admits_zero

theorem value_read (m : Medium) (t : Tree) : value.read m (.ofTree t) = m.within t.depth (Value.ofTree t) := by
  simp only [value,Node.toTree_ofTree,Medium.map_within]

theorem value_faithful : value.Faithful (fun _ => True) 0 where
  read_write m v _ := by
    rw [value_read]
    exact congrArg _ (Value.ofTree_tree v)
  read_value v _ := by
    rw [readTree,value_read]
    refine congrArg Except.ok ?_
    change Value.ofTree v.tree.normalize = v
    rw [Tree.normalize_canonical v.tree v.canonical,Value.ofTree_tree]
  valid_read _ _ _ _ := trivial
  admits_read m node v read _ := by
    obtain ⟨tree,inside,rfl⟩ := map_ok.mp read
    exact (Node.admits_toTree m node tree inside).mono (Tree.depth_normalize tree)

theorem ofTree_null (t : Tree) : Node.ofTree t = .null ↔ t = .null := by
  cases t <;> simp [Node.ofTree]

theorem option_read (c : Codec α) (m : Medium) (node : Node) (some : node ≠ .null) :
    c.option.read m node = (c.read m node).map .some := by
  cases node <;> first | rfl | exact absurd rfl some

-- Null reads as no value: a codec that reads null as one of its values is faithful on the others.
theorem option_nonnull (faithful : Faithful c valid floor) (within : ∀ a, valid' a → valid a) (solid : c.Solid valid')
    (present : ∀ m node a, node ≠ .null → c.read m node = .ok a → valid' a) :
    c.option.Faithful (fun a => ∀ b, a = some b → valid' b) floor where
  read_write m a ok := by
    cases a with
    | none => exact (m.within_zero _).symm
    | some b =>
      have written : Node.ofTree (c.write b) ≠ .null := mt (ofTree_null _).mp (solid b (ok b rfl))
      have whole := option_read c m _ written
      rw [faithful.read_write m b (within b (ok b rfl)),Medium.map_within] at whole
      exact whole
  read_value a ok := by
    cases a with
    | none => rfl
    | some b =>
      have written : Node.ofTree (c.write b).normalize ≠ .null := by
        rw [Ne,ofTree_null,Tree.normalize_null]
        exact solid b (ok b rfl)
      have read := faithful.read_value b (within b (ok b rfl))
      exact (option_read c .tree _ written).trans (congrArg (Except.map some) read)
  valid_read m node a read := by
    rintro b rfl
    by_cases empty : node = .null
    · subst empty; cases read
    · rw [option_read c m node empty,map_ok] at read
      obtain ⟨b,inside,same⟩ := read
      cases same
      exact present m node b empty inside
  admits_read m node a read room := by
    by_cases empty : node = .null
    · subst empty; cases read; exact m.admits_zero
    · rw [option_read c m node empty,map_ok] at read
      obtain ⟨b,inside,rfl⟩ := read
      exact faithful.admits_read m node b inside room

theorem option_faithful (faithful : Faithful c valid floor) (solid : c.Solid valid) :
    c.option.Faithful (fun a => ∀ b, a = some b → valid b) floor :=
  option_nonnull faithful (fun _ ok => ok) solid fun m node a _ => faithful.valid_read m node a

theorem mem_mapM {f : β → Except Fault α} {items : List β} {as : List α} (read : items.mapM f = .ok as) :
    ∀ a ∈ as, ∃ item ∈ items, f item = .ok a := by
  induction items generalizing as with
  | nil =>
    rw [List.mapM_nil,pure_ok] at read
    subst read
    intro a member
    cases member
  | cons item rest ih =>
    simp only [List.mapM_cons,bind_ok,pure_ok] at read
    obtain ⟨first,head,others,tail,rfl⟩ := read
    intro a member
    rcases List.mem_cons.mp member with rfl | member
    · exact ⟨item,List.mem_cons_self,head⟩
    · obtain ⟨source,found,same⟩ := ih tail a member
      exact ⟨source,List.mem_cons_of_mem _ found,same⟩

theorem mapM_ofItems (tree : β → Tree) (f : β → α) (m : Medium) (items : List β)
    (each : ∀ b ∈ items, c.read m (.ofTree (tree b)) = m.within (tree b).depth (f b)) :
    (Node.ofItems (items.map tree)).mapM (c.read m) = m.within (Tree.itemDepth (items.map tree)) (items.map f) := by
  induction items with
  | nil => exact (m.within_zero _).symm
  | cons b rest ih =>
    have others := ih fun b member => each b (List.mem_cons_of_mem _ member)
    rw [List.map_cons,Node.ofItems,List.mapM_cons,each b List.mem_cons_self,others]
    refine m.within_bind _ _ _ _ _ ?_
    exact m.within_ok _ _ _ _ rfl

theorem list_ofItems (tree : β → Tree) (f : β → α) (items : List β)
    (each : ∀ m, ∀ b ∈ items, c.read m (.ofTree (tree b)) = m.within (tree b).depth (f b)) (m : Medium) :
    (list c).read m (.ofTree (.array (items.map tree))) = m.within (Tree.itemDepth (items.map tree) + 1) (items.map f) := by
  refine m.enter_within _ _ _ fun inner _ => ?_
  rw [mapM_ofItems tree f inner items (each inner)]
  exact inner.within_ok _ _ _ _ rfl

theorem list_read (read : (list c).read m node = .ok as) :
    ∃ (inner : Medium) (items : List Node), m.enter = .ok inner ∧ items.mapM (c.read inner) = .ok as := by
  simp only [list] at read
  split at read
  · next items closed =>
    simp only [bind_ok,pure_ok] at read
    obtain ⟨inner,entered,_,inside,-,-,rfl⟩ := read
    exact ⟨inner,items,entered,inside⟩
  · cases read

theorem list_faithful (faithful : Faithful c valid floor) :
    (list c).Faithful (fun as => ∀ a ∈ as, valid a) (floor + 1) where
  read_write m as ok := by
    have read := list_ofItems c.write id as (fun m a member => faithful.read_write m a (ok a member)) m
    rwa [List.map_id] at read
  read_value as ok := by
    have read := mapM_ofItems (fun a => (c.write a).normalize) id .tree as fun a member => faithful.read_value a (ok a member)
    rw [List.map_id] at read
    change (Node.ofItems (Tree.normalizeItems (as.map c.write))).mapM (c.read .tree) >>= Except.ok = _
    rw [Tree.normalizeItems_eq,List.map_map]
    exact bind_ok.mpr ⟨as,read,rfl⟩
  valid_read m node as read := by
    obtain ⟨inner,items,-,inside⟩ := list_read read
    intro a member
    obtain ⟨item,-,same⟩ := mem_mapM inside a member
    exact faithful.valid_read inner item a same
  admits_read m node as read room := by
    obtain ⟨inner,items,entered,inside⟩ := list_read read
    have room := (Medium.admits_enter entered).mp room
    refine (Medium.admits_enter entered).mpr (Medium.admits_items.mpr fun tree written => ?_)
    obtain ⟨a,member,rfl⟩ := List.mem_map.mp written
    obtain ⟨item,-,same⟩ := mem_mapM inside a member
    exact faithful.admits_read inner item a same room

theorem set_faithful : set.Faithful (fun _ => True) 1 where
  read_write m s _ := by
    have whole := (list_faithful text_faithful).read_write m s.toList (fun _ _ => trivial)
    have back := congrArg (Except.map KeySet.ofList) whole
    rwa [Medium.map_within,KeySet.ofList_toList] at back
  read_value s _ := by
    have whole := (list_faithful text_faithful).read_value s.toList (fun _ _ => trivial)
    have back := congrArg (Except.map KeySet.ofList) whole
    change _ = Except.ok (KeySet.ofList s.toList) at back
    rwa [KeySet.ofList_toList] at back
  valid_read _ _ _ _ := trivial
  admits_read m node s _ room := by
    refine room.mono (Nat.succ_le_succ (Tree.itemDepth_le.mpr fun tree written => ?_))
    obtain ⟨a,-,rfl⟩ := List.mem_map.mp written
    exact Nat.le_refl _

def entry (c : Codec α) (m : Medium) (member : Option String × Node) : Except Fault (String × α) := do
  return (← Node.key member.1,← c.read m member.2)

theorem map_read (read : (map c).read m node = .ok kept) :
    ∃ (inner : Medium) (members : List (Option String × Node)) (entries : List (String × α)),
      m.enter = .ok inner ∧ members.mapM (entry c inner) = .ok entries ∧ kept = Keyed.ofList entries := by
  simp only [map] at read
  split at read
  · next members stop =>
    simp only [bind_ok,pure_ok] at read
    obtain ⟨inner,entered,entries,inside,-,-,rfl⟩ := read
    exact ⟨inner,members,entries,entered,inside,rfl⟩
  · cases read

theorem entries_ofMembers (tree : β → Tree) (f : β → α) (m : Medium) (entries : List (String × β))
    (each : ∀ pair ∈ entries, c.read m (.ofTree (tree pair.2)) = m.within (tree pair.2).depth (f pair.2)) :
    (Node.ofMembers (entries.map fun pair => (pair.1,tree pair.2))).mapM (entry c m) =
      m.within (Tree.memberDepth (entries.map fun pair => (pair.1,tree pair.2)))
        (entries.map fun pair => (pair.1,f pair.2)) := by
  induction entries with
  | nil => exact (m.within_zero _).symm
  | cons head rest ih =>
    have others := ih fun pair member => each pair (List.mem_cons_of_mem _ member)
    have first : entry c m (some head.1,.ofTree (tree head.2)) = m.within (tree head.2).depth (head.1,f head.2) := by
      simp only [entry,Node.key,each head List.mem_cons_self]
      exact m.within_ok _ _ _ _ rfl
    rw [List.map_cons,Node.ofMembers,List.mapM_cons,first,others]
    refine m.within_bind _ _ _ _ _ ?_
    exact m.within_ok _ _ _ _ rfl

theorem map_ofMembers (tree : β → Tree) (f : β → α) (entries : List (String × β))
    (each : ∀ m, ∀ pair ∈ entries, c.read m (.ofTree (tree pair.2)) = m.within (tree pair.2).depth (f pair.2))
    (m : Medium) :
    (map c).read m (.ofTree (.object (entries.map fun pair => (pair.1,tree pair.2)))) =
      m.within (Tree.memberDepth (entries.map fun pair => (pair.1,tree pair.2)) + 1)
        (Keyed.ofList (entries.map fun pair => (pair.1,f pair.2))) := by
  refine m.enter_within _ _ _ fun inner _ => ?_
  change ((Node.ofMembers (entries.map fun pair => (pair.1,tree pair.2))).mapM (entry c inner) >>=
    fun entries => Except.ok (Keyed.ofList entries)) = _
  rw [entries_ofMembers tree f inner entries (each inner)]
  exact inner.within_ok _ _ _ _ rfl

theorem map_faithful (faithful : Faithful c valid floor) :
    (map c).Faithful (fun kept => ∀ entry ∈ kept.entries, valid entry.2) (floor + 1) where
  read_write m kept ok := by
    have read := map_ofMembers c.write id kept.entries (fun m pair member => faithful.read_write m pair.2 (ok pair member)) m
    change _ = m.within _ (Keyed.ofList (kept.entries.map id)) at read
    rwa [List.map_id,Keyed.ofList_entries] at read
  read_value kept ok := by
    -- Members of a value stand in the order of their keys, as the entries of a map do.
    have sorted : Ascending (Tree.normalizeMembers (kept.map c.write).entries) := by
      rw [Tree.normalizeMembers_eq]
      exact List.pairwise_map.mpr (kept.map c.write).sorted
    have written : (Tree.object (kept.map c.write).entries).normalize =
        .object (kept.entries.map fun pair => (pair.1,(c.write pair.2).normalize)) := by
      rw [Tree.normalize,Keyed.ofList_ascending sorted,Tree.normalizeMembers_eq,Keyed.map,List.map_map]
      rfl
    have read := entries_ofMembers (fun a => (c.write a).normalize) id .tree kept.entries fun pair member =>
      faithful.read_value pair.2 (ok pair member)
    change _ = Except.ok (kept.entries.map id) at read
    rw [List.map_id] at read
    change (map c).read .tree (.ofTree (Tree.object (kept.map c.write).entries).normalize) = _
    rw [written]
    refine bind_ok.mpr ⟨.tree,rfl,bind_ok.mpr ⟨kept.entries,read,?_⟩⟩
    exact congrArg Except.ok (Keyed.ofList_entries kept)
  valid_read m node kept read := by
    obtain ⟨inner,members,entries,-,inside,rfl⟩ := map_read read
    intro pair member
    obtain ⟨source,-,same⟩ := mem_mapM inside pair (Keyed.mem_ofList member)
    simp only [entry,bind_ok,pure_ok] at same
    obtain ⟨_,_,a,from',rfl⟩ := same
    exact faithful.valid_read inner source.2 a from'
  admits_read m node kept read room := by
    obtain ⟨inner,members,entries,entered,inside,rfl⟩ := map_read read
    have room := (Medium.admits_enter entered).mp room
    refine (Medium.admits_enter entered).mpr (Medium.admits_members.mpr fun tree written => ?_)
    obtain ⟨pair,member,rfl⟩ := List.mem_map.mp written
    obtain ⟨source,-,same⟩ := mem_mapM inside pair (Keyed.mem_ofList member)
    simp only [entry,bind_ok,pure_ok] at same
    obtain ⟨_,_,a,from',rfl⟩ := same
    exact faithful.admits_read inner source.2 a from' room

theorem extensions_read (m : Medium) (members : List (String × Tree)) :
    extensions.read m (.ofTree (.object members)) =
      m.within (Tree.memberDepth members + 1) (.ofList (members.map fun member => (member.1,.ofTree member.2))) := by
  have read := map_ofMembers (c := value) id Value.ofTree members (fun m member _ => value_read m member.2) m
  change (map value).read m (.ofTree (.object (members.map id))) = m.within (Tree.memberDepth (members.map id) + 1) _ at read
  rwa [List.map_id] at read

theorem extensions_faithful : extensions.Faithful (fun _ => True) 1 :=
  (map_faithful value_faithful).congr (fun _ => ⟨fun _ => trivial,fun _ _ _ => trivial⟩) (Nat.le_refl _)

theorem enumeration_faithful (values : List α) (name : α → String)
    (named : ∀ a, named? values name (name a) = some a) :
    (enumeration values name).Faithful (fun _ => True) 0 where
  read_write m a _ := by
    cases m <;> simp [enumeration,Node.ofTree,named a,Tree.depth,Medium.within_zero]
  read_value a _ := by
    simp [readTree,enumeration,Tree.normalize,Node.ofTree,named a]
  valid_read _ _ _ _ := trivial
  admits_read m _ _ _ _ := m.admits_zero

end Codec
end ModelCatalog.Json
