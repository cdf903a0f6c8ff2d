import ModelCatalog.Json.Codec
import ModelCatalog.Proofs.Ordered.Keyed

namespace ModelCatalog.Json
open Ordered

namespace Tree

mutual
-- How many containers are open at the deepest place of a tree.
def depth : Tree → Nat
  | .array items => itemDepth items + 1
  | .object members => memberDepth members + 1
  | _ => 0

def itemDepth : List Tree → Nat
  | [] => 0
  | item :: rest => max item.depth (itemDepth rest)

def memberDepth : List (String × Tree) → Nat
  | [] => 0
  | (_,item) :: rest => max item.depth (memberDepth rest)
end

theorem itemDepth_le {items : List Tree} : itemDepth items ≤ n ↔ ∀ item ∈ items, item.depth ≤ n := by
  induction items with
  | nil => simp [itemDepth]
  | cons item rest ih => rw [itemDepth,Nat.max_le,ih,List.forall_mem_cons]

theorem memberDepth_le {members : List (String × Tree)} :
    memberDepth members ≤ n ↔ ∀ member ∈ members, member.2.depth ≤ n := by
  induction members with
  | nil => simp [memberDepth]
  | cons member rest ih => rw [memberDepth,Nat.max_le,ih,List.forall_mem_cons]

mutual
-- Of members with one key the last is kept, so a normalized tree is no deeper.
theorem depth_normalize : (t : Tree) → t.normalize.depth ≤ t.depth
  | .null | .bool _ | .number _ | .text _ => Nat.le_refl _
  | .array items => Nat.succ_le_succ (itemDepth_normalize items)
  | .object members => by
    refine Nat.succ_le_succ (memberDepth_le.mpr fun member found => ?_)
    exact memberDepth_le.mp (memberDepth_normalize members) member (Keyed.mem_ofList found)

theorem itemDepth_normalize : (items : List Tree) → itemDepth (normalizeItems items) ≤ itemDepth items
  | [] => Nat.le_refl _
  | item :: rest => by
    have first := depth_normalize item
    have others := itemDepth_normalize rest
    simp only [normalizeItems,itemDepth]
    omega

theorem memberDepth_normalize :
    (members : List (String × Tree)) → memberDepth (normalizeMembers members) ≤ memberDepth members
  | [] => Nat.le_refl _
  | (_,item) :: rest => by
    have first := depth_normalize item
    have others := memberDepth_normalize rest
    simp only [normalizeMembers,memberDepth]
    omega
end

mutual
theorem normalize_canonical : (t : Tree) → t.Canonical → t.normalize = t
  | .null,_ | .bool _,_ | .number _,_ | .text _,_ => rfl
  | .array items,canonical => congrArg array (normalizeItems_canonical items canonical)
  | .object members,canonical => by
    have same := normalizeMembers_canonical members canonical.2
    have sorted : Ascending (normalizeMembers members) := by rw [same]; exact canonical.1
    rw [normalize,Keyed.ofList_ascending sorted,same]

theorem normalizeItems_canonical :
    (items : List Tree) → CanonicalItems items → normalizeItems items = items
  | [],_ => rfl
  | item :: rest,canonical => by
    rw [normalizeItems,normalize_canonical item canonical.1,normalizeItems_canonical rest canonical.2]

theorem normalizeMembers_canonical :
    (members : List (String × Tree)) → CanonicalMembers members → normalizeMembers members = members
  | [],_ => rfl
  | (_,item) :: rest,canonical => by
    rw [normalizeMembers,normalize_canonical item canonical.1,normalizeMembers_canonical rest canonical.2]
end

theorem normalizeItems_eq (items : List Tree) : normalizeItems items = items.map normalize := by
  induction items with
  | nil => rfl
  | cons item rest ih => rw [normalizeItems,ih,List.map_cons]

theorem normalizeMembers_eq (members : List (String × Tree)) :
    normalizeMembers members = members.map fun member => (member.1,member.2.normalize) := by
  induction members with
  | nil => rfl
  | cons member rest ih => rw [normalizeMembers,ih,List.map_cons]

theorem normalize_null {t : Tree} : t.normalize = .null ↔ t = .null := by
  cases t <;> simp [normalize]

end Tree

theorem Value.ofTree_tree (v : Value) : Value.ofTree v.tree = v :=
  Value.ext (Tree.normalize_canonical v.tree v.canonical)

theorem Value.members?_tree {v : Value} {members : List (String × Tree)} (object : v.tree = .object members) :
    v.members?.map (fun m => (m.map Value.tree).entries) = some members := by
  obtain ⟨tree,canonical⟩ := v
  cases object
  simp only [members?,Keyed.map,Option.map_some,List.map_map,Option.some_inj]
  exact List.attach_map_subtype_val members

theorem Value.text?_some {value : Value} {text : String} : value.text? = some text ↔ value = .text text := by
  constructor
  · intro read
    unfold Value.text? at read
    split at read
    · next s held =>
      cases read
      exact Value.ext held
    · cases read
  · rintro rfl
    rfl

namespace Medium

def Admits : Medium → Nat → Prop
  | .text room,n => n ≤ room
  | .tree,_ => True

instance : (m : Medium) → (n : Nat) → Decidable (m.Admits n)
  | .text room,n => inferInstanceAs (Decidable (n ≤ room))
  | .tree,_ => isTrue trivial

theorem Admits.mono {m : Medium} (admits : m.Admits n) (less : k ≤ n) : m.Admits k := by
  cases m with
  | text room => exact Nat.le_trans less admits
  | tree => trivial

theorem admits_zero (m : Medium) : m.Admits 0 := by
  cases m with
  | text room => exact Nat.zero_le room
  | tree => trivial

theorem admits_max {m : Medium} : m.Admits (max k n) ↔ m.Admits k ∧ m.Admits n := by
  cases m with
  | text room => exact Nat.max_le
  | tree => simp [Admits]

theorem admits_items {m : Medium} {items : List Tree} :
    m.Admits (Tree.itemDepth items) ↔ ∀ item ∈ items, m.Admits item.depth := by
  cases m with
  | text room => exact Tree.itemDepth_le
  | tree => simp [Admits]

theorem admits_members {m : Medium} {members : List (String × Tree)} :
    m.Admits (Tree.memberDepth members) ↔ ∀ member ∈ members, m.Admits member.2.depth := by
  cases m with
  | text room => exact Tree.memberDepth_le
  | tree => simp [Admits]

theorem admits_enter {m inner : Medium} (entered : m.enter = .ok inner) : m.Admits (n + 1) ↔ inner.Admits n := by
  cases m with
  | text room =>
    cases room with
    | zero => cases entered
    | succ room => cases entered; exact Nat.succ_le_succ_iff
  | tree => cases entered; exact Iff.rfl

-- What reading gives for a value written with so many nested containers.
def within (m : Medium) (depth : Nat) (a : α) : Except Fault α :=
  if m.Admits depth then .ok a else .error .malformed

theorem within_zero (m : Medium) (a : α) : m.within 0 a = .ok a := if_pos m.admits_zero

theorem map_within (m : Medium) (depth : Nat) (a : α) (f : α → β) :
    (m.within depth a).map f = m.within depth (f a) := by
  unfold within
  split <;> rfl

theorem within_bind (m : Medium) (k n : Nat) (a : α) (f : α → Except Fault β) (b : β)
    (next : f a = m.within n b) : (m.within k a >>= f) = m.within (max k n) b := by
  unfold within at next ⊢
  by_cases first : m.Admits k <;> by_cases second : m.Admits n <;>
    simp_all [admits_max,bind,Except.bind]

theorem within_ok (m : Medium) (k : Nat) (a : α) (f : α → Except Fault β) (b : β) (next : f a = .ok b) :
    (m.within k a >>= f) = m.within k b := by
  rw [m.within_bind k 0 a f b (next.trans (m.within_zero b).symm),Nat.max_zero]

theorem enter_within (m : Medium) (depth : Nat) (a : α) (f : Medium → Except Fault α)
    (inside : ∀ inner, m.enter = .ok inner → f inner = inner.within depth a) :
    (m.enter >>= f) = m.within (depth + 1) a := by
  cases entered : m.enter with
  | ok inner =>
    have room := admits_enter (n := depth) entered
    rw [within]
    simp only [room]
    exact inside inner entered
  | error fault =>
    cases m with
    | text room =>
      cases room with
      | zero => cases entered; rfl
      | succ room => cases entered
    | tree => cases entered

end Medium

namespace Node

mutual
theorem complete_ofTree : (t : Tree) → (ofTree t).complete = true
  | .null | .bool _ | .number _ | .text _ => rfl
  | .array items => by simp [ofTree,complete,completeItems_ofItems items]
  | .object members => by simp [ofTree,complete,completeMembers_ofMembers members]

theorem completeItems_ofItems : (items : List Tree) → completeItems (ofItems items) = true
  | [] => rfl
  | item :: rest => by simp [ofItems,completeItems,complete_ofTree item,completeItems_ofItems rest]

theorem completeMembers_ofMembers :
    (members : List (String × Tree)) → completeMembers (ofMembers members) = true
  | [] => rfl
  | (_,item) :: rest => by
    simp [ofMembers,completeMembers,complete_ofTree item,completeMembers_ofMembers rest]
end

mutual
theorem toTree_ofTree : (m : Medium) → (t : Tree) → (ofTree t).toTree m = m.within t.depth t
  | m,.null | m,.bool _ | m,.number _ | m,.text _ => (m.within_zero _).symm
  | m,.array items => by
    refine m.enter_within _ _ _ fun inner _ => ?_
    rw [itemsToTrees_ofItems inner items]
    exact inner.within_ok _ _ _ _ rfl
  | m,.object members => by
    refine m.enter_within _ _ _ fun inner _ => ?_
    rw [membersToTrees_ofMembers inner members]
    exact inner.within_ok _ _ _ _ rfl

theorem itemsToTrees_ofItems : (m : Medium) → (items : List Tree) →
    itemsToTrees m (ofItems items) = m.within (Tree.itemDepth items) items
  | m,[] => (m.within_zero _).symm
  | m,item :: rest => by
    rw [ofItems,itemsToTrees,toTree_ofTree m item,itemsToTrees_ofItems m rest]
    refine m.within_bind _ _ _ _ _ ?_
    exact m.within_ok _ _ _ _ rfl

theorem membersToTrees_ofMembers : (m : Medium) → (members : List (String × Tree)) →
    membersToTrees m (ofMembers members) = m.within (Tree.memberDepth members) members
  | m,[] => (m.within_zero _).symm
  | m,(key,item) :: rest => by
    rw [ofMembers,membersToTrees,toTree_ofTree m item,membersToTrees_ofMembers m rest]
    refine m.within_bind _ _ _ _ _ ?_
    exact m.within_ok _ _ _ _ rfl
end

end Node
end ModelCatalog.Json
