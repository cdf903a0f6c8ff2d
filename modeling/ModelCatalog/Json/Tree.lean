import ModelCatalog.Ordered.Keyed
import ModelCatalog.Json.Number

-- Free JSON is kept as a value, whose objects have strictly ascending keys; records are written as trees.

namespace ModelCatalog.Json
open Ordered

inductive Tree where
  | null
  | bool (b : Bool)
  | number (n : Number)
  | text (s : String)
  | array (items : List Tree)
  | object (members : List (String × Tree))

namespace Tree

mutual
def decEq : (a b : Tree) → Decidable (a = b)
  | .null,.null => isTrue rfl
  | .bool a,.bool b => if h : a = b then isTrue (h ▸ rfl) else isFalse (by simp [h])
  | .number a,.number b => if h : a = b then isTrue (h ▸ rfl) else isFalse (by simp [h])
  | .text a,.text b => if h : a = b then isTrue (h ▸ rfl) else isFalse (by simp [h])
  | .array a,.array b => match decEqItems a b with
    | isTrue h => isTrue (h ▸ rfl)
    | isFalse h => isFalse (by simp [h])
  | .object a,.object b => match decEqMembers a b with
    | isTrue h => isTrue (h ▸ rfl)
    | isFalse h => isFalse (by simp [h])
  | .null,.bool _ | .null,.number _ | .null,.text _ | .null,.array _ | .null,.object _
  | .bool _,.null | .bool _,.number _ | .bool _,.text _ | .bool _,.array _ | .bool _,.object _
  | .number _,.null | .number _,.bool _ | .number _,.text _ | .number _,.array _
  | .number _,.object _
  | .text _,.null | .text _,.bool _ | .text _,.number _ | .text _,.array _ | .text _,.object _
  | .array _,.null | .array _,.bool _ | .array _,.number _ | .array _,.text _
  | .array _,.object _
  | .object _,.null | .object _,.bool _ | .object _,.number _ | .object _,.text _
  | .object _,.array _ => isFalse (by simp)

def decEqItems : (a b : List Tree) → Decidable (a = b)
  | [],[] => isTrue rfl
  | a :: as,b :: bs => match decEq a b,decEqItems as bs with
    | isTrue h,isTrue t => isTrue (h ▸ t ▸ rfl)
    | isFalse h,_ => isFalse (by simp [h])
    | _,isFalse t => isFalse (by simp [t])
  | [],_ :: _ | _ :: _,[] => isFalse (by simp)

def decEqMembers : (a b : List (String × Tree)) → Decidable (a = b)
  | [],[] => isTrue rfl
  | (k,a) :: as,(l,b) :: bs =>
    if same : k = l then
      match decEq a b,decEqMembers as bs with
      | isTrue h,isTrue t => isTrue (same ▸ h ▸ t ▸ rfl)
      | isFalse h,_ => isFalse (by simp [h])
      | _,isFalse t => isFalse (by simp [t])
    else isFalse (by simp [same])
  | [],_ :: _ | _ :: _,[] => isFalse (by simp)
end

instance : DecidableEq Tree := decEq
instance : Inhabited Tree := ⟨null⟩

mutual
def Canonical : Tree → Prop
  | .array items => CanonicalItems items
  | .object members => Ascending members ∧ CanonicalMembers members
  | _ => True

def CanonicalItems : List Tree → Prop
  | [] => True
  | item :: rest => item.Canonical ∧ CanonicalItems rest

def CanonicalMembers : List (String × Tree) → Prop
  | [] => True
  | (_,item) :: rest => item.Canonical ∧ CanonicalMembers rest
end

mutual
-- Of equal keys the last member stays.
def normalize : Tree → Tree
  | .null => .null
  | .bool b => .bool b
  | .number n => .number n
  | .text s => .text s
  | .array items => .array (normalizeItems items)
  | .object members => .object (Keyed.ofList (normalizeMembers members)).entries

def normalizeItems : List Tree → List Tree
  | [] => []
  | item :: rest => item.normalize :: normalizeItems rest

def normalizeMembers : List (String × Tree) → List (String × Tree)
  | [] => []
  | (key,item) :: rest => (key,item.normalize) :: normalizeMembers rest
end

theorem canonicalItems_iff {items : List Tree} :
    CanonicalItems items ↔ ∀ item ∈ items, item.Canonical := by
  induction items with
  | nil => simp [CanonicalItems]
  | cons item rest ih => simp [CanonicalItems,ih]

theorem canonicalMembers_iff {members : List (String × Tree)} :
    CanonicalMembers members ↔ ∀ member ∈ members, member.2.Canonical := by
  induction members with
  | nil => simp [CanonicalMembers]
  | cons member rest ih => simp [CanonicalMembers,ih]

theorem canonicalMembers_insertAll (members : List (String × Tree)) (m : Keyed String Tree)
    (kept : CanonicalMembers m.entries) (added : CanonicalMembers members) :
    CanonicalMembers (m.insertAll members).entries := by
  induction members generalizing m with
  | nil => exact kept
  | cons member rest ih =>
    obtain ⟨first,others⟩ := added
    refine ih _ (canonicalMembers_iff.mpr fun entry found => ?_) others
    rcases Entries.mem_insert found with rfl | old
    · exact first
    · exact canonicalMembers_iff.mp kept entry old

mutual
theorem canonical_normalize : (t : Tree) → t.normalize.Canonical
  | .null | .bool _ | .number _ | .text _ => trivial
  | .array items => canonicalItems_normalize items
  | .object members =>
    ⟨(Keyed.ofList (normalizeMembers members)).sorted,
      canonicalMembers_insertAll _ _ trivial (canonicalMembers_normalize members)⟩

theorem canonicalItems_normalize : (items : List Tree) → CanonicalItems (normalizeItems items)
  | [] => trivial
  | item :: rest => ⟨canonical_normalize item,canonicalItems_normalize rest⟩

theorem canonicalMembers_normalize :
    (members : List (String × Tree)) → CanonicalMembers (normalizeMembers members)
  | [] => trivial
  | (_,item) :: rest => ⟨canonical_normalize item,canonicalMembers_normalize rest⟩
end

end Tree

structure Value where
  tree : Tree
  canonical : tree.Canonical

namespace Value

theorem ext {a b : Value} (h : a.tree = b.tree) : a = b := by
  cases a; cases b; cases h; rfl

instance : DecidableEq Value := fun a b =>
  if h : a.tree = b.tree then isTrue (ext h) else isFalse (fun e => h (e ▸ rfl))

def ofTree (t : Tree) : Value := ⟨t.normalize,t.canonical_normalize⟩

def null : Value := ⟨.null,trivial⟩
def text (s : String) : Value := ⟨.text s,trivial⟩

instance : Inhabited Value := ⟨null⟩

end Value

abbrev Extensions := Keyed String Value

namespace Extensions

def toValue (e : Extensions) : Value where
  tree := .object (e.map Value.tree).entries
  canonical := by
    refine ⟨(e.map Value.tree).sorted,Tree.canonicalMembers_iff.mpr fun member found => ?_⟩
    obtain ⟨entry,-,rfl⟩ := List.mem_map.mp found
    exact entry.2.canonical

end Extensions

def Value.members? (v : Value) : Option Extensions :=
  match v with
  | ⟨.object members,canonical⟩ =>
    have each := Tree.canonicalMembers_iff.mp canonical.2
    some ⟨members.attach.map fun m => (m.1.1,⟨m.1.2,each m.1 m.2⟩),by
      refine List.pairwise_map.mpr ?_
      have sorted := canonical.1
      rw [← List.attach_map_subtype_val members] at sorted
      exact List.pairwise_map.mp sorted⟩
  | _ => none

def Value.items? (v : Value) : Option (List Value) :=
  match v with
  | ⟨.array items,canonical⟩ =>
    have each := Tree.canonicalItems_iff.mp canonical
    some (items.attach.map fun item => ⟨item.1,each item.1 item.2⟩)
  | _ => none

def Value.text? (v : Value) : Option String :=
  match v.tree with
  | .text s => some s
  | _ => none

end ModelCatalog.Json
