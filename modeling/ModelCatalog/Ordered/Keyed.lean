import Std.Data.TreeMap

-- Entries are kept in strictly ascending key order, so that two maps with the same entries are equal.

namespace ModelCatalog.Ordered
open Std

abbrev Ascending [Ord κ] (entries : List (κ × β)) : Prop :=
  entries.Pairwise (fun a b => compare a.1 b.1 = .lt)

namespace Entries

def find? [DecidableEq κ] (key : κ) : List (κ × β) → Option β
  | [] => none
  | (other,value) :: rest => if key = other then some value else find? key rest

def insert [Ord κ] (key : κ) (value : β) : List (κ × β) → List (κ × β)
  | [] => [(key,value)]
  | (other,previous) :: rest =>
    match compare key other with
    | .lt => (key,value) :: (other,previous) :: rest
    | .eq => (key,value) :: rest
    | .gt => (other,previous) :: insert key value rest

theorem mem_insert [Ord κ] {key : κ} {value : β} {entry : κ × β} {entries : List (κ × β)}
    (h : entry ∈ insert key value entries) : entry = (key,value) ∨ entry ∈ entries := by
  induction entries with
  | nil => simpa [insert] using h
  | cons head rest ih =>
    obtain ⟨other,previous⟩ := head
    unfold insert at h
    split at h
    · simpa using h
    · simp only [List.mem_cons] at h ⊢; exact h.imp id Or.inr
    · simp only [List.mem_cons] at h ⊢
      rcases h with h | h
      · exact .inr (.inl h)
      · exact (ih h).imp id .inr

theorem ascending_insert [Ord κ] [TransOrd κ] [LawfulEqOrd κ] (key : κ) (value : β)
    {entries : List (κ × β)} (sorted : Ascending entries) :
    Ascending (insert key value entries) := by
  induction entries with
  | nil => simp [Ascending,insert]
  | cons head rest ih =>
    obtain ⟨other,previous⟩ := head
    obtain ⟨first,tail⟩ := List.pairwise_cons.mp sorted
    unfold insert
    split
    · next less =>
      refine List.pairwise_cons.mpr ⟨?_,sorted⟩
      intro entry member
      rcases List.mem_cons.mp member with rfl | member
      · exact less
      · exact TransCmp.lt_trans less (first entry member)
    · next same =>
      cases LawfulEqCmp.eq_of_compare same
      exact List.pairwise_cons.mpr ⟨first,tail⟩
    · next greater =>
      refine List.pairwise_cons.mpr ⟨?_,ih tail⟩
      intro entry member
      rcases mem_insert member with rfl | member
      · exact OrientedCmp.lt_of_gt greater
      · exact first entry member

theorem find?_insert [Ord κ] [LawfulEqOrd κ] [DecidableEq κ]
    (key other : κ) (value : β) (entries : List (κ × β)) :
    find? other (insert key value entries) =
      if other = key then some value else find? other entries := by
  induction entries with
  | nil => simp [insert,find?]
  | cons head rest ih =>
    obtain ⟨first,previous⟩ := head
    unfold insert
    split
    · simp [find?]
    · next same =>
      cases LawfulEqCmp.eq_of_compare same
      by_cases h : other = key <;> simp [find?,h]
    · next greater =>
      have different : key ≠ first := by
        rintro rfl
        have reflexive : compare key key = .eq := ReflCmp.compare_self
        rw [reflexive] at greater
        exact Ordering.noConfusion greater
      by_cases h : other = first
      · subst h; simp [find?,Ne.symm different]
      · simp [find?,h,ih]

end Entries

structure Keyed (κ : Type) (β : Type) [Ord κ] where
  entries : List (κ × β)
  sorted : Ascending entries

namespace Keyed
variable {κ β γ : Type} [Ord κ]

@[ext] theorem ext {a b : Keyed κ β} (h : a.entries = b.entries) : a = b := by
  cases a; cases b; cases h; rfl

instance [DecidableEq κ] [DecidableEq β] : DecidableEq (Keyed κ β) := fun a b =>
  if h : a.entries = b.entries then isTrue (ext h) else isFalse (fun e => h (e ▸ rfl))

def empty : Keyed κ β := ⟨[],List.Pairwise.nil⟩

instance : EmptyCollection (Keyed κ β) := ⟨empty⟩
instance : Inhabited (Keyed κ β) := ⟨empty⟩

def isEmpty (m : Keyed κ β) : Bool := m.entries.isEmpty
def size (m : Keyed κ β) : Nat := m.entries.length
def keys (m : Keyed κ β) : List κ := m.entries.map Prod.fst
def values (m : Keyed κ β) : List β := m.entries.map Prod.snd

def get? [DecidableEq κ] (m : Keyed κ β) (key : κ) : Option β := Entries.find? key m.entries

def contains [DecidableEq κ] (m : Keyed κ β) (key : κ) : Bool := (m.get? key).isSome

def filter (m : Keyed κ β) (keep : κ × β → Bool) : Keyed κ β :=
  ⟨m.entries.filter keep,m.sorted.sublist List.filter_sublist⟩

def erase [DecidableEq κ] (m : Keyed κ β) (key : κ) : Keyed κ β :=
  m.filter (fun entry => entry.1 ≠ key)

def map (m : Keyed κ β) (f : β → γ) : Keyed κ γ :=
  ⟨m.entries.map (fun entry => (entry.1,f entry.2)),List.pairwise_map.mpr m.sorted⟩

@[simp] theorem get?_empty [DecidableEq κ] (key : κ) : (∅ : Keyed κ β).get? key = none := rfl

variable [TransOrd κ] [LawfulEqOrd κ]

def insert (m : Keyed κ β) (key : κ) (value : β) : Keyed κ β :=
  ⟨Entries.insert key value m.entries,Entries.ascending_insert key value m.sorted⟩

-- From left to right, so the last entry of a key counts.
def insertAll (m : Keyed κ β) (entries : List (κ × β)) : Keyed κ β :=
  entries.foldl (fun m entry => m.insert entry.1 entry.2) m

def ofList (entries : List (κ × β)) : Keyed κ β := insertAll ∅ entries

@[simp] theorem get?_insert [DecidableEq κ] (m : Keyed κ β) (key other : κ) (value : β) :
    (m.insert key value).get? other = if other = key then some value else m.get? other :=
  Entries.find?_insert key other value m.entries

end Keyed

abbrev KeySet (κ : Type) [Ord κ] := Keyed κ Unit

namespace KeySet
variable {κ : Type} [Ord κ] [TransOrd κ] [LawfulEqOrd κ]

def ofList (members : List κ) : KeySet κ := Keyed.ofList (members.map (·,()))

def toList (s : KeySet κ) : List κ := s.keys

end KeySet

end ModelCatalog.Ordered
