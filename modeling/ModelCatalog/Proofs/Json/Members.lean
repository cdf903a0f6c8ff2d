import ModelCatalog.Json.Layout
import ModelCatalog.Proofs.Json.Faithful

namespace ModelCatalog.Json
open Ordered

def Field.taken (f : Field α) : Option α → Except Fault α
  | some a => .ok a
  | none => f.missing

def Field.slot (f : Field α) (m : Medium) : Option Tree → Except Fault (Option α)
  | some tree => (f.codec.read m (.ofTree tree)).map some
  | none => .ok none

namespace Layout

theorem settle_field (f : Field α) (rest : Layout β σ) (slot : Option α) (slots : σ) :
    (Layout.field f rest).settle (slot,slots) =
      (f.taken slot >>= fun a => (rest.settle slots).map fun values => (a,values)) := by
  cases slot <;> rfl

theorem names_write : (l : Layout τ σ) → (values : τ) → ∀ member ∈ l.write values, member.1 ∈ l.names
  | .done,_,member,found => by cases found
  | .field f rest,(a,values),member,found => by
    simp only [write] at found
    split at found
    · exact List.mem_cons_of_mem _ (names_write rest values member found)
    · rcases List.mem_cons.mp found with rfl | found
      · exact List.mem_cons_self
      · exact List.mem_cons_of_mem _ (names_write rest values member found)

theorem fill?_unknown (m : Medium) (node : Node) :
    (l : Layout τ σ) → (slots : σ) → name ∉ l.names → l.fill? m name node slots = none
  | .done,_,_ => rfl
  | .field f rest,(slot,slots),unknown => by
    simp only [names,List.mem_cons,not_or] at unknown
    simp [fill?,unknown.1,fill?_unknown m node rest slots unknown.2]

theorem fill_named (l : Layout τ σ) (m : Medium) (slots : σ) (name : String) (node : Node) :
    l.fill m slots (some name,node) =
      (l.fill? m name node slots).getD (if node.complete then .ok slots else .error .malformed) := by
  unfold fill
  cases found : l.fill? m name node slots with
  | some filled => simp [Node.key,bind,Except.bind,found]
  | none => cases node.complete <;> simp [Node.key,bind,Except.bind,found,Fault.guard,pure,Except.pure]

theorem fill_other (f : Field α) (rest : Layout β σ) (m : Medium) (slot : Option α) (slots : σ)
    (member : Option String × Node) (other : member.1 ≠ some f.name) :
    (Layout.field f rest).fill m (slot,slots) member = (rest.fill m slots member).map (slot,·) := by
  obtain ⟨name,node⟩ := member
  cases name with
  | none => rfl
  | some name =>
    have different : name ≠ f.name := fun same => other (congrArg some same)
    have passed : (Layout.field f rest).fill? m name node (slot,slots) =
        (rest.fill? m name node slots).map fun r => r.map (slot,·) := if_neg different
    rw [fill_named,fill_named,passed]
    cases rest.fill? m name node slots with
    | some filled => rfl
    | none => cases node.complete <;> rfl

theorem fold_other (f : Field α) (rest : Layout β σ) (m : Medium) (slot : Option α) (slots : σ)
    (members : List (Option String × Node)) (other : ∀ member ∈ members, member.1 ≠ some f.name) :
    members.foldlM ((Layout.field f rest).fill m) (slot,slots) =
      (members.foldlM (rest.fill m) slots).map (slot,·) := by
  induction members generalizing slots with
  | nil => rfl
  | cons member members ih =>
    simp only [List.foldlM_cons,fill_other f rest m slot slots member (other member List.mem_cons_self)]
    cases rest.fill m slots member with
    | error fault => rfl
    | ok next => exact ih next fun member found => other member (List.mem_cons_of_mem _ found)

theorem fill_unknown {l : Layout τ σ} (m : Medium) (slots : σ) (tree : Tree) (unknown : name ∉ l.names) :
    l.fill m slots (some name,.ofTree tree) = .ok slots := by
  simp [fill_named,fill?_unknown m _ l slots unknown,Node.complete_ofTree]

theorem fold_unknown (l : Layout τ σ) (m : Medium) (slots : σ) (members : List (String × Tree))
    (unknown : ∀ member ∈ members, member.1 ∉ l.names) :
    (Node.ofMembers members).foldlM (l.fill m) slots = .ok slots := by
  induction members with
  | nil => rfl
  | cons member members ih =>
    have first := fill_unknown m slots member.2 (unknown member List.mem_cons_self)
    have others := ih fun member found => unknown member (List.mem_cons_of_mem _ found)
    rw [Node.ofMembers,List.foldlM_cons,first]
    exact others

theorem mem_ofMembers {members : List (String × Tree)} (found : member ∈ Node.ofMembers members) :
    ∃ source ∈ members, member = (some source.1,.ofTree source.2) := by
  induction members with
  | nil => cases found
  | cons head rest ih =>
    rcases List.mem_cons.mp found with rfl | found
    · exact ⟨head,List.mem_cons_self,rfl⟩
    · obtain ⟨source,old,same⟩ := ih found
      exact ⟨source,List.mem_cons_of_mem _ old,same⟩

theorem mem_ofMembers_key {members : List (String × Tree)} {member : Option String × Node}
    (found : member ∈ Node.ofMembers members) (absent : key ∉ members.map (·.1)) : member.1 ≠ some key := by
  obtain ⟨source,stored,rfl⟩ := mem_ofMembers found
  intro same
  exact absent (List.mem_map.mpr ⟨source,stored,Option.some.inj same⟩)

-- Where no two members have one name, the first field's slot is filled from the member of its name, and the slots
-- behind it are filled as if that field were not there.
theorem fold_distinct {f : Field α} {rest : Layout β σ} {members : List (String × Tree)} (fresh : f.name ∉ rest.names)
    (distinct : (members.map (·.1)).Nodup) :
    (Node.ofMembers members).foldlM ((Layout.field f rest).fill m) (none,slots) = .ok (slot',slots') ↔
      f.slot m (Entries.find? f.name members) = .ok slot' ∧
        (Node.ofMembers members).foldlM (rest.fill m) slots = .ok slots' := by
  -- Induction on the members: behind the one of the field's name no other fills its slot.
  induction members generalizing slots with
  | nil =>
    constructor
    · intro read
      cases read
      exact ⟨rfl,rfl⟩
    · rintro ⟨empty,read⟩
      cases empty
      cases read
      rfl
  | cons member members ih =>
    obtain ⟨name,tree⟩ := member
    obtain ⟨apart,distinct⟩ := List.nodup_cons.mp distinct
    rw [Node.ofMembers,List.foldlM_cons,List.foldlM_cons]
    by_cases own : f.name = name
    · subst own
      have once : (Layout.field f rest).fill m (none,slots) (some f.name,.ofTree tree) =
          (f.codec.read m (.ofTree tree)).map fun a => (some a,slots) := by
        rw [fill_named,fill?,if_pos rfl]
        rfl
      have others (slot : Option α) := fold_other f rest m slot slots (Node.ofMembers members) fun _ found =>
        mem_ofMembers_key found apart
      rw [once,fill_unknown m slots tree fresh,Entries.find?,if_pos rfl,Field.slot]
      cases f.codec.read m (.ofTree tree) with
      | error fault =>
        constructor
        · intro read
          cases read
        · rintro ⟨read,-⟩
          cases read
      | ok a =>
        refine (Eq.congr_left (others (some a))).trans ?_
        constructor
        · intro read
          obtain ⟨next,behind,same⟩ := map_ok.mp read
          cases same
          exact ⟨rfl,behind⟩
        · rintro ⟨slot,behind⟩
          cases slot
          exact map_ok.mpr ⟨slots',behind,rfl⟩
    · rw [fill_other f rest m none slots _ (fun same => own (Option.some.inj same).symm),Entries.find?,if_neg own]
      cases rest.fill m slots (some name,.ofTree tree) with
      | error fault =>
        constructor
        · intro read
          cases read
        · rintro ⟨-,read⟩
          cases read
      | ok next => exact ih distinct

def gathered (m : Medium) (look : String → Option Tree) : Layout τ σ → Except Fault τ
  | .done => .ok ()
  | .field f rest => do
    let slot ← f.slot m (look f.name)
    let a ← f.taken slot
    return (a,← rest.gathered m look)

theorem gathered_field {f : Field α} {rest : Layout β σ} {look : String → Option Tree} {a : α} {values : β} :
    (Layout.field f rest).gathered m look = .ok (a,values) ↔
      (∃ slot, f.slot m (look f.name) = .ok slot ∧ f.taken slot = .ok a) ∧ rest.gathered m look = .ok values := by
  simp only [gathered,bind_ok,pure_ok]
  constructor
  · rintro ⟨slot,filled,b,taken,others,behind,same⟩
    cases same
    exact ⟨⟨slot,filled,taken⟩,behind⟩
  · rintro ⟨⟨slot,filled,taken⟩,behind⟩
    exact ⟨slot,filled,a,taken,values,behind,rfl⟩

theorem fill_gathers {members : List (String × Tree)} (distinct : (members.map (·.1)).Nodup) :
    (l : Layout τ σ) → l.names.Nodup → (values : τ) →
    (((Node.ofMembers members).foldlM (l.fill m) l.blank >>= l.settle) = .ok values ↔
      l.gathered m (Entries.find? · members) = .ok values)
  | .done,_,() => by
    rw [fold_unknown .done m () members fun _ _ => List.not_mem_nil]
    rfl
  | .field f rest,names,(a,values) => by
    obtain ⟨fresh,others⟩ := List.nodup_cons.mp names
    rw [gathered_field,← fill_gathers distinct rest others values,bind_ok,bind_ok]
    constructor
    · rintro ⟨⟨slot,slots⟩,filled,settled⟩
      obtain ⟨own,behind⟩ := (fold_distinct fresh distinct).mp filled
      rw [settle_field,bind_ok] at settled
      obtain ⟨b,taken,left⟩ := settled
      obtain ⟨values',settled,same⟩ := map_ok.mp left
      cases same
      exact ⟨⟨slot,own,taken⟩,slots,behind,settled⟩
    · rintro ⟨⟨slot,own,taken⟩,slots,behind,settled⟩
      refine ⟨(slot,slots),(fold_distinct fresh distinct).mpr ⟨own,behind⟩,?_⟩
      rw [settle_field,taken,settled]
      rfl

theorem read_gathers {members : List (String × Tree)} (distinct : (members.map (·.1)).Nodup) {l : Layout τ σ}
    (names : l.names.Nodup) (type : String) (values : τ) :
    l.read type .tree (.ofTree (.object members)) = .ok values ↔
      l.gathered .tree (Entries.find? · members) = .ok values := by
  rw [← fill_gathers distinct l names values]
  exact Iff.rfl

end Layout
end ModelCatalog.Json
