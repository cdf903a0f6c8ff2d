import ModelCatalog.Proofs.Json.Bytes
import ModelCatalog.Proofs.Json.Slots

namespace ModelCatalog.Json

def named (member : String × Node) : Option String × Node := (some member.1,member.2)

def said (name : String) (members : List (String × Node)) : List Node :=
  (members.filter fun member => member.1 = name).map (·.2)

theorem said_own (name : String) (node : Node) (rest : List (String × Node)) :
    said name ((name,node) :: rest) = node :: said name rest := by simp [said]

theorem said_other {member : String × Node} (other : member.1 ≠ name) (rest : List (String × Node)) :
    said name (member :: rest) = said name rest := by simp [said,other]

-- One whole object and nothing else. Its names are texts and its values are complete; how deep they nest, and whether
-- their numbers and strings mean anything, is left open.
structure IsObject (found : Node × Bool) (members : List (String × Node)) : Prop where
  whole : found = (.object (members.map named) none,true)
  complete : ∀ member ∈ members, member.2.complete = true

theorem exists_named {members : List (Option String × Node)} (spelled : ∀ member ∈ members, member.1 ≠ none) :
    ∃ texts : List (String × Node), members = texts.map named := by
  induction members with
  | nil => exact ⟨[],rfl⟩
  | cons member rest ih =>
    obtain ⟨key,node⟩ := member
    obtain ⟨others,same⟩ := ih fun other found => spelled other (List.mem_cons_of_mem _ found)
    cases key with
    | none => exact (spelled _ List.mem_cons_self rfl).elim
    | some name => exact ⟨(name,node) :: others,by rw [same]; rfl⟩

namespace Node

theorem guard_ok {holds : Bool} : Fault.guard holds = .ok () ↔ holds = true := by
  cases holds <;> simp [Fault.guard]

mutual
theorem complete_of_toTree : (m : Medium) → (node : Node) → (t : Tree) → node.toTree m = .ok t → node.complete = true
  | _,.null,_,_ | _,.bool _,_,_ | _,.number (some _),_,_ | _,.text (some _),_,_ => rfl
  | m,.array items closed,t,read => by
    simp only [toTree,bind_ok] at read
    obtain ⟨inner,-,trees,inside,_,whole,-⟩ := read
    simp [complete,guard_ok.mp whole,completeItems_of_toTree inner items trees inside]
  | m,.object members stop,t,read => by
    simp only [toTree,bind_ok] at read
    obtain ⟨inner,-,trees,inside,_,whole,-⟩ := read
    simp [complete,guard_ok.mp whole,(completeMembers_of_toTree inner members trees inside).1]

theorem completeItems_of_toTree : (m : Medium) → (items : List Node) → (trees : List Tree) →
    itemsToTrees m items = .ok trees → completeItems items = true
  | _,[],_,_ => rfl
  | m,item :: rest,trees,read => by
    simp only [itemsToTrees,bind_ok] at read
    obtain ⟨tree,first,others,inside,-⟩ := read
    simp [completeItems,complete_of_toTree m item tree first,completeItems_of_toTree m rest others inside]

theorem completeMembers_of_toTree : (m : Medium) → (members : List (Option String × Node)) →
    (trees : List (String × Tree)) → membersToTrees m members = .ok trees →
      completeMembers members = true ∧ ∀ member ∈ members, member.1 ≠ none
  | _,[],_,_ => ⟨rfl,fun _ found => (List.not_mem_nil found).elim⟩
  | m,(some key,item) :: rest,trees,read => by
    simp only [membersToTrees,bind_ok] at read
    obtain ⟨tree,first,others,inside,-⟩ := read
    obtain ⟨complete,texts⟩ := completeMembers_of_toTree m rest others inside
    refine ⟨by simp [completeMembers,complete_of_toTree m item tree first,complete],fun member found => ?_⟩
    rcases List.mem_cons.mp found with rfl | found
    · exact Option.some_ne_none key
    · exact texts member found
end

theorem completeMembers_iff {members : List (String × Node)} :
    completeMembers (members.map named) = true ↔ ∀ member ∈ members, member.2.complete = true := by
  induction members with
  | nil => simp [completeMembers]
  | cons member rest ih => simp [named,completeMembers,ih]

end Node

theorem isObject_of_value {found : Node × Bool} {value : Value} {trees : List (String × Tree)}
    (read : Codec.value.readFrom found = .ok value) (object : value.tree = .object trees) :
    ∃ members, IsObject found members := by
  obtain ⟨inside,clean⟩ := Codec.readFrom_ok.mp read
  obtain ⟨tree,source,rfl⟩ := map_ok.mp inside
  obtain ⟨node,whole⟩ := found
  cases clean
  cases node with
  | object members stop =>
    simp only [Node.toTree,bind_ok] at source
    obtain ⟨inner,-,inside,listed,_,closed,-⟩ := source
    obtain ⟨complete,spelled⟩ := Node.completeMembers_of_toTree inner members inside listed
    obtain ⟨texts,rfl⟩ := exists_named spelled
    refine ⟨texts,?_,Node.completeMembers_iff.mp complete⟩
    rw [Option.isNone_iff_eq_none.mp (Node.guard_ok.mp closed)]
  | array items closed =>
    simp only [Node.toTree,bind_ok,pure_ok] at source
    obtain ⟨_,-,_,-,_,-,rfl⟩ := source
    cases object
  | null => cases source; cases object
  | bool b => cases source; cases object
  | number n => cases n <;> cases source; cases object
  | text s => cases s <;> cases source; cases object
  | broken => cases source

theorem ofMembers_named (members : List (String × Tree)) :
    Node.ofMembers members = (members.map fun member => (member.1,Node.ofTree member.2)).map named := by
  induction members with
  | nil => rfl
  | cons member rest ih => rw [Node.ofMembers,ih]; rfl

theorem isObject_pretty {members : List (String × Tree)} (exact : (Tree.object members).Exact) :
    IsObject (Node.readBytes (Tree.object members).pretty.toUTF8)
      (members.map fun member => (member.1,.ofTree member.2)) where
  whole := by rw [Node.readBytes_toUTF8,Node.read_pretty _ exact,← ofMembers_named]; rfl
  complete := List.forall_mem_map.mpr fun member _ => Node.complete_ofTree member.2

def Field.put (f : Field α) (m : Medium) : Option α → Node → Except Fault (Option α)
  | some _,_ => .error (.mismatch (.duplicateField f.name))
  | none,node => (f.codec.read m node).map some

theorem Field.put_once (f : Field α) {nodes : List Node} {a : α} :
    nodes.foldlM (f.put m) none = .ok (some a) ↔ ∃ node, nodes = [node] ∧ f.codec.read m node = .ok a := by
  constructor
  · intro filled
    cases nodes with
    | nil => cases filled
    | cons node rest =>
      obtain ⟨slot,first,others⟩ := bind_ok.mp filled
      obtain ⟨b,read,rfl⟩ := map_ok.mp first
      cases rest with
      | nil =>
        cases others
        exact ⟨node,rfl,read⟩
      | cons again rest => cases others
  · rintro ⟨node,rfl,read⟩
    rw [List.foldlM_cons,put,read]
    rfl

namespace Layout

theorem fold_members {l : Layout τ σ} {members : List (Option String × Node)}
    (read : members.foldlM (l.fill m) slots = .ok slots') :
    ∀ member ∈ members, ∃ name, member.1 = some name ∧ (name ∉ l.names → member.2.complete = true) := by
  induction members generalizing slots with
  | nil => exact fun _ found => (List.not_mem_nil found).elim
  | cons member rest ih =>
    obtain ⟨next,first,others⟩ := bind_ok.mp read
    intro other found
    rcases List.mem_cons.mp found with rfl | found
    · obtain ⟨key,node⟩ := other
      cases key with
      | none => cases first
      | some name =>
        refine ⟨name,rfl,fun unknown => ?_⟩
        rw [fill_named,fill?_unknown m node l slots unknown] at first
        cases complete : node.complete with
        | true => rfl
        | false =>
          rw [complete] at first
          cases first
    · exact ih others other found

theorem read_object {l : Layout τ σ} {members : List (Option String × Node)}
    (read : l.read type m (.object members stop) = .ok values) :
    stop = none ∧ ∀ member ∈ members, ∃ name, member.1 = some name ∧ (name ∉ l.names → member.2.complete = true) := by
  obtain ⟨inner,-,read⟩ := bind_ok.mp read
  obtain ⟨slots,filled,read⟩ := bind_ok.mp read
  obtain ⟨_,closed,-⟩ := bind_ok.mp read
  exact ⟨Option.isNone_iff_eq_none.mp (Node.guard_ok.mp closed),fold_members filled⟩

theorem read_array {f : Field α} {rest : Layout β σ} {items : List Node}
    (read : (Layout.field f rest).read type m (.array items closed) = .ok values) :
    (items = [] ∧ ∃ a, f.absent = .default a) ∨
      ∃ inner item others a, items = item :: others ∧ f.codec.read inner item = .ok a := by
  obtain ⟨inner,-,read⟩ := bind_ok.mp read
  obtain ⟨_,listed,-⟩ := bind_ok.mp read
  cases items with
  | nil =>
    obtain ⟨_,-,listed⟩ := bind_ok.mp listed
    obtain ⟨a,found,-⟩ := bind_ok.mp listed
    refine .inl ⟨rfl,?_⟩
    unfold Field.beyond at found
    split at found
    · next b given => exact ⟨b,given⟩
    · cases found
  | cons item others =>
    obtain ⟨a,first,-⟩ := bind_ok.mp listed
    exact .inr ⟨inner,item,others,a,rfl,first⟩

theorem fold_said (f : Field α) (m : Medium) (slot : Option α) (members : List (String × Node))
    (complete : ∀ member ∈ members, member.2.complete = true) :
    (members.map named).foldlM ((Layout.field f .done).fill m) (slot,()) =
      ((said f.name members).foldlM (f.put m) slot).map (·,()) := by
  induction members generalizing slot with
  | nil => rfl
  | cons member rest ih =>
    obtain ⟨name,node⟩ := member
    have others := fun slot => ih slot fun other found => complete other (List.mem_cons_of_mem _ found)
    rw [List.map_cons,List.foldlM_cons,named,fill_named]
    by_cases own : name = f.name
    · subst own
      rw [said_own,List.foldlM_cons]
      cases slot with
      | some a =>
        have twice : (Layout.field f .done).fill? m f.name node (some a,()) =
            some (.error (.mismatch (.duplicateField f.name))) := if_pos rfl
        rw [twice]
        rfl
      | none =>
        have once : (Layout.field f .done).fill? m f.name node (none,()) =
            some ((f.codec.read m node).map fun a => (some a,())) := if_pos rfl
        rw [once,Option.getD_some,Field.put]
        cases f.codec.read m node with
        | error fault => rfl
        | ok a => exact others (some a)
    · have unknown : name ∉ (Layout.field f .done).names := by simpa [names] using own
      rw [fill?_unknown m node _ _ unknown,complete _ List.mem_cons_self,said_other own]
      exact others slot

theorem read_said {members : List (String × Node)} (type : String) (f : Field α) (m : Medium)
    (complete : ∀ member ∈ members, member.2.complete = true) :
    (Layout.field f .done).read type m (.object (members.map named) none) = (do
      let slot ← (said f.name members).foldlM (f.put (← m.enter)) none
      let a ← f.taken slot
      return (a,())) := by
  refine congrArg (m.enter >>= ·) (funext fun inner => ?_)
  change ((members.map named).foldlM ((Layout.field f .done).fill inner) (none,()) >>=
    (Layout.field f .done).settle) = _
  rw [fold_said f inner none members complete]
  cases (said f.name members).foldlM (f.put inner) none with
  | error fault => rfl
  | ok slot => exact settle_field f .done slot ()

theorem read_once {name : String} {c : Codec α} {inner : Medium} {members : List (String × Node)} {a : α}
    (type : String) (entered : m.enter = .ok inner) (complete : ∀ member ∈ members, member.2.complete = true) :
    (Layout.field (.required name c) .done).read type m (.object (members.map named) none) = .ok (a,()) ↔
      ∃ node, said name members = [node] ∧ c.read inner node = .ok a := by
  refine Iff.trans ?_ (Field.put_once (m := inner) (.required name c))
  rw [read_said type _ m complete,entered]
  simp only [bind_ok,pure_ok,Field.taken_required]
  constructor
  · rintro ⟨_,same,slot,filled,b,taken,whole⟩
    cases same
    cases taken
    cases whole
    exact filled
  · intro filled
    exact ⟨inner,rfl,some a,filled,a,rfl,rfl⟩

end Layout
end ModelCatalog.Json
