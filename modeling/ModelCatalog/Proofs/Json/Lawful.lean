import ModelCatalog.Proofs.Json.Members

namespace ModelCatalog.Json
open Ordered

theorem Field.missing_of_beyond {f : Field α} (found : f.beyond position expected = .ok a) : f.missing = .ok a := by
  unfold beyond at found
  unfold missing
  split at found
  · next same => rw [same]; exact found
  · cases found

namespace Layout

-- Fields with different names and faithful codecs, where a value is left out only if reading puts it
-- back, and what stands for a missing field is valid and nests no deeper than the rest.
inductive Lawful : {τ σ : Type} → Layout τ σ → (τ → Prop) → Nat → Prop where
  | done : Lawful .done (fun _ => True) floor
  | field {f : Field α} {rest : Layout β σ} (codec : f.codec.Faithful valid floor) (fresh : f.name ∉ rest.names)
      (leftOut : ∀ a, valid a → f.leftOut a = true → f.missing = .ok a)
      (absent : ∀ a, f.missing = .ok a → valid a ∧ (f.codec.write a).depth ≤ floor)
      (others : Lawful rest validRest floor) :
      Lawful (.field f rest) (fun values => valid values.1 ∧ validRest values.2) floor

theorem Lawful.read_members {l : Layout τ σ} (lawful : l.Lawful valid floor) (m : Medium) (values : τ)
    (ok : valid values) :
    ((Node.ofMembers (l.write values)).foldlM (l.fill m) l.blank >>= l.settle) =
      m.within (Tree.memberDepth (l.write values)) values := by
  induction lawful with
  | done => exact (m.within_zero _).symm
  | @field α β σ valid floor validRest f rest codec fresh leftOut absent others ih =>
    obtain ⟨a,values⟩ := values
    have inside := ih values ok.2
    have other : ∀ member ∈ Node.ofMembers (rest.write values), member.1 ≠ some f.name := by
      intro member found same
      obtain ⟨source,old,name⟩ := mem_ofMembers found
      rw [name] at same
      exact fresh (Option.some.inj same ▸ rest.names_write values source old)
    have settled : ∀ slot, f.taken slot = .ok a →
        ((((Node.ofMembers (rest.write values)).foldlM (rest.fill m) rest.blank).map (slot,·)) >>=
          (Layout.field f rest).settle) = m.within (Tree.memberDepth (rest.write values)) (a,values) := by
      intro slot value
      rw [← Medium.map_within m _ values (a,·),← inside]
      cases (Node.ofMembers (rest.write values)).foldlM (rest.fill m) rest.blank with
      | error fault => rfl
      | ok slots =>
        change (Layout.field f rest).settle (slot,slots) = (rest.settle slots).map (a,·)
        rw [settle_field,value]
        rfl
    -- A field that is left out leaves its slot to what stands for a missing one.
    by_cases out : f.leftOut a = true
    · simp only [write,out,if_true,blank]
      rw [fold_other f rest m none rest.blank _ other]
      exact settled none (leftOut a ok.1 out)
    · have first : (Layout.field f rest).fill m (none,rest.blank) (some f.name,.ofTree (f.codec.write a)) =
          m.within (f.codec.write a).depth (some a,rest.blank) := by
        have own : (Layout.field f rest).fill? m f.name (.ofTree (f.codec.write a)) (none,rest.blank) =
            some ((f.codec.read m (.ofTree (f.codec.write a))).map fun a => (some a,rest.blank)) := if_pos rfl
        rw [fill_named,own,codec.read_write m a ok.1]
        exact Medium.map_within _ _ _ _
      simp only [write,out,Bool.false_eq_true,if_false,blank,Node.ofMembers,List.foldlM_cons,first,bind_assoc]
      refine m.within_bind _ _ _ _ _ ?_
      rw [fold_other f rest m (some a) rest.blank _ other]
      exact settled (some a) rfl

theorem Lawful.names_distinct {l : Layout τ σ} (lawful : l.Lawful valid floor) : l.names.Nodup := by
  induction lawful with
  | done => exact List.nodup_nil
  | field codec fresh leftOut absent others ih => exact List.nodup_cons.mpr ⟨fresh,ih⟩

theorem write_sublist : (l : Layout τ σ) → (values : τ) → ((l.write values).map (·.1)).Sublist l.names
  | .done,() => .slnil
  | .field f rest,(a,values) => by
    simp only [write]
    split
    · exact (write_sublist rest values).cons f.name
    · exact (write_sublist rest values).cons_cons f.name

-- A way to hand on what is written, from which every faithful codec reads it, where the medium has room for it.
def Handed (m : Medium) (hand : Tree → Tree) : Prop :=
  ∀ {α : Type} {c : Codec α} {valid : α → Prop} {floor : Nat} (a : α), c.Faithful valid floor → valid a →
    m.Admits (c.write a).depth → c.read m (.ofTree (hand (c.write a))) = .ok a

theorem handed_value : Handed .tree Tree.normalize := fun a faithful ok _ => faithful.read_value a ok

theorem handed_written (m : Medium) : Handed m id := by
  intro α c valid floor a faithful ok room
  exact (faithful.read_write m a ok).trans (if_pos room)

theorem Lawful.gathers {l : Layout τ σ} (lawful : l.Lawful valid floor) {hand : Tree → Tree} (handed : Handed m hand)
    {values : τ} (ok : valid values) (room : m.Admits (Tree.memberDepth (l.write values)))
    {look : String → Option Tree}
    (carried : ∀ name ∈ l.names, look name = (Entries.find? name (l.write values)).map hand) :
    l.gathered m look = .ok values := by
  induction lawful with
  | done => rfl
  | @field α β σ valid floor validRest f rest codec fresh leftOut absent others ih =>
    obtain ⟨a,values⟩ := values
    have unwritten : Entries.find? f.name (rest.write values) = none :=
      Entries.find?_eq_none.mpr fun member written same => fresh (same ▸ rest.names_write values member written)
    have own := carried f.name List.mem_cons_self
    have inside : m.Admits (Tree.memberDepth (rest.write values)) := by
      rw [write] at room
      split at room
      · exact room
      · exact (Medium.admits_max.mp room).2
    have behind : rest.gathered m look = .ok values := by
      refine ih ok.2 inside fun name member => ?_
      have other : name ≠ f.name := fun same => fresh (same ▸ member)
      rw [carried name (List.mem_cons_of_mem _ member),write]
      split
      · rfl
      · rw [Entries.find?,if_neg other]
    refine gathered_field.mpr ⟨?_,behind⟩
    by_cases out : f.leftOut a = true
    · rw [write,if_pos out,unwritten] at own
      exact ⟨none,by rw [own]; rfl,leftOut a ok.1 out⟩
    · rw [write,if_neg out] at own room
      rw [Entries.find?,if_pos rfl] at own
      refine ⟨some a,?_,rfl⟩
      rw [own]
      exact congrArg (Except.map some) (handed a codec ok.1 (Medium.admits_max.mp room).1)

theorem Lawful.read_carried {l : Layout τ σ} (lawful : l.Lawful valid floor) (type : String) {values : τ}
    (ok : valid values) {members : List (String × Tree)} (distinct : (members.map (·.1)).Nodup)
    (carried : ∀ name ∈ l.names,
      Entries.find? name members = (Entries.find? name (l.write values)).map Tree.normalize) :
    l.read type .tree (.ofTree (.object members)) = .ok values :=
  (read_gathers distinct lawful.names_distinct type values).mpr (lawful.gathers handed_value ok trivial carried)

theorem Lawful.read_written {l : Layout τ σ} (lawful : l.Lawful valid floor) (type : String) {values : τ}
    (ok : valid values) {members : List (String × Tree)} (distinct : (members.map (·.1)).Nodup)
    (room : m.Admits (Tree.memberDepth members + 1))
    (carried : ∀ name ∈ l.names, Entries.find? name members = Entries.find? name (l.write values)) :
    l.read type m (.ofTree (.object members)) = .ok values := by
  obtain ⟨inner,entered⟩ : ∃ inner, m.enter = .ok inner := by
    cases m with
    | text room' =>
      cases room' with
      | zero => exact (Nat.not_succ_le_zero _ room).elim
      | succ room' => exact ⟨_,rfl⟩
    | tree => exact ⟨_,rfl⟩
  have deep := Medium.admits_members.mp ((Medium.admits_enter entered).mp room)
  have inside : inner.Admits (Tree.memberDepth (l.write values)) := by
    refine Medium.admits_members.mpr fun member written => deep member (Entries.find?_mem ?_)
    rw [carried member.1 (l.names_write values member written)]
    exact Entries.find?_distinct (lawful.names_distinct.sublist (write_sublist l values)) written
  have gathered : l.gathered inner (Entries.find? · members) = .ok values := by
    refine lawful.gathers (handed_written inner) ok inside fun name key => ?_
    rw [Option.map_id]
    exact carried name key
  change (m.enter >>= fun inner => (Node.ofMembers members).foldlM (l.fill inner) l.blank >>= fun slots =>
    Fault.guard true >>= fun _ => l.settle slots) = _
  rw [entered]
  exact (fill_gathers distinct l lawful.names_distinct values).mpr gathered

theorem find?_normalized {members : List (String × Tree)} (distinct : (members.map (·.1)).Nodup) (name : String) :
    Entries.find? name (Keyed.ofList (Tree.normalizeMembers members)).entries =
      (Entries.find? name members).map Tree.normalize := by
  have same : ((Tree.normalizeMembers members).map (·.1)) = members.map (·.1) := by
    rw [Tree.normalizeMembers_eq,List.map_map]
    rfl
  refine (Keyed.get?_ofList_distinct (same ▸ distinct) name).trans ?_
  rw [Tree.normalizeMembers_eq,Entries.find?_map]

-- What the slots hold after reading: the first field's is filled from a member or as it was, and the
-- others' are those that the fields behind it fill from the members of other names.
theorem fold_field {f : Field α} {rest : Layout β σ} {members : List (Option String × Node)}
    (read : members.foldlM ((Layout.field f rest).fill m) (slot,slots) = .ok (slot',slots')) :
    (members.filter (·.1 ≠ some f.name)).foldlM (rest.fill m) slots = .ok slots' ∧
      ∀ a, slot' = some a → slot = some a ∨ ∃ node, (some f.name,node) ∈ members ∧ f.codec.read m node = .ok a := by
  induction members generalizing slot slots with
  | nil =>
    obtain ⟨rfl,rfl⟩ := Prod.mk.inj (pure_ok.mp read)
    exact ⟨rfl,fun a same => .inl same⟩
  | cons member members ih =>
    obtain ⟨⟨slot₁,slots₁⟩,first,others⟩ := bind_ok.mp read
    obtain ⟨tail,source⟩ := ih others
    by_cases own : member.1 = some f.name
    · obtain ⟨name,node⟩ := member
      cases own
      rw [fill_named] at first
      -- A slot that is filled already refuses the member as a duplicate.
      cases slot with
      | some a =>
        have twice : (Layout.field f rest).fill? m f.name node (some a,slots) =
            some (.error (.mismatch (.duplicateField f.name))) := if_pos rfl
        rw [twice] at first
        cases first
      | none =>
        have once : (Layout.field f rest).fill? m f.name node (none,slots) =
            some ((f.codec.read m node).map fun a => (some a,slots)) := if_pos rfl
        rw [once] at first
        obtain ⟨a,inside,same⟩ := map_ok.mp first
        obtain ⟨rfl,rfl⟩ := Prod.mk.inj same
        refine ⟨by simpa using tail,fun b found => .inr ?_⟩
        rcases source b found with same | ⟨other,later,read⟩
        · cases same
          exact ⟨node,List.mem_cons_self,inside⟩
        · exact ⟨other,List.mem_cons_of_mem _ later,read⟩
    · rw [fill_other f rest m slot slots member own,map_ok] at first
      obtain ⟨next,inside,same⟩ := first
      obtain ⟨rfl,rfl⟩ := Prod.mk.inj same
      refine ⟨?_,fun a found => ?_⟩
      · rw [List.filter_cons_of_pos (by simpa using own),List.foldlM_cons,inside]
        exact tail
      · obtain same | ⟨node,later,read⟩ := source a found
        · exact .inl same
        · exact .inr ⟨node,List.mem_cons_of_mem _ later,read⟩

theorem taken_sound {f : Field α} (codec : f.codec.Faithful valid floor)
    (absent : ∀ a, f.missing = .ok a → valid a ∧ (f.codec.write a).depth ≤ floor)
    (source : ∀ a, slot = some a → ∃ node, f.codec.read m node = .ok a) (taken : f.taken slot = .ok a) :
    valid a ∧ (m.Admits floor → m.Admits (f.codec.write a).depth) := by
  cases slot with
  | none =>
    obtain ⟨ok,shallow⟩ := absent a taken
    exact ⟨ok,fun room => room.mono shallow⟩
  | some b =>
    cases taken
    obtain ⟨node,read⟩ := source a rfl
    exact ⟨codec.valid_read m node a read,codec.admits_read m node a read⟩

theorem admits_write {f : Field α} {rest : Layout β σ} {a : α} {values : β} {m : Medium}
    (first : m.Admits (f.codec.write a).depth) (others : m.Admits (Tree.memberDepth (rest.write values))) :
    m.Admits (Tree.memberDepth ((Layout.field f rest).write (a,values))) := by
  simp only [write]
  split
  · exact others
  · exact Medium.admits_max.mpr ⟨first,others⟩

theorem Lawful.sound_members {l : Layout τ σ} (lawful : l.Lawful valid floor) (m : Medium)
    (members : List (Option String × Node)) (slots : σ) (values : τ)
    (read : members.foldlM (l.fill m) l.blank = .ok slots) (settled : l.settle slots = .ok values) :
    valid values ∧ (m.Admits floor → m.Admits (Tree.memberDepth (l.write values))) := by
  induction lawful generalizing members with
  | done => exact ⟨trivial,fun _ => m.admits_zero⟩
  | @field α β σ valid floor validRest f rest codec fresh leftOut absent others ih =>
    obtain ⟨slot,slots⟩ := slots
    obtain ⟨tail,source⟩ := fold_field read
    rw [settle_field,bind_ok] at settled
    obtain ⟨a,taken,settled⟩ := settled
    obtain ⟨values,behind,rfl⟩ := map_ok.mp settled
    have read : ∀ a, slot = some a → ∃ node, f.codec.read m node = .ok a := by
      intro a same
      obtain ⟨node,-,read⟩ := (source a same).resolve_left fun empty => by cases empty
      exact ⟨node,read⟩
    have first := taken_sound (m := m) codec absent read taken
    have behind := ih _ slots values tail behind
    exact ⟨⟨first.1,behind.1⟩,fun room => admits_write (first.2 room) (behind.2 room)⟩

theorem Lawful.sound_items {l : Layout τ σ} (lawful : l.Lawful valid floor) (m : Medium) (expected : String)
    (closed : Bool) (position : Nat) (items left : List Node) (values : τ)
    (read : l.readItems m expected closed position items = .ok (values,left)) :
    valid values ∧ (m.Admits floor → m.Admits (Tree.memberDepth (l.write values))) := by
  induction lawful generalizing position items with
  | done => exact ⟨trivial,fun _ => m.admits_zero⟩
  | @field α β σ valid floor validRest f rest codec fresh leftOut absent others ih =>
    have step : ∃ a slot position items' values', values = (a,values') ∧ f.taken slot = .ok a ∧
        (∀ a, slot = some a → ∃ node, f.codec.read m node = .ok a) ∧
        rest.readItems m expected closed position items' = .ok (values',left) := by
      cases items with
      | nil =>
        simp only [readItems,bind_ok,pure_ok] at read
        obtain ⟨_,_,a,found,⟨values',_⟩,behind,same⟩ := read
        cases same
        exact ⟨a,none,_,[],values',rfl,Field.missing_of_beyond found,fun _ empty => (by cases empty),behind⟩
      | cons item items =>
        simp only [readItems,bind_ok,pure_ok] at read
        obtain ⟨a,inside,⟨values',_⟩,behind,same⟩ := read
        cases same
        exact ⟨a,some a,_,items,values',rfl,rfl,fun _ same => ⟨item,Option.some.inj same ▸ inside⟩,behind⟩
    obtain ⟨a,slot,next,items',values',rfl,taken,source,behind⟩ := step
    have first := taken_sound codec absent source taken
    have behind := ih next items' values' behind
    exact ⟨⟨first.1,behind.1⟩,fun room => admits_write (first.2 room) (behind.2 room)⟩

theorem Lawful.sound_read {l : Layout τ σ} (lawful : l.Lawful valid floor) (type : String) (m : Medium)
    (node : Node) (values : τ) (read : l.read type m node = .ok values) :
    valid values ∧ (m.Admits (floor + 1) → m.Admits (Tree.memberDepth (l.write values) + 1)) := by
  unfold Layout.read at read
  split at read
  · next members stop =>
    simp only [bind_ok] at read
    obtain ⟨inner,entered,slots,inside,_,_,settled⟩ := read
    rw [Medium.admits_enter entered,Medium.admits_enter entered]
    exact lawful.sound_members inner members slots values inside settled
  · next items closed =>
    simp only [bind_ok] at read
    obtain ⟨inner,entered,⟨values',left⟩,inside,rest⟩ := read
    rw [Medium.admits_enter entered,Medium.admits_enter entered]
    have same : values' = values := by
      split at rest
      · cases rest
      · obtain ⟨_,_,same⟩ := bind_ok.mp rest
        exact pure_ok.mp same
    subst same
    exact lawful.sound_items inner _ closed 0 items left values' inside
  · cases read

theorem codec_faithful {l : Layout τ σ} {parts : α → τ} {make : τ → α} (type : String)
    (lawful : l.Lawful valid floor) (whole : ∀ a, make (parts a) = a) (same : ∀ values, parts (make values) = values) :
    (Layout.codec type l parts make).Faithful (fun a => valid (parts a)) (floor + 1) where
  read_write m a ok := by
    have read : l.read type m (.ofTree (.object (l.write (parts a)))) =
        m.within (Tree.memberDepth (l.write (parts a)) + 1) (parts a) :=
      m.enter_within _ _ _ fun inner _ => lawful.read_members inner (parts a) ok
    change (l.read type m (.ofTree (.object (l.write (parts a))))).map make = _
    rw [read,Medium.map_within,whole]
    rfl
  read_value a ok := by
    have distinct := lawful.names_distinct.sublist (write_sublist l (parts a))
    have read := lawful.read_carried type ok (Keyed.keys_distinct _) fun name _ => find?_normalized distinct name
    change (l.read type .tree (.ofTree (.object (Keyed.ofList (Tree.normalizeMembers (l.write (parts a)))).entries))).map
      make = _
    rw [read]
    exact congrArg Except.ok (whole a)
  valid_read m node a read := by
    obtain ⟨values,inside,rfl⟩ := map_ok.mp read
    rw [same]
    exact (lawful.sound_read type m node values inside).1
  admits_read m node a read room := by
    obtain ⟨values,inside,rfl⟩ := map_ok.mp read
    have deep := (lawful.sound_read type m node values inside).2 room
    simpa [Layout.codec,Tree.depth,same] using deep

theorem codec_solid {l : Layout τ σ} {parts : α → τ} {make : τ → α} (type : String) (valid : α → Prop) :
    (Layout.codec type l parts make).Solid valid := fun _ _ => Tree.noConfusion

end Layout
end ModelCatalog.Json
