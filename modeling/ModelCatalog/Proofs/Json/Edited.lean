import ModelCatalog.Json.Layout
import ModelCatalog.Proofs.Json.Members

namespace ModelCatalog.Json

namespace Node

-- An object or an array whose parts are edited, each by the name of the field it stands for.
def editMembers (edit : String → Node → Node) (members : List (Option String × Node)) : List (Option String × Node) :=
  members.map fun member => (member.1,member.1.elim member.2 fun name => edit name member.2)

def editItems (edit : String → Node → Node) : List String → List Node → List Node
  | name :: names,item :: rest => edit name item :: editItems edit names rest
  | _,items => items

def edited (edit : String → Node → Node) (names : List String) : Node → Node
  | .object members stop => .object (editMembers edit members) stop
  | .array items closed => .array (editItems edit names items) closed
  | node => node

variable {edit : String → Node → Node}

theorem editItems_length : (names : List String) → (items : List Node) →
    (editItems edit names items).length = items.length
  | [],_ => rfl
  | _ :: _,[] => rfl
  | _ :: names,_ :: rest => congrArg (· + 1) (editItems_length names rest)

theorem editItems_append {more : List String} (kept : ∀ name ∈ more, edit name = id) :
    (names : List String) → (items : List Node) → editItems edit (names ++ more) items = editItems edit names items
  | [],items => by
    induction more generalizing items with
    | nil => rfl
    | cons name more ih =>
      cases items with
      | nil => rfl
      | cons item rest =>
        have others := ih (fun name member => kept name (List.mem_cons_of_mem _ member)) rest
        rw [List.nil_append] at others ⊢
        rw [editItems,others,kept name List.mem_cons_self]
        cases rest <;> rfl
  | _ :: _,[] => rfl
  | name :: names,item :: rest => congrArg (edit name item :: ·) (editItems_append kept names rest)

theorem edited_append {names more : List String} (kept : ∀ name ∈ more, edit name = id) (node : Node) :
    node.edited edit (names ++ more) = node.edited edit names := by
  cases node with
  | array items closed => rw [edited,editItems_append kept,edited]
  | _ => rfl

theorem complete_editMembers (whole : ∀ name node, (edit name node).complete = node.complete) :
    (members : List (Option String × Node)) → completeMembers (editMembers edit members) = completeMembers members
  | [] => rfl
  | (none,item) :: rest => congrArg (item.complete && ·) (complete_editMembers whole rest)
  | (some name,item) :: rest => by
    have first := whole name item
    have others := complete_editMembers whole rest
    simp only [editMembers] at others
    simp only [editMembers,List.map_cons,Option.elim_some,completeMembers,first,others]

theorem complete_editItems (whole : ∀ name node, (edit name node).complete = node.complete) :
    (names : List String) → (items : List Node) → completeItems (editItems edit names items) = completeItems items
  | [],_ => rfl
  | _ :: _,[] => rfl
  | name :: names,item :: rest => by
    rw [editItems,completeItems,completeItems,whole,complete_editItems whole names rest]

theorem complete_edited (whole : ∀ name node, (edit name node).complete = node.complete) (names : List String)
    (node : Node) : (node.edited edit names).complete = node.complete := by
  cases node with
  | object members stop => rw [edited,complete,complete,complete_editMembers whole]
  | array items closed => rw [edited,complete,complete,complete_editItems whole]
  | _ => rfl

end Node

open Node
variable {edit : String → Node → Node}

-- An edit of a field's node does to its value what `h` does; what stands for a missing field stays.
structure Field.Edits (edit : String → Node → Node) (f : Field α) (h : α → α) : Prop where
  read : ∀ m node, f.codec.read m (edit f.name node) = (f.codec.read m node).map h
  absent : f.missing.map h = f.missing
  beyond : ∀ position expected, (f.beyond position expected).map h = f.beyond position expected

theorem Field.Edits.same {f : Field α} (kept : edit f.name = id) : f.Edits edit id where
  read m node := by rw [kept,Except.map_id]; rfl
  absent := by rw [Except.map_id]; rfl
  beyond position expected := by rw [Except.map_id]; rfl

namespace Layout

inductive Edits (edit : String → Node → Node) : {τ σ : Type} → Layout τ σ → (τ → τ) → (σ → σ) → Prop where
  | done : Edits edit .done id id
  | field {α β σ : Type} {f : Field α} {rest : Layout β σ} {h : α → α} {H : β → β} {S : σ → σ}
      (own : f.Edits edit h) (others : Edits edit rest H S) :
      Edits edit (.field f rest) (Prod.map h H) (Prod.map (Option.map h) S)

variable {α β τ σ : Type} {l : Layout τ σ} {H : τ → τ} {S : σ → σ}

theorem Edits.blank (edits : l.Edits edit H S) : S l.blank = l.blank := by
  induction edits with
  | done => rfl
  | field own others ih => exact Prod.ext rfl ih

theorem Edits.fill? (edits : l.Edits edit H S) (m : Medium) (name : String) (node : Node) (slots : σ) :
    l.fill? m name (edit name node) (S slots) = (l.fill? m name node slots).map fun r => r.map S := by
  induction edits with
  | done => rfl
  | @field α β σ f rest h H S own others ih =>
    obtain ⟨slot,slots⟩ := slots
    by_cases same : name = f.name
    · subst same
      cases slot with
      | some a => simp [Layout.fill?,Except.map]
      | none =>
        simp only [Layout.fill?,if_true,Prod.map_apply,Option.map_none,own.read,Option.map_some]
        cases f.codec.read m node <;> rfl
    · simp only [Layout.fill?,if_neg same,Prod.map_apply,ih slots]
      cases rest.fill? m name node slots with
      | none => rfl
      | some filled => cases filled <;> rfl

theorem Edits.fill (edits : l.Edits edit H S) (whole : ∀ name node, (edit name node).complete = node.complete)
    (m : Medium) (slots : σ) (name : Option String) (node : Node) :
    l.fill m (S slots) (name,name.elim node fun name => edit name node) = (l.fill m slots (name,node)).map S := by
  cases name with
  | none => rfl
  | some name =>
    simp only [Layout.fill,Node.key,Option.elim_some,bind,Except.bind,edits.fill? m name node slots]
    cases l.fill? m name node slots with
    | some filled => rfl
    | none =>
      simp only [Option.map_none,whole,Fault.guard]
      split <;> rfl

theorem Edits.fold (edits : l.Edits edit H S) (whole : ∀ name node, (edit name node).complete = node.complete)
    (m : Medium) (members : List (Option String × Node)) (slots : σ) :
    (editMembers edit members).foldlM (l.fill m) (S slots) = (members.foldlM (l.fill m) slots).map S := by
  induction members generalizing slots with
  | nil => rfl
  | cons member rest ih =>
    simp only [editMembers,List.map_cons,List.foldlM_cons] at ih ⊢
    rw [edits.fill whole m slots member.1 member.2]
    cases l.fill m slots member with
    | error e => rfl
    | ok filled => exact ih filled

theorem map_parts {α β γ : Type} {h : α → α} {H : β → β} {K : γ → γ} (g : α → β → γ)
    (made : ∀ a b, g (h a) (H b) = K (g a b)) (x : Except Fault α) (y : Except Fault β) :
    (x.map h >>= fun a => y.map H >>= fun b => pure (g a b)) = (x >>= fun a => y >>= fun b => pure (g a b)).map K := by
  cases x with
  | error e => rfl
  | ok a => cases y with
    | error e => rfl
    | ok b => exact congrArg Except.ok (made a b)

theorem Edits.settle (edits : l.Edits edit H S) (slots : σ) : l.settle (S slots) = (l.settle slots).map H := by
  induction edits with
  | done => rfl
  | @field α β σ f rest h H S own others ih =>
    obtain ⟨slot,slots⟩ := slots
    have parts (slot : Option α) (slots : σ) : (Layout.field f rest).settle (slot,slots) =
        (f.taken slot >>= fun a => rest.settle slots >>= fun values => pure (a,values)) := by cases slot <;> rfl
    have first : f.taken (slot.map h) = (f.taken slot).map h := by
      cases slot with
      | some a => rfl
      | none => exact own.absent.symm
    rw [Prod.map_apply,parts,parts,first,ih]
    exact map_parts Prod.mk (fun _ _ => rfl) _ _

theorem Edits.readItems (edits : l.Edits edit H S) (m : Medium) (expected : String) (closed : Bool) (position : Nat)
    (items : List Node) : l.readItems m expected closed position (editItems edit l.names items) =
      (l.readItems m expected closed position items).map (Prod.map H id) := by
  induction edits generalizing position items with
  | done => rfl
  | @field α β σ f rest h H S own others ih =>
    cases items with
    | nil =>
      have parts : (Layout.field f rest).readItems m expected closed position [] = (Fault.guard closed >>= fun _ =>
          f.beyond position expected >>= fun a => rest.readItems m expected closed (position + 1) [] >>= fun read =>
            pure ((a,read.1),read.2)) := rfl
      have behind := ih (position + 1) []
      rw [show editItems edit rest.names [] = [] by cases rest.names <;> rfl] at behind
      have both := map_parts (h := h) (H := Prod.map H id) (K := Prod.map (Prod.map h H) id)
        (fun a read => ((a,read.1),read.2)) (fun _ _ => rfl) (f.beyond position expected)
        (rest.readItems m expected closed (position + 1) [])
      rw [own.beyond,← behind] at both
      change (Layout.field f rest).readItems m expected closed position [] = _
      rw [parts]
      cases closed with
      | false => rfl
      | true => exact both
    | cons item items =>
      have parts (item : Node) (items : List Node) : (Layout.field f rest).readItems m expected closed position
          (item :: items) = (f.codec.read m item >>= fun a =>
            rest.readItems m expected closed (position + 1) items >>= fun read => pure ((a,read.1),read.2)) := rfl
      rw [Layout.names,editItems,parts,parts,own.read,ih]
      exact map_parts (fun (a : α) (read : β × List Node) => ((a,read.1),read.2)) (fun _ _ => rfl) _ _

theorem Edits.read (edits : l.Edits edit H S) (whole : ∀ name node, (edit name node).complete = node.complete)
    (type : String) (m : Medium) (node : Node) :
    l.read type m (node.edited edit l.names) = (l.read type m node).map H := by
  cases node with
  | object members stop =>
    simp only [edited,Layout.read]
    cases m.enter with
    | error e => rfl
    | ok inner =>
      have folded := edits.fold whole inner members l.blank
      rw [edits.blank] at folded
      simp only [bind,Except.bind,folded]
      cases members.foldlM (l.fill inner) l.blank with
      | error e => rfl
      | ok slots =>
        cases stop with
        | some last => rfl
        | none => exact edits.settle slots
  | array items closed =>
    simp only [edited,Layout.read]
    cases m.enter with
    | error e => rfl
    | ok inner =>
      simp only [bind,Except.bind,edits.readItems,editItems_length]
      cases l.readItems inner (l.expectation type) closed 0 items with
      | error e => rfl
      | ok read =>
        obtain ⟨values,left⟩ := read
        cases m with
        | text room => cases closed <;> cases left <;> rfl
        | tree => cases closed <;> cases left <;> rfl
  | _ => rfl

theorem Edits.same : {τ σ : Type} → (l : Layout τ σ) → (∀ name ∈ l.names, edit name = id) → l.Edits edit id id
  | _,_,.done,_ => .done
  | _,_,.field f rest,kept => by
    have own : f.Edits edit id := .same (kept f.name List.mem_cons_self)
    have both := Edits.field own (Edits.same rest fun name member => kept name (List.mem_cons_of_mem _ member))
    rwa [Prod.map_id,Option.map_id_fun,Prod.map_id] at both

end Layout
end ModelCatalog.Json
