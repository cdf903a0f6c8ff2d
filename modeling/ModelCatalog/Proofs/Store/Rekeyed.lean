import ModelCatalog.Proofs.Json.Document
import ModelCatalog.Proofs.Json.Edited
import ModelCatalog.Proofs.Ordered.Keyed
import ModelCatalog.Proofs.Provider.Key
import ModelCatalog.Proofs.Settings.Braced
import ModelCatalog.Store.Document

namespace ModelCatalog
open Json Ordered

namespace Json.Node

-- JSON in which the keys of connections are blotted out: the key of one of them, those of a list, and those of the
-- member of a document that lists them. A connection that is given as an array has its key at the fifth place.
def blotText : Node → Node
  | .text (some k) => .text (some (blotted k))
  | node => node

def blotMember (name : String) : Node → Node := if name = "api_key" then blotText else id

def blotConnection : Node → Node := edited blotMember ["id","name","type","base_url","api_key"]

def blotConnections : Node → Node
  | .array items closed => .array (items.map blotConnection) closed
  | node => node

def blotListed (name : String) : Node → Node := if name = "connections" then blotConnections else id

def blotMembers : List (Option String × Node) → List (Option String × Node) := editMembers blotListed

theorem complete_blotMember (name : String) (node : Node) : (blotMember name node).complete = node.complete := by
  unfold blotMember
  split
  · cases node with
    | text s => cases s <;> rfl
    | _ => rfl
  · rfl

theorem complete_map {g : Node → Node} (whole : ∀ node, (g node).complete = node.complete) :
    (items : List Node) → completeItems (items.map g) = completeItems items
  | [] => rfl
  | item :: rest => by rw [List.map_cons,completeItems,completeItems,whole,complete_map whole rest]

theorem complete_blotListed (name : String) (node : Node) : (blotListed name node).complete = node.complete := by
  unfold blotListed
  split
  · cases node with
    | array items closed =>
      exact congrArg (closed && ·) (complete_map (complete_edited complete_blotMember _) items)
    | _ => rfl
  · rfl

end Json.Node

open Node

-- Texts of two documents that are the same but for the keys of their connections, which can be sent where they differ.
-- Only objects list connections, so other texts are the same altogether.
def SameButKeys (t t' : String) : Prop :=
  t = t' ∨ Braced t.toList ∧ Braced t'.toList ∧ ∃ members members' stop clean,
    Node.read t = (.object members stop,clean) ∧ Node.read t' = (.object members' stop,clean) ∧
      blotMembers members = blotMembers members'

theorem braced_pretty (members : List (String × Tree)) : Braced (Tree.object members).pretty.toList := by
  rw [Tree.pretty,String.toList_ofList]
  cases members <;> exact .brace _

namespace Json.Codec
variable {α : Type}

-- Blotting out the keys of an object does to what is read from it what `h` does.
def Blots (c : Codec α) (h : α → α) : Prop := ∀ m members stop,
  c.read m (.object (blotMembers members) stop) = (c.read m (.object members stop)).map h

theorem readText_blots {c : Codec α} {h : α → α} (blots : c.Blots h) {t t' : String} (same : SameButKeys t t') :
    (c.readText t).map h = (c.readText t').map h := by
  rcases same with rfl | ⟨-,-,members,members',stop,clean,first,second,alike⟩
  · rfl
  have read {t : String} {members : List (Option String × Node)} (found : Node.read t = (.object members stop,clean)) :
      (c.readText t).map h = (c.read .document (.object (blotMembers members) stop) >>= fun value =>
        if clean then .ok value else .error .malformed) := by
    rw [readText,found,readFrom,blots]
    change (c.read .document (.object members stop) >>= fun value =>
      if clean = true then .ok value else .error .malformed).map h = _
    cases c.read .document (.object members stop) with
    | error e => rfl
    | ok value => cases clean <;> rfl
  rw [read first,read second,alike]

theorem layout_edited {τ σ : Type} {l : Layout τ σ} {parts : α → τ} {make : τ → α} {edit : String → Node → Node}
    {H : τ → τ} {S : σ → σ} {h : α → α} (edits : l.Edits edit H S)
    (whole : ∀ name node, (edit name node).complete = node.complete) (made : ∀ values, make (H values) = h (make values))
    (type : String) (m : Medium) (node : Node) :
    (l.codec type parts make).read m (node.edited edit l.names) = ((l.codec type parts make).read m node).map h := by
  change (l.read type m (node.edited edit l.names)).map make = ((l.read type m node).map make).map h
  rw [edits.read whole]
  cases l.read type m node with
  | error e => rfl
  | ok values => exact congrArg Except.ok (made values)

theorem list_edited {c : Codec α} {g : Node → Node} {h : α → α}
    (each : ∀ m node, c.read m (g node) = (c.read m node).map h) (m : Medium) (items : List Node) (closed : Bool) :
    (list c).read m (.array (items.map g) closed) = ((list c).read m (.array items closed)).map (List.map h) := by
  have parts (inner : Medium) : (items.map g).mapM (c.read inner) = (items.mapM (c.read inner)).map (List.map h) := by
    induction items with
    | nil => rfl
    | cons item rest ih =>
      rw [List.map_cons,List.mapM_cons,List.mapM_cons,each,ih]
      exact Layout.map_parts (· :: ·) (fun _ _ => rfl) _ _
  simp only [list]
  cases m.enter with
  | error e => rfl
  | ok inner =>
    simp only [bind,Except.bind,parts]
    cases items.mapM (c.read inner) with
    | error e => rfl
    | ok as => cases closed <;> rfl

theorem connection_edited (m : Medium) (node : Node) :
    connection.read m node.blotConnection = (connection.read m node).map Connection.blot := by
  have kept {name : String} (other : name ≠ "api_key") : blotMember name = id := if_neg other
  have others : ∀ name ∈ ["enable","connection_type","prefix_id","tags","model_ids","headers","auth_type","api_version",
      "azure","meta","created_at","updated_at"], blotMember name = id := fun name member =>
    kept (by rintro rfl; exact absurd member (by decide))
  have key : (Field.defaulted "api_key" text "").Edits blotMember blotted :=
    { read := fun _ node => by
        cases node with
        | text s => cases s <;> rfl
        | _ => rfl
      absent := rfl
      beyond := fun _ _ => rfl }
  rw [blotConnection,← edited_append others]
  refine layout_edited (.field (.same (kept ?_)) <| .field (.same (kept ?_)) <| .field (.same (kept ?_)) <|
    .field (.same (kept ?_)) <| .field key (.same _ ?_)) complete_blotMember ?_ _ m node
  exacts [by decide,by decide,by decide,by decide,others,fun _ => rfl]

theorem layout_blots {τ σ : Type} {l : Layout τ σ} {parts : α → τ} {make : τ → α} {H : τ → τ} {S : σ → σ} {h : α → α}
    (edits : l.Edits blotListed H S) (made : ∀ values, make (H values) = h (make values)) (type : String) :
    (l.codec type parts make).Blots h := fun m members stop =>
  layout_edited edits complete_blotListed made type m (.object members stop)

theorem kept_listed {name : String} (other : name ≠ "connections") : blotListed name = id := if_neg other

theorem listed_blots : Store.listed.Blots fun d => { d with connections := d.connections.map Connection.blot } := by
  have connections : (Field.defaulted "connections" (list connection) []).Edits blotListed (List.map Connection.blot) :=
    { read := fun m node => by
        cases node with
        | array items closed => exact list_edited connection_edited m items closed
        | _ => rfl
      absent := rfl
      beyond := fun _ _ => rfl }
  refine layout_blots (.field (.same (kept_listed ?_)) <| .field connections <| .field (.same (kept_listed ?_)) .done) ?_ _
  exacts [by decide,by decide,fun _ => rfl]

theorem layout_kept {τ σ : Type} {l : Layout τ σ} {parts : α → τ} {make : τ → α} (without : "connections" ∉ l.names)
    (type : String) : (l.codec type parts make).Blots id := by
  refine layout_blots (.same l fun _ member => kept_listed fun same => without (same ▸ member)) ?_ type
  exact fun _ => rfl

theorem header_blots : Store.header.Blots id := by
  refine layout_kept ?_ _
  decide

theorem modelForm_blots : modelForm.Blots id := by
  refine layout_kept ?_ _
  decide

theorem list_blots (c : Codec α) : (list c).Blots id := fun _ _ _ => rfl

end Json.Codec

namespace Store

def Contents.blot (s : Contents) : Contents := { s with connections := s.connections.map Connection.blot }

theorem contents_blot (d : Listed) :
    Listed.contents { d with connections := d.connections.map Connection.blot } = d.contents.map Contents.blot := by
  have connections : Keyed.ofList ((d.connections.map Connection.blot).map fun c => (c.id,c)) =
      (Keyed.ofList (d.connections.map fun c => (c.id,c))).map Connection.blot := by
    rw [Keyed.map_ofList,List.map_map,List.map_map]
    rfl
  have highest : Listed.highest { d with connections := d.connections.map Connection.blot } = d.highest := by
    rw [Listed.highest,List.map_map]
    rfl
  rw [Listed.contents,Listed.contents,highest,connections]
  cases Contents.succ? d.highest with
  | none => rfl
  | some above => rfl

theorem decode_alike {t t' : String} (same : SameButKeys t t') :
    (decode t).map Contents.blot = (decode t').map Contents.blot := by
  have version : header.readText t = header.readText t' := by
    have alike := Codec.readText_blots Codec.header_blots same
    rwa [Except.map_id] at alike
  have lists := Codec.readText_blots Codec.listed_blots same
  have listed (t : String) : (decode t).map Contents.blot = ((header.readText t).mapError .serialization >>= fun v =>
      if v ≠ Store.version then .error (.unsupportedVersion v) else ((listed.readText t).map fun d =>
        { d with connections := d.connections.map Connection.blot }).mapError .serialization >>= Listed.contents) := by
    change (((header.readText t).mapError .serialization >>= fun v => _) : Except StoreError Contents).map _ = _
    cases header.readText t with
    | error e => rfl
    | ok v =>
      by_cases known : v = Store.version
      · simp only [bind,Except.bind,Except.mapError,if_neg (not_not_intro known)]
        change (((listed.readText t).mapError .serialization >>= Listed.contents) : Except StoreError Contents).map _ = _
        cases listed.readText t with
        | error e => rfl
        | ok d => exact (contents_blot d).symm
      · simp only [bind,Except.bind,Except.mapError,if_pos (show v ≠ Store.version from known)]
        rfl
  rw [listed,listed,version,lists]

end Store
end ModelCatalog
