import ModelCatalog.Proofs.Registry.Change
import ModelCatalog.Proofs.Store.Mirror

namespace ModelCatalog
open Ordered Json

def ImportSummary.plus (first second : ImportSummary) : ImportSummary where
  created := first.created + second.created
  updated := first.updated + second.updated
  skipped := first.skipped + second.skipped

namespace ImportSummary

theorem plus_plus (first second third : ImportSummary) :
    (first.plus second).plus third = first.plus (second.plus third) := by
  simp only [plus,Nat.add_assoc]

theorem zero_plus (summary : ImportSummary) : ImportSummary.plus ⟨0,0,0⟩ summary = summary := by
  simp only [plus,Nat.zero_add]

end ImportSummary

namespace Registry
open Store Action

instance (id : String) : Decidable (ValidId id) := inferInstanceAs (Decidable (_ ∧ _))

def Filed (s : Contents) : Prop := ∀ id r, s.models.get? id = some r → r.id = id

def made (c : Caller) (now : Timestamp) (item : ModelImport) : Option ModelRecord → Except Error ModelRecord
  | some stored => (item.overlay stored).map fun form => stored.applyForm form now
  | none => item.toForm.map fun form => .ofForm form c.id now

def tally : Bool → ImportSummary
  | true => ⟨0,1,0⟩
  | false => ⟨1,0,0⟩

def place : Option ModelRecord → ModelRecord → Action ModelRecord
  | some _,r => save r
  | none,r => ask (.insertModel r)

def importEach (c : Caller) (items : List (ModelImport × Timestamp)) : Action ImportSummary :=
  items.foldlM (fun summary item => importItem c item.2 summary item.1) ⟨0,0,0⟩

theorem importItems_eq (c : Caller) (items : List ModelImport) (now : Timestamp) :
    importItems c items now = importEach c (items.map (·,now)) := by
  rw [importEach,List.foldlM_map]
  rfl

-- All that taking in one item does where it succeeds, with what it counts.
inductive Takes (c : Caller) (item : ModelImport × Timestamp) (s : Contents) : ImportSummary → Contents → Prop where
  | skipped (unfit : ¬ ValidId item.1.id) : Takes c item s ⟨0,0,1⟩ s
  | taken {r : ModelRecord} (valid : ValidId item.1.id)
      (whole : made c item.2 item.1 (s.models.get? item.1.id) = .ok r) :
      Takes c item s (tally (s.models.contains item.1.id)) { s with models := s.models.insert item.1.id r }

theorem filed_of_keyed {s : Contents} (keyed : ∀ entry ∈ s.models.entries, entry.2.id = entry.1) : Filed s :=
  fun _ _ found => keyed _ (Keyed.get?_mem found)

section
variable {c : Caller} {s s' : Contents} {counted : ImportSummary}

theorem put_filed (filed : Filed s) (r : ModelRecord) : Filed { s with models := s.models.insert r.id r } := by
  intro id found same
  rcases Keyed.get?_insert_cases same with ⟨rfl,rfl⟩ | ⟨-,old⟩
  · rfl
  · exact filed id found old

theorem save_yields (held : s.models.contains r.id = true) :
    (save r).Yields s r { s with models := s.models.insert r.id r } :=
  yields_bind (yields_attempt (if_pos held)) (yields_pure _)

theorem insert_answer (r : ModelRecord) (absent : s.models.contains r.id = false) :
    s.answer (.insertModel r) = .ok (r,{ s with models := s.models.insert r.id r }) :=
  if_neg (Bool.eq_false_iff.mp absent)

theorem lift_map (result : Except Error α) (f : α → β) (g : β → Action γ) :
    (liftM (result.map f) >>= g : Action γ) = liftM result >>= fun a => g (f a) := by
  cases result with
  | ok a => rfl
  | error e => rfl

theorem importItem_made (c : Caller) (now : Timestamp) (summary : ImportSummary) (item : ModelImport) :
    importItem c now summary item = if ValidId item.id then
        ask (.getModel item.id) >>= fun found => liftM (made c now item found) >>= fun r =>
          place found r >>= fun _ => pure (summary.plus (tally found.isSome))
      else pure (summary.plus ⟨0,0,1⟩) := by
  unfold importItem
  split
  · next refused =>
    have unfit : ¬ ValidId item.id := fun valid => by cases refused.symm.trans (validateId_ok.mpr valid)
    rw [if_neg unfit]
    rfl
  · next accepted =>
    rw [if_pos (validateId_ok.mp accepted)]
    refine congrArg (ask (.getModel item.id) >>= ·) (funext fun found => ?_)
    cases found with
    | some stored =>
      exact (lift_map (item.overlay stored) (fun form => stored.applyForm form now) fun r =>
        save r >>= fun _ => pure (summary.plus ⟨0,1,0⟩)).symm
    | none =>
      exact (lift_map item.toForm (fun form => .ofForm form c.id now) fun r =>
        ask (.insertModel r) >>= fun _ => pure (summary.plus ⟨1,0,0⟩)).symm

theorem item_unforbidden {tree : Json.Tree} {f : Json.Fault → Invalid} {e : Error}
    (refused : (Json.Codec.modelForm.readTree tree).mapError (fun fault => .invalid (f fault)) = .error e)
    (subject : Subject) : e ≠ .forbidden subject := by
  rintro rfl
  cases read : Json.Codec.modelForm.readTree tree with
  | ok form => rw [read] at refused; cases refused
  | error fault => rw [read] at refused; cases refused

section
variable {now : Timestamp} {item : ModelImport} {stored : Option ModelRecord} {r : ModelRecord}

theorem made_id (own : ∀ old, stored = some old → old.id = item.id) (whole : made c now item stored = .ok r) :
    r.id = item.id := by
  cases stored with
  | some old =>
    obtain ⟨form,-,rfl⟩ := map_ok.mp whole
    exact own old rfl
  | none =>
    obtain ⟨form,read,rfl⟩ := map_ok.mp whole
    exact ModelImport.toForm_id read

theorem made_times (whole : made c now item stored = .ok r) :
    r.updatedAt = now ∧ r.createdAt = (stored.map (·.createdAt)).getD now := by
  cases stored with
  | some old =>
    obtain ⟨form,-,rfl⟩ := map_ok.mp whole
    exact ⟨rfl,rfl⟩
  | none =>
    obtain ⟨form,-,rfl⟩ := map_ok.mp whole
    exact ⟨rfl,rfl⟩

theorem made_unforbidden {e : Error} (failed : made c now item stored = .error e) (subject : Subject) :
    e ≠ .forbidden subject := by
  cases stored with
  | some old =>
    cases read : item.overlay old with
    | ok form => rw [made,read] at failed; cases failed
    | error cause => rw [made,read] at failed; cases failed; exact item_unforbidden read subject
  | none =>
    cases read : item.toForm with
    | ok form => rw [made,read] at failed; cases failed
    | error cause => rw [made,read] at failed; cases failed; exact item_unforbidden read subject

end

theorem Takes.filed (takes : Takes c item s counted s') (filed : Filed s) : Filed s' := by
  cases takes with
  | skipped unfit => exact filed
  | taken valid whole =>
    have own := made_id (filed item.1.id) whole
    rw [← own]
    exact put_filed filed _

theorem place_ends {found : Option ModelRecord} {r : ModelRecord} :
    (place found r).Ends s (fun _ s' => s' = { s with models := s.models.insert r.id r })
      (fun e s' => s' = s ∧ ∀ subject, e ≠ .forbidden subject) := by
  cases found with
  | some stored => exact save_ends r
  | none => exact ends_ask (fun a s' answered => (insert_put answered).2) fun e => ⟨rfl,fun subject same => by cases same⟩

theorem place_yields {r : ModelRecord} (found : s.models.get? r.id = stored) :
    ∃ a, (place stored r).Yields s a { s with models := s.models.insert r.id r } := by
  cases stored with
  | some old => exact ⟨r,save_yields (by rw [Keyed.contains,found]; rfl)⟩
  | none => exact ⟨r,yields_ask (insert_answer r (by rw [Keyed.contains,found]; rfl))⟩

-- No grant is asked for on the way, and none is missed.
theorem importItem_takes (c : Caller) (now : Timestamp) (first : ImportSummary) (item : ModelImport)
    (own : ∀ old, s.models.get? item.id = some old → old.id = item.id) :
    (importItem c now first item).Ends s
      (fun summary s' => ∃ counted, summary = first.plus counted ∧ Takes c (item,now) s counted s')
      (fun e s' => s' = s ∧ ∀ subject, e ≠ .forbidden subject) := by
  rw [importItem_made]
  split
  · next valid =>
    refine ends_bind (ends_read rfl ?_ fun e => ⟨rfl,fun subject same => by cases same⟩)
    refine ends_bind (ends_lift (fun r whole => ?_) fun e failed => ⟨rfl,made_unforbidden failed⟩)
    refine ends_bind (place_ends.imp (fun _ s' written => ?_) fun _ _ => id)
    rw [made_id own whole] at written
    cases written
    exact ends_pure ⟨_,rfl,.taken valid whole⟩
  · next unfit => exact ends_pure ⟨_,rfl,.skipped unfit⟩

theorem importItem_yields {now : Timestamp} {item : ModelImport} (first : ImportSummary)
    (own : ∀ old, s.models.get? item.id = some old → old.id = item.id) (takes : Takes c (item,now) s counted s') :
    (importItem c now first item).Yields s (first.plus counted) s' := by
  rw [importItem_made]
  cases takes with
  | skipped unfit =>
    rw [if_neg unfit]
    exact yields_pure _
  | @taken r valid whole =>
    have same : r.id = item.id := made_id own whole
    obtain ⟨a,placed⟩ := place_yields (s := s) (r := r) rfl
    rw [same] at placed
    rw [if_pos valid]
    exact yields_bind (yields_ask rfl) (yields_bind (yields_lift whole) (yields_bind placed (yields_pure _)))

end

end Registry
end ModelCatalog
