import ModelCatalog.Proofs.Registry.Backup

namespace ModelCatalog.Registry
open Ordered Store Action

def lastOf (id : String) (forms : List ModelForm) : Option ModelForm := forms.reverse.find? fun form => form.id = id

-- The record that a replacement stores for a form. The owner is who asked for it, whatever the form says, and a model
-- that was stored under the id passes its creation time on.
def replacing (c : Caller) (now : Timestamp) (stored : Option ModelRecord) (form : ModelForm) : ModelRecord where
  id := form.id
  owner := c.id
  baseModelId := form.baseModelId
  name := form.name
  params := form.params
  info := form.info
  access := form.access
  isActive := form.isActive
  createdAt := (stored.map (·.createdAt)).getD now
  updatedAt := now

def written (c : Caller) (now : Timestamp) (forms : List ModelForm) (s : Contents) : Contents :=
  restore now (forms.map fun form => .ofForm (form.own c.id) c.id now) s

def replaced (c : Caller) (now : Timestamp) (forms : List ModelForm) (s : Contents) : Contents :=
  { s with models :=
      (written c now forms s).models.filter fun entry => (KeySet.ofList (forms.map (·.id))).contains entry.1 }

section
variable {c : Caller} {now : Timestamp} {form : ModelForm} {forms : List ModelForm} {s : Contents} {id : String}

theorem lastOf_some (found : lastOf id forms = some form) : form ∈ forms ∧ form.id = id := by
  have own := List.find?_some found
  exact ⟨List.mem_reverse.mp (List.mem_of_find?_eq_some found),of_decide_eq_true own⟩

theorem lastOf_isSome : (lastOf id forms).isSome = true ↔ ∃ form ∈ forms, form.id = id := by
  simp [lastOf,List.find?_isSome]

theorem written_cons (c : Caller) (now : Timestamp) (form : ModelForm) (forms : List ModelForm) (s : Contents) :
    written c now forms (written c now [form] s) = written c now (form :: forms) s := restore_cons now _ _ s

theorem written_get? (c : Caller) (now : Timestamp) (forms : List ModelForm) (s : Contents) (id : String) :
    (written c now forms s).models.get? id =
      ((lastOf id forms).map (replacing c now (s.models.get? id))).or (s.models.get? id) := by
  have listed : (forms.map fun form => ModelRecord.ofForm (form.own c.id) c.id now).map
        (fun r => (r.id,restored now (s.models.get? r.id) r)) =
      forms.map fun form => (form.id,replacing c now (s.models.get? form.id) form) := by
    rw [List.map_map]
    rfl
  have found : (lastOf id forms).map (fun form => replacing c now (s.models.get? form.id) form) =
      (lastOf id forms).map (replacing c now (s.models.get? id)) := by
    refine Option.map_congr fun form last => ?_
    rw [(lastOf_some last).2]
  rw [written,restore]
  dsimp only
  rw [listed,Keyed.get?_insertAll,← List.map_reverse,Entries.find?_keyed]
  exact congrArg (Option.or · _) found

theorem replaced_get? (c : Caller) (now : Timestamp) (forms : List ModelForm) (s : Contents) (id : String) :
    (replaced c now forms s).models.get? id = (lastOf id forms).map (replacing c now (s.models.get? id)) := by
  have kept : (KeySet.ofList (forms.map (·.id))).contains id = (lastOf id forms).isSome := by
    rw [Bool.eq_iff_iff,KeySet.contains_ofList,lastOf_isSome,List.mem_map]
  have filtered := Keyed.get?_filter (written c now forms s).models
    (fun key => (KeySet.ofList (forms.map (·.id))).contains key) id
  refine filtered.trans ?_
  rw [kept,written_get?]
  cases lastOf id forms with
  | none => rfl
  | some form => rfl

theorem replaced_contains : (replaced c now forms s).models.contains id = true ↔ ∃ form ∈ forms, form.id = id := by
  rw [Keyed.contains,replaced_get?,Option.isSome_map,lastOf_isSome]

theorem replaced_filed (c : Caller) (now : Timestamp) (forms : List ModelForm) (s : Contents) :
    Filed (replaced c now forms s) := by
  intro id r found
  rw [replaced_get?] at found
  obtain ⟨form,last,rfl⟩ := Option.map_eq_some_iff.mp found
  exact (lastOf_some last).2

theorem replaced_again (c : Caller) (now : Timestamp) (forms : List ModelForm) (s : Contents) :
    replaced c now forms (replaced c now forms s) = replaced c now forms s := by
  have same : (replaced c now forms (replaced c now forms s)).models = (replaced c now forms s).models := by
    refine Keyed.ext_get? fun id => ?_
    rw [replaced_get?,replaced_get?]
    cases lastOf id forms with
    | none => rfl
    | some form => rfl
  exact congrArg (fun models => { s with models }) same

theorem listed_ascending (filed : Filed s) : s.models.values.Pairwise fun a b => a.id < b.id :=
  (Keyed.values_ascending fun entry member => filed entry.1 entry.2 (Keyed.mem_get? member)).imp
    compareOfLessAndEq_eq_lt.mp

theorem upsert_answer (c : Caller) (now : Timestamp) (form : ModelForm) (s : Contents) :
    s.answer (.upsertModel (.ofForm (form.own c.id) c.id now)) =
      .ok (replacing c now (s.models.get? form.id) form,written c now [form] s) := by
  have put : written c now [form] s =
      { s with models := s.models.insert form.id (replacing c now (s.models.get? form.id) form) } := rfl
  have looked : (ModelRecord.ofForm (form.own c.id) c.id now).id = form.id := rfl
  rw [put,Contents.answer,looked]
  cases s.models.get? form.id with
  | none => rfl
  | some stored => rfl

theorem upserts_yield (c : Caller) (now : Timestamp) (forms : List ModelForm) (s : Contents) :
    Yields (forms.forM fun form => do let _ ← ask (.upsertModel (.ofForm (form.own c.id) c.id now))) s ⟨⟩
      (written c now forms s) := by
  induction forms generalizing s with
  | nil => exact yields_pure _
  | cons form rest ih =>
    rw [← written_cons]
    exact yields_bind (yields_bind (yields_ask (upsert_answer c now form s)) (yields_pure _)) (ih _)

theorem checked_run (backend : Backend σ) (forms : List ModelForm) (st : σ) :
    Action.run backend (forms.forM fun form => (validateId form.id : Action Unit)) st =
      (forms.forM fun form => validateId form.id,st) := by
  induction forms with
  | nil => rfl
  | cons form rest ih =>
    have first : Action.run backend (validateId form.id : Action Unit) st = (validateId form.id,st) := rfl
    rw [List.forM,List.forM]
    cases valid : validateId form.id with
    | ok _ =>
      rw [valid] at first
      exact (run_bind first).trans ih
    | error e =>
      rw [valid] at first
      exact run_failed first

theorem checked_ok : (forms.forM fun form => validateId form.id) = .ok () ↔ ∀ form ∈ forms, ValidId form.id := by
  induction forms with
  | nil => exact ⟨fun _ _ member => (List.not_mem_nil member).elim,fun _ => rfl⟩
  | cons form rest ih =>
    rw [List.forM,List.forall_mem_cons,← validateId_ok,← ih]
    cases valid : validateId form.id with
    | ok _ => exact ⟨fun others => ⟨rfl,others⟩,And.right⟩
    | error e =>
      constructor
      · intro refused
        cases refused
      · intro both
        cases both.1

theorem checked_error {e : Error} (refused : (forms.forM fun form => validateId form.id) = .error e) :
    ∃ form ∈ forms, validateId form.id = .error e := by
  induction forms with
  | nil => cases refused
  | cons form rest ih =>
    rw [List.forM] at refused
    cases valid : validateId form.id with
    | ok _ =>
      rw [valid] at refused
      obtain ⟨other,member,same⟩ := ih refused
      exact ⟨other,List.mem_cons_of_mem _ member,same⟩
    | error _ =>
      rw [valid] at refused
      cases refused
      exact ⟨form,List.mem_cons_self,valid⟩

theorem validateId_error {id : String} {e : Error} (refused : validateId id = .error e) :
    e = .invalid .emptyModelId ∧ id = "" ∨ e = .invalid .longModelId ∧ maxModelIdLength < id.length := by
  unfold validateId at refused
  split at refused
  · next empty =>
    cases refused
    exact .inl ⟨rfl,empty⟩
  · split at refused
    · next long =>
      cases refused
      exact .inr ⟨rfl,long⟩
    · cases refused

theorem syncReplace_invalid (backend : Backend σ) (c : Caller) (now : Timestamp) (st : σ)
    (bad : ∃ form ∈ forms, ¬ ValidId form.id) :
    ∃ form ∈ forms, ∃ e, validateId form.id = .error e ∧ (syncReplace c forms now).run backend st = (.error e,st) := by
  cases checked : forms.forM fun form => validateId form.id with
  | ok _ =>
    obtain ⟨form,member,refused⟩ := bad
    exact absurd (checked_ok.mp checked form member) refused
  | error e =>
    obtain ⟨form,member,refused⟩ := checked_error checked
    have first := checked_run backend forms st
    rw [checked] at first
    exact ⟨form,member,e,refused,run_failed first⟩

theorem syncReplace_yields (c : Caller) (now : Timestamp) (valid : ∀ form ∈ forms, ValidId form.id) (s : Contents) :
    (syncReplace c forms now).Yields s (replaced c now forms s).models.values (replaced c now forms s) := by
  have checked : Yields (forms.forM fun form => (validateId form.id : Action Unit)) s () s := by
    unfold Yields
    rw [checked_run,checked_ok.mpr valid]
  exact yields_bind checked <| yields_bind (upserts_yield c now forms s) <|
    yields_bind (yields_ask rfl) (yields_ask rfl)

end

-- A replacement is exact. Where an id is not valid it is refused as invalid input, and nothing is touched, whatever the
-- store. Otherwise, on a store in good order, the ids that are stored behind it are those of the forms, and what is
-- stored under one is the record of the last form that has it; connections and their counter stay. The models are
-- listed in the order of their ids, and a second replacement of the same forms at the same time changes nothing.
theorem sync_replaces_models (c : Caller) (forms : List ModelForm) (now : Timestamp) :
    (∀ {σ : Type} (backend : Backend σ) (st : σ), (∃ form ∈ forms, ¬ ValidId form.id) →
      ∃ cause, (cause = .emptyModelId ∨ cause = .longModelId) ∧
        (syncReplace c forms now).run backend st = (.error (.invalid cause),st)) ∧
    ∀ {σ : Type} {live : σ → Contents} {backend : Backend σ} {good : σ → Prop}, Mirrors live backend good →
      ∀ st, good st → (∀ form ∈ forms, ValidId form.id) →
        let outcome := (syncReplace c forms now).run backend st
        let before := live st
        let after := live outcome.2
        (∀ id, after.models.contains id = true ↔ ∃ form ∈ forms, form.id = id) ∧
        (∀ id form, lastOf id forms = some form →
          after.models.get? id = some (replacing c now (before.models.get? id) form)) ∧
        after.connections = before.connections ∧ after.nextId = before.nextId ∧
        outcome.1 = .ok after.models.values ∧ after.models.values.Pairwise (fun a b => a.id < b.id) ∧
        let again := (syncReplace c forms now).run backend outcome.2
        again.1 = outcome.1 ∧ live again.2 = after := by
  refine ⟨fun backend st bad => ?_,fun {σ live backend good} mirrors st order valid => ?_⟩
  · obtain ⟨form,-,e,refused,outcome⟩ := syncReplace_invalid backend c now st bad
    rcases validateId_error refused with ⟨rfl,-⟩ | ⟨rfl,-⟩
    · exact ⟨.emptyModelId,.inl rfl,outcome⟩
    · exact ⟨.longModelId,.inr rfl,outcome⟩
  · intro outcome before after
    obtain ⟨result,left,order'⟩ : outcome.1 = .ok (replaced c now forms before).models.values ∧
        after = replaced c now forms before ∧ good outcome.2 :=
      (syncReplace_yields c now valid before).run mirrors order
    have second := (syncReplace_yields c now valid after).run mirrors order'
    rw [left,replaced_again] at second
    rw [result,left]
    refine ⟨fun id => replaced_contains,fun id form last => ?_,rfl,rfl,rfl,?_,second.1,second.2.1⟩
    · rw [replaced_get?,last]
      rfl
    · exact listed_ascending (replaced_filed c now forms before)

-- Bob replaces all by two forms of one id and a form of another: the later one of the two counts, it keeps the time
-- of Alice's model, and his own that no form has is gone.
theorem repeated_form_counts_last :
    let now : Timestamp := ⟨1700000000,by decide⟩
    let first : ModelForm := { id := "a",name := "First",owner := some "alice" }
    let last : ModelForm := { id := "a",name := "Last" }
    let other : ModelForm := { id := "c",name := "Other" }
    let outcome := (syncReplace (.user "bob") [first,other,last] now).run memory twoOwners
    outcome.2.models.keys = ["a","c"] ∧ lastOf "a" [first,other,last] = some last ∧
      outcome.2.models.get? "a" = some { ModelRecord.ofForm last "bob" now with createdAt := guarded.createdAt } ∧
      outcome.2.models.get? "c" = some (.ofForm other "bob" now) ∧
      (syncReplace (.user "bob") [first,other,last] now).run memory outcome.2 = outcome := by
  intro now first last other outcome
  have valid : ∀ form ∈ [first,other,last], ValidId form.id := by decide
  have exact := (sync_replaces_models (.user "bob") [first,other,last] now).2 memory_mirrors twoOwners trivial valid
  obtain ⟨-,records,-,-,-,-,result,left⟩ := exact
  refine ⟨by decide +kernel,rfl,?_,?_,Prod.ext result left⟩
  · exact records "a" last rfl
  · exact records "c" other rfl

end ModelCatalog.Registry
