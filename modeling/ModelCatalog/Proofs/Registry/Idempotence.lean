import ModelCatalog.Proofs.Registry.Keywise

namespace ModelCatalog.Registry
open Ordered Json Store Action

-- What changes make of the model that is stored under an id. Where there is none, the first of them makes one.
def changed (owner id : String) (now : Timestamp) : List ModelChange → Option ModelRecord → Option ModelRecord
  | [],stored => stored
  | change :: changes,stored =>
    some (ModelChange.applyAll now (change :: changes) (stored.getD (.blank id owner now)))

section
variable {owner id : String} {now : Timestamp} {stored : Option ModelRecord} {changes : List ModelChange}

theorem changed_cons (change : ModelChange) (changes : List ModelChange) :
    changed owner id now (change :: changes) stored =
      changed owner id now changes (some (change.apply now (stored.getD (.blank id owner now)))) := by
  cases changes with
  | nil => rfl
  | cons next rest => rfl

theorem changed_again : changed owner id now changes (changed owner id now changes stored) =
    changed owner id now changes stored := by
  cases changes with
  | nil => rfl
  | cons change rest => exact congrArg some (ModelChange.applyAll_again now (change :: rest) _)

end

def Fine (s : Contents) : Prop := ∀ id r, s.models.get? id = some r → r.NullFree

section
variable {c : Caller} {now : Timestamp} {item : ModelImport} {items : List ModelImport} {s s' s'' : Contents}
  {counted summary : ImportSummary} {stored : Option ModelRecord} {r : ModelRecord}

theorem made_ok (valid : ValidId item.id) (fine : ∀ old, stored = some old → old.NullFree) :
    made c now item stored = .ok r ↔ ∃ change, item.States change ∧ (stored = none → change.name.isSome = true) ∧
      r = change.apply now (stored.getD (.blank item.id c.id now)) := by
  cases stored with
  | some old =>
    rw [made_stored valid (fine old rfl)]
    constructor
    · rintro ⟨change,stated,rfl⟩
      exact ⟨change,stated,fun absent => (by cases absent),rfl⟩
    · rintro ⟨change,stated,-,rfl⟩
      exact ⟨change,stated,rfl⟩
  | none =>
    refine (ModelImport.toForm_ok valid.1).trans (exists_congr fun change => and_congr_right fun _ => ?_)
    exact and_congr_left fun _ => ⟨fun whole _ => whole,fun whole => whole rfl⟩

theorem made_nullFree (whole : made c now item stored = .ok r) : r.NullFree := by
  cases stored with
  | some old =>
    obtain ⟨form,read,rfl⟩ := map_ok.mp whole
    exact Codec.modelForm_faithful.valid_read _ _ _ (mapError_ok.mp read)
  | none =>
    obtain ⟨form,read,rfl⟩ := map_ok.mp whole
    exact Codec.modelForm_faithful.valid_read _ _ _ (mapError_ok.mp read)

theorem Takes.fine (takes : Takes c (item,now) s counted s') (fine : Fine s) : Fine s' := by
  cases takes with
  | skipped unfit => exact fine
  | taken valid whole =>
    intro id r found
    rcases Keyed.get?_insert_cases found with ⟨-,rfl⟩ | ⟨-,old⟩
    · exact made_nullFree whole
    · exact fine id r old

theorem TakesAll.fine (takes : TakesAll c (items.map (·,now)) s summary s') (fine : Fine s) : Fine s' := by
  induction items generalizing s summary with
  | nil =>
    cases takes
    exact fine
  | cons item rest ih =>
    cases takes with
    | cons first others => exact ih others (first.fine fine)

def Settled (s : Contents) (item : ModelImport) : Prop :=
  ValidId item.id → item.Parses ∧ s.models.contains item.id = true

theorem Takes.settled (takes : Takes c (item,now) s counted s') (fine : Fine s) : Settled s' item := by
  intro valid
  cases takes with
  | skipped unfit => exact (unfit valid).elim
  | taken _ whole =>
    obtain ⟨change,stated,-⟩ := (made_ok valid (fine item.id)).mp whole
    refine ⟨ModelImport.parses_iff.mpr ⟨change,stated⟩,?_⟩
    simp

theorem TakesAll.settled (takes : TakesAll c (items.map (·,now)) s summary s') (fine : Fine s) :
    ∀ item ∈ items, Settled s' item := by
  induction items generalizing s summary with
  | nil => exact fun _ member => (List.not_mem_nil member).elim
  | cons item rest ih =>
    cases takes with
    | cons first others =>
      refine List.forall_mem_cons.mpr ⟨fun valid => ?_,ih others (first.fine fine)⟩
      obtain ⟨parses,stored⟩ := first.settled fine valid
      exact ⟨parses,(others.confined fun _ => id).stored _ stored⟩

theorem takesAll_settled (c : Caller) (now : Timestamp) (fine : Fine s) (settled : ∀ item ∈ items, Settled s item) :
    ∃ summary s', TakesAll c (items.map (·,now)) s summary s' := by
  induction items generalizing s with
  | nil => exact ⟨_,_,.nil⟩
  | cons item rest ih =>
    obtain ⟨own,others⟩ := List.forall_mem_cons.mp settled
    obtain ⟨counted,s',first⟩ : ∃ counted s', Takes c (item,now) s counted s' := by
      by_cases valid : ValidId item.id
      · obtain ⟨parses,stored⟩ := own valid
        obtain ⟨old,held⟩ := Option.isSome_iff_exists.mp stored
        obtain ⟨change,stated⟩ := ModelImport.parses_iff.mp parses
        refine ⟨_,_,.taken valid ((made_ok valid (fine item.id)).mpr ⟨change,stated,fun absent => ?_,rfl⟩)⟩
        cases absent.symm.trans held
      · exact ⟨_,_,.skipped valid⟩
    have confined : Confined (fun _ => True) s s' := first.confined fun _ => trivial
    have kept : ∀ other ∈ rest, Settled s' other := fun other member valid =>
      ⟨(others other member valid).1,confined.stored _ (others other member valid).2⟩
    obtain ⟨summary,s'',all⟩ := ih (first.fine fine) kept
    exact ⟨_,_,.cons first all⟩

-- What a batch leaves under an id: the model that was there, or a new one, with all changes that are said of it.
theorem TakesAll.changes (takes : TakesAll c (items.map (·,now)) s summary s') (fine : Fine s) (id : String) :
    s'.models.get? id =
      changed c.id id now ((meantFor id items).map ModelImport.stated) (s.models.get? id) := by
  -- Induction on the batch: the first item makes its change, the rest find it made.
  induction items generalizing s summary with
  | nil =>
    cases takes
    rfl
  | cons item rest ih =>
    cases takes with
    | cons first others =>
      rw [ih others (first.fine fine)]
      cases first with
      | skipped unfit =>
        have apart : ¬ (item.id = id ∧ ValidId id) := by
          rintro ⟨rfl,valid⟩
          exact unfit valid
        rw [meantFor,meantFor,List.filter_cons_of_neg (by rwa [decide_eq_true_eq])]
      | @taken r valid whole =>
        dsimp only at valid whole ⊢
        rw [Keyed.get?_insert]
        by_cases own : item.id = id
        · subst own
          obtain ⟨change,stated,-,rfl⟩ := (made_ok valid (fine item.id)).mp whole
          have meant : meantFor item.id (item :: rest) = item :: meantFor item.id rest :=
            List.filter_cons_of_pos (by rw [decide_eq_true_eq]; exact ⟨rfl,valid⟩)
          rw [if_pos rfl,meant,List.map_cons,changed_cons,stated.eq_stated]
        · have meant : meantFor id (item :: rest) = meantFor id rest :=
            List.filter_cons_of_neg (by rw [decide_eq_true_eq]; exact fun both => own both.1)
          rw [if_neg (Ne.symm own),meant]

theorem Confined.eq {named : String → Prop} (confined : Confined named s s')
    (same : ∀ id, s'.models.get? id = s.models.get? id) : s' = s := by
  have models : s'.models = s.models := Keyed.ext_get? same
  obtain ⟨-,-,connections,nextId⟩ := confined
  cases s
  cases s'
  cases models
  cases connections
  cases nextId
  rfl

theorem unstored_settled (settled : ∀ item ∈ items, Settled s item) : unstored s (items.map (·.id)) = [] := by
  refine congrArg List.eraseDups (List.filter_eq_nil_iff.mpr fun id member => ?_)
  obtain ⟨item,there,rfl⟩ := List.mem_map.mp member
  rw [decide_eq_true_eq]
  rintro ⟨valid,absent⟩
  cases absent.symm.trans (settled item there valid).2

theorem TakesAll.again (takes : TakesAll c (items.map (·,now)) s summary s') (fine : Fine s) :
    TakesAll c (items.map (·,now)) s' ⟨0,summary.created + summary.updated,summary.skipped⟩ s' := by
  have settled := takes.settled fine
  obtain ⟨again,s'',second⟩ := takesAll_settled c now (takes.fine fine) settled
  have same : s'' = s' := by
    refine (second.confined fun _ => id).eq fun id => ?_
    rw [second.changes (takes.fine fine) id,takes.changes fine id,changed_again]
  have counted : again = ⟨0,summary.created + summary.updated,summary.skipped⟩ := by
    have created := second.creates
    rw [List.map_map,show (fun item : ModelImport × Timestamp => item.1.id) ∘ (·,now) = ModelImport.id from rfl,
      unstored_settled settled] at created
    have skipped := second.skips.trans takes.skips.symm
    have total := second.total.trans takes.total.symm
    obtain ⟨createdAgain,updatedAgain,skippedAgain⟩ := again
    simp only [List.length_nil] at created skipped total
    rw [ImportSummary.mk.injEq]
    omega
  rwa [same,counted] at second

end

-- To import a batch again changes nothing: whatever was stored, whichever models it created with the caller as their
-- owner, and however many of its items are for one id.
theorem import_idempotent {live : σ → Contents} {backend : Backend σ} {good : σ → Prop}
    (mirrors : Mirrors live backend good) (st : σ) (order : good st) (filed : Filed (live st))
    (parsed : ∀ id r, (live st).models.get? id = some r → Codec.modelRecord.Reads r) (c : Caller)
    (items : List ModelImport) (now : Timestamp) :
    let outcome := (importItems c items now).run backend st
    ∀ summary, outcome.1 = .ok summary →
      let again := (importItems c items now).run backend outcome.2
      again.1 = .ok ⟨0,summary.created + summary.updated,summary.skipped⟩ ∧ live again.2 = live outcome.2 := by
  intro outcome summary done again
  have fine : Fine (live st) := fun id r found => Codec.modelRecord_faithful.valid_reads (parsed id r found)
  obtain ⟨mirrored,order'⟩ := mirrors.run (ExceptT.run (importItems c items now)) order
  have result : ((importItems c items now).run memory (live st)).1 = .ok summary :=
    (congrArg Prod.fst mirrored).trans done
  rw [importItems_eq] at result
  have takes := importEach_taken memory_serves.atomic filed result
  have left : ((importEach c (items.map (·,now))).run memory (live st)).2 = live outcome.2 := by
    rw [← importItems_eq]
    exact congrArg Prod.snd mirrored
  change TakesAll c _ (live st) summary ((importEach c (items.map (·,now))).run memory (live st)).2 at takes
  rw [left] at takes
  have second : (importItems c items now).Yields (live outcome.2)
      ⟨0,summary.created + summary.updated,summary.skipped⟩ (live outcome.2) := by
    have yields := importEach_yields ⟨0,0,0⟩ (takes.filed filed) (takes.again fine)
    rw [ImportSummary.zero_plus] at yields
    rw [importItems_eq]
    exact yields
  obtain ⟨repeated,kept,-⟩ := second.run mirrors order'
  exact ⟨repeated,kept⟩

def repetitive : List ModelImport :=
  [anonymous,withName "n2" "Two",takeover,withoutName "n2",withName "n2" "Three"]

theorem mixed_batch_again :
    let outcome := (importItems (.user "alice") repetitive arrival).run memory lockedStore
    Filed lockedStore ∧ (∀ id r, lockedStore.models.get? id = some r → Codec.modelRecord.Reads r) ∧
      outcome.1 = .ok ⟨1,3,1⟩ ∧ outcome.2 ≠ lockedStore ∧
      (importItems (.user "alice") repetitive arrival).run memory outcome.2 = (.ok ⟨0,4,1⟩,outcome.2) := by
  have filed : Filed lockedStore := filed_of_keyed (by decide_cbv)
  have parsed : ∀ id r, lockedStore.models.get? id = some r → Codec.modelRecord.Reads r := by
    intro id r found
    have held : lockedStore.models.entries = [("m1",lockedModel)] := by cbv
    have member := Keyed.get?_mem found
    rw [held] at member
    cases List.mem_singleton.mp member
    exact Codec.modelRecord_faithful.reads_valid
      (by simp [ModelRecord.NullFree,ModelParams.NullFree,OllamaOptions.NullFree,lockedModel])
  have done : ((importItems (.user "alice") repetitive arrival).run memory lockedStore).1 = .ok ⟨1,3,1⟩ := by cbv
  have created :
      ((importItems (.user "alice") repetitive arrival).run memory lockedStore).2.models.contains "n2" = true := by
    cbv
  intro outcome
  have changed : outcome.2 ≠ lockedStore := fun same => by
    rw [same] at created
    exact absurd created (by decide_cbv)
  obtain ⟨repeated,kept⟩ :=
    import_idempotent memory_mirrors lockedStore trivial filed parsed (.user "alice") repetitive arrival _ done
  exact ⟨filed,parsed,done,changed,Prod.ext repeated kept⟩

end ModelCatalog.Registry
