import ModelCatalog.Proofs.Registry.Item

namespace ModelCatalog.Registry
open Ordered Store Action DocumentStore

def firstTime (items : List (ModelImport × Timestamp)) (id : String) : Option Timestamp :=
  (items.find? fun item => item.1.id = id).map (·.2)

section
variable {c : Caller} {item : ModelImport} {now : Timestamp} {s s' : Contents} {counted : ImportSummary}

theorem Takes.moved (takes : Takes c (item,now) s counted s') (sound : Sound s) :
    Moved [now] (firstTime [(item,now)]) s s' ∧ Grows s s' ∧ (ValidId item.id → s'.models.get? item.id ≠ none) := by
  cases takes with
  | skipped unfit => exact ⟨.refl s,.refl s,fun valid => absurd valid unfit⟩
  | @taken r valid whole =>
    have own : r.id = item.id := made_id (fun old found => (sound item.id old found).1) whole
    obtain ⟨changed,created⟩ := made_times whole
    rw [← own] at valid created
    have written : Written [now] (firstTime [(item,now)]) s r.id r := by
      refine ⟨rfl,valid,List.mem_singleton.mpr changed,fun old found => ?_,fun absent => ?_⟩
      · rw [created,found]
        rfl
      · have fresh : r.createdAt = now := by rw [created,absent]; rfl
        exact ⟨by simp [firstTime,own,fresh],by rw [fresh,changed]⟩
    dsimp only
    rw [← own]
    exact ⟨put_moved written,put_grows s r,fun _ => put_contains s r⟩

theorem importEach_moves (c : Caller) (items : List (ModelImport × Timestamp)) (summary : ImportSummary)
    (clock : (items.map (·.2)).Pairwise fun t u => t.value ≤ u.value) (sound : Sound s) :
    Leads (items.foldlM (fun summary item => importItem c item.2 summary item.1) summary) s
      (fun _ => Moved (items.map (·.2)) (firstTime items) s) (Moved (items.map (·.2)) (firstTime items) s) := by
  induction items generalizing s summary with
  | nil => exact leads_pure (.refl s)
  | cons head rest ih =>
    obtain ⟨item,now⟩ := head
    obtain ⟨first,clock⟩ := List.pairwise_cons.mp clock
    have within : [now] ⊆ ((item,now) :: rest).map (·.2) := fun t member => by
      rw [List.mem_singleton.mp member]
      exact List.mem_cons_self
    have same : ∀ id t, ValidId id → firstTime [(item,now)] id = some t → firstTime ((item,now) :: rest) id = some t := by
      intro id t _ found
      by_cases own : item.id = id
      · simpa [firstTime,own] using found
      · simp [firstTime,own] at found
    rw [List.foldlM_cons]
    have taken := importItem_takes c now summary item fun old found => (sound item.id old found).1
    refine ends_bind (taken.imp (fun next s' reached => ?_) fun _ s' unchanged => by rw [unchanged.1]; exact .refl s)
    obtain ⟨counted,-,takes⟩ := reached
    obtain ⟨moved,grows,stored⟩ := takes.moved sound
    have whole : ∀ s'', Moved (rest.map (·.2)) (firstTime rest) s' s'' →
        Moved (((item,now) :: rest).map (·.2)) (firstTime ((item,now) :: rest)) s s'' := by
      intro s'' later
      refine moved.trans grows later within (List.subset_cons_self _ _) same (fun id t valid absent found => ?_) ?_
      · -- The first item's model is stored by now, so that a later item creates another one.
        have other : item.id ≠ id := fun own => stored (own ▸ valid) (own ▸ absent)
        simpa [firstTime,other] using found
      · intro t begun u member
        rw [List.mem_singleton.mp begun]
        exact first u member
    exact (ih next clock (moved.sound sound)).imp (fun _ => whole) whole

end

-- A call that changes models. It reads the clock once, or once for each item that it takes in; a reading that a
-- call does not come to may be any.
inductive Change where
  | create (caller : Caller) (form : ModelForm) (now : Timestamp)
  | importBatch (caller : Caller) (items : List (ModelImport × Timestamp))
  | sync (caller : Caller) (forms : List ModelForm) (now : Timestamp)
  | update (caller : Caller) (id : String) (form : ModelForm) (now : Timestamp)
  | toggle (caller : Caller) (id : String) (now : Timestamp)
  | delete (caller : Caller) (id : String)
  | deleteAll

namespace Change

def run (backend : Backend σ) : Change → σ → σ
  | .create caller form now,s => ((Registry.create caller form now).run backend s).2
  | .importBatch caller items,s => ((importEach caller items).run backend s).2
  | .sync caller forms now,s => ((syncReplace caller forms now).run backend s).2
  | .update caller id form now,s => ((Registry.update caller id form now).run backend s).2
  | .toggle caller id now,s => ((Registry.toggle caller id now).run backend s).2
  | .delete caller id,s => ((Registry.delete caller id).run backend s).2
  | .deleteAll,s => (Registry.deleteAll.run backend s).2

def readings : Change → List Timestamp
  | .create _ _ now | .sync _ _ now | .update _ _ _ now | .toggle _ _ now => [now]
  | .importBatch _ items => items.map (·.2)
  | .delete .. | .deleteAll => []

def creation : Change → String → Option Timestamp
  | .create _ _ now,_ | .sync _ _ now,_ => some now
  | .importBatch _ items,id => firstTime items id
  | .update .. ,_ | .toggle ..,_ | .delete ..,_ | .deleteAll,_ => none

def InOrder (readings : List Timestamp) : Prop := readings.Pairwise fun t u => t.value ≤ u.value

instance (readings : List Timestamp) : Decidable (InOrder readings) :=
  inferInstanceAs (Decidable (readings.Pairwise fun t u => t.value ≤ u.value))

theorem creation_mem {change : Change} {id : String} {t : Timestamp} (created : change.creation id = some t) : t ∈ change.readings := by
  cases change with
  | create caller form now | sync caller forms now =>
    cases created
    exact List.mem_singleton_self _
  | importBatch caller items =>
    obtain ⟨item,found,rfl⟩ := Option.map_eq_some_iff.mp created
    exact List.mem_map_of_mem (List.mem_of_find?_eq_some found)
  | update caller id form now | toggle caller id now | delete caller id | deleteAll => cases created

variable {live : σ → Contents} {backend : Backend σ} {st : σ}

theorem moves (serves : Serves live backend) (change : Change) (clock : InOrder change.readings)
    (sound : Sound (live st)) :
    Moved change.readings change.creation (live st) (live (change.run backend st)) := by
  cases change with
  | create caller form now => exact (create_moves caller form now).live serves
  | importBatch caller items => exact (importEach_moves caller items _ clock sound).live serves
  | sync caller forms now => exact (syncReplace_moves caller forms now).live serves
  | update caller id form now => exact (update_moves caller id form sound).live serves
  | toggle caller id now => exact (toggle_moves caller id sound).live serves
  | delete caller id => exact ((delete_shrinks caller id).live serves).moved
  | deleteAll => exact (deleteAll_shrinks.live serves).moved

end Change

def perform (backend : Backend σ) (changes : List Change) (st : σ) : σ :=
  changes.foldl (fun st change => change.run backend st) st

theorem perform_concat (backend : Backend σ) (changes : List Change) (change : Change) (st : σ) :
    perform backend (changes ++ [change]) st = change.run backend (perform backend changes st) := by
  rw [perform,List.foldl_append]
  rfl

-- The call that a model comes from: before it there was none of the id, since then there always was one, and the
-- creation time is the call's reading for that id.
def Originates (live : σ → Contents) (backend : Backend σ) (start : σ) (changes : List Change) (id : String)
    (created : Timestamp) : Prop :=
  ∃ before change after, changes = before ++ change :: after ∧
    (live (perform backend before start)).models.get? id = none ∧
    (∀ middle, middle <+: after → (live (perform backend (before ++ change :: middle) start)).models.get? id ≠ none) ∧
    change.creation id = some created

-- What a run of calls keeps of every model: a valid id, under which it is stored, and two times, of which the
-- first is the reading of the call that the model comes from.
structure Chronicle (live : σ → Contents) (backend : Backend σ) (start : σ) (changes : List Change) : Prop where
  records : ∀ entry ∈ (live (perform backend changes start)).models.entries,
    entry.2.id = entry.1 ∧ entry.2.id ≠ "" ∧ entry.2.id.length ≤ 256 ∧
      entry.2.createdAt.value ≤ entry.2.updatedAt.value ∧
      Originates live backend start changes entry.1 entry.2.createdAt
  constant : ∀ before change after, changes = before ++ change :: after → ∀ id old new,
    (live (perform backend before start)).models.get? id = some old →
    (live (perform backend (before ++ [change]) start)).models.get? id = some new →
      new.id = old.id ∧ new.createdAt = old.createdAt

section
variable {live : σ → Contents} {backend : Backend σ} {start : σ} {changes : List Change} {id : String} {created : Timestamp}

theorem Originates.extend {change : Change} (origin : Originates live backend start changes id created)
    (present : (live (perform backend (changes ++ [change]) start)).models.get? id ≠ none) :
    Originates live backend start (changes ++ [change]) id created := by
  obtain ⟨before,first,after,rfl,absent,since,time⟩ := origin
  refine ⟨before,first,after ++ [change],by simp,absent,fun middle start => ?_,time⟩
  rcases List.prefix_concat_iff.mp start with rfl | start
  · simpa using present
  · exact since middle start

theorem Originates.mem (origin : Originates live backend start changes id created) :
    created ∈ changes.flatMap Change.readings := by
  obtain ⟨before,change,after,rfl,-,-,time⟩ := origin
  exact List.mem_flatMap.mpr ⟨change,by simp,Change.creation_mem time⟩

-- The induction over a run: sound contents, and for each model its origin and the order of its times.
theorem performed (serves : Serves live backend) (empty : live start = .empty) (changes : List Change)
    (clock : Change.InOrder (changes.flatMap Change.readings)) :
    Sound (live (perform backend changes start)) ∧
      ∀ id r, (live (perform backend changes start)).models.get? id = some r →
        r.createdAt.value ≤ r.updatedAt.value ∧ Originates live backend start changes id r.createdAt := by
  induction changes using List.reverseRecOn with
  | nil =>
    have none : ∀ id r, (live (perform backend [] start)).models.get? id ≠ some r := by
      intro id r found
      rw [perform,List.foldl_nil,empty] at found
      cases found
    exact ⟨fun id r found => (none id r found).elim,fun id r found => (none id r found).elim⟩
  | append_singleton changes change ih =>
    rw [List.flatMap_append,List.flatMap_singleton] at clock
    obtain ⟨before,now,later⟩ := List.pairwise_append.mp clock
    obtain ⟨sound,origins⟩ := ih before
    have moved := change.moves serves now sound
    rw [← perform_concat] at moved
    refine ⟨moved.sound sound,fun id r found => ?_⟩
    have present : (live (perform backend (changes ++ [change]) start)).models.get? id ≠ none := by
      rw [found]
      exact Option.some_ne_none _
    rcases moved id r found with old | written
    · exact ⟨(origins id r old).1,(origins id r old).2.extend present⟩
    · -- A model that was there keeps its origin; a new one comes from this call.
      cases earlier : (live (perform backend changes start)).models.get? id with
      | none =>
        obtain ⟨time,order⟩ := written.created earlier
        refine ⟨order,changes,change,[],rfl,earlier,fun middle start => ?_,time⟩
        rw [List.prefix_nil.mp start]
        exact present
      | some old =>
        have origin := (origins id old earlier).2
        rw [written.kept old earlier]
        exact ⟨later _ origin.mem _ written.changed,origin.extend present⟩

theorem chronicle (serves : Serves live backend) (empty : live start = .empty)
    (clock : Change.InOrder (changes.flatMap Change.readings)) : Chronicle live backend start changes where
  records entry member := by
    obtain ⟨sound,origins⟩ := performed serves empty changes clock
    have found := Keyed.mem_get? member
    obtain ⟨own,named,short⟩ := sound entry.1 entry.2 found
    obtain ⟨order,origin⟩ := origins entry.1 entry.2 found
    exact ⟨own,own ▸ named,own ▸ short,order,origin⟩
  constant before change after split id old new found found' := by
    rw [split,List.flatMap_append,List.flatMap_cons] at clock
    obtain ⟨earlier,rest,-⟩ := List.pairwise_append.mp clock
    obtain ⟨now,-,-⟩ := List.pairwise_append.mp rest
    have sound := (performed serves empty before earlier).1
    have moved := change.moves serves now sound
    rw [← perform_concat] at moved
    have own := (sound id old found).1
    rcases moved id new found' with same | written
    · cases found.symm.trans same
      exact ⟨rfl,rfl⟩
    · exact ⟨written.own.trans own.symm,written.kept old found⟩

end

-- From an empty store on, in memory or on a document whose disk may fail at any commit.
theorem models_keep_origin {changes : List Change} (clock : Change.InOrder (changes.flatMap Change.readings)) :
    (∀ c items now, importItems c items now = importEach c (items.map (·,now))) ∧
    Chronicle id memory .empty changes ∧
    ∀ failures path d, Chronicle Scheduled.live failing (failures,⟨path,.empty⟩,d) changes :=
  ⟨importItems_eq,chronicle memory_serves rfl clock,fun _ _ _ => chronicle failing_serves rfl clock⟩

def named (id : String) : ModelImport := ⟨.ofList [("id",.text id),("name",.text id)]⟩

-- The first creation cannot write. The batch changes the model that the second one created, and cannot write the
-- next one; the model is then turned off.
def retried : List Change :=
  [.create (.admin "root") { id := "a",name := "A" } ⟨15,by decide⟩,
    .create (.admin "root") { id := "a",name := "A" } ⟨16,by decide⟩,
    .importBatch (.admin "root") [(named "a",⟨17,by decide⟩),(named "b",⟨18,by decide⟩)],
    .toggle (.admin "root") "a" ⟨19,by decide⟩]

def flaky : Scheduled :=
  ([none,some .rename,none,none,none,none,none,some .makeDirs],⟨["s.json"],.empty⟩,.empty)

theorem retried_models_keep_origin :
    Change.InOrder (retried.flatMap Change.readings) ∧
    (perform failing retried flaky).live.models.entries.map (fun entry => (entry.1,entry.2.createdAt,entry.2.updatedAt)) =
      [("a",⟨16,by decide⟩,⟨19,by decide⟩)] ∧
    ∀ entry ∈ (perform failing retried flaky).live.models.entries,
      Originates Scheduled.live failing flaky retried entry.1 entry.2.createdAt := by
  have clock : Change.InOrder (retried.flatMap Change.readings) := by decide
  have left : (perform failing retried flaky).live.models.entries.map
      (fun entry => (entry.1,entry.2.createdAt,entry.2.updatedAt)) = [("a",⟨16,by decide⟩,⟨19,by decide⟩)] := by
    decide +kernel
  have kept : Chronicle Scheduled.live failing flaky retried := (models_keep_origin clock).2.2 _ _ _
  exact ⟨clock,left,fun entry member => (kept.records entry member).2.2.2.2⟩

end ModelCatalog.Registry
