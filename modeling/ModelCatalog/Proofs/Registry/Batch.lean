import Mathlib
import ModelCatalog.Proofs.Registry.Backup

namespace ModelCatalog
open Ordered Json

-- An item has no name to go by: its id is missing, no text, empty or too long.
inductive ModelImport.Nameless (item : ModelImport) : Prop where
  | missing (absent : item.members.get? "id" = none)
  | untyped {value : Value} (held : item.members.get? "id" = some value) (other : ∀ text, value ≠ .text text)
  | empty (held : item.members.get? "id" = some (.text ""))
  | long {text : String} (held : item.members.get? "id" = some (.text text)) (long : 256 < text.length)

namespace Registry
open Store Action

theorem nameless_iff {item : ModelImport} : item.Nameless ↔ ¬ ValidId item.id := by
  have named {text : String} (held : item.members.get? "id" = some (.text text)) : item.id = text := by
    rw [ModelImport.id,held]
    rfl
  constructor
  · rintro nameless ⟨some,short⟩
    cases nameless with
    | missing absent => exact some (by rw [ModelImport.id,absent]; rfl)
    | untyped held other =>
      refine some ?_
      rw [ModelImport.id,held,Option.bind_some]
      exact congrArg (Option.getD · "") (Option.eq_none_iff_forall_ne_some.mpr fun text read =>
        other text (Value.text?_some.mp read))
    | empty held => exact some (named held)
    | long held long =>
      rw [named held] at short
      exact absurd long (Nat.not_lt.mpr short)
  · intro unfit
    cases held : item.members.get? "id" with
    | none => exact .missing held
    | some value =>
      cases read : value.text? with
      | none => exact .untyped held fun text same => by rw [Value.text?_some.mpr same] at read; cases read
      | some text =>
        rw [Value.text?_some.mp read] at held
        rw [named held] at unfit
        by_cases empty : text = ""
        · exact .empty (empty ▸ held)
        · exact .long held (Nat.lt_of_not_le fun short => unfit ⟨empty,short⟩)

instance (item : ModelImport) : Decidable item.Nameless := decidable_of_iff _ nameless_iff.symm

section
variable {c : Caller} {backend : Backend σ} {st : σ} {e : Error}

theorem importItem_plus (c : Caller) (now : Timestamp) (first summary : ImportSummary) (item : ModelImport) :
    importItem c now (first.plus summary) item = first.plus <$> importItem c now summary item := by
  rw [importItem_made,importItem_made]
  split
  · simp only [map_bind,map_pure,ImportSummary.plus_plus]
  · rw [map_pure,ImportSummary.plus_plus]

theorem foldlM_plus (c : Caller) (items : List (ModelImport × Timestamp)) (first summary : ImportSummary) :
    items.foldlM (fun summary item => importItem c item.2 summary item.1) (first.plus summary) =
      first.plus <$> items.foldlM (fun summary item => importItem c item.2 summary item.1) summary := by
  induction items generalizing summary with
  | nil => exact (map_pure first.plus summary).symm
  | cons item rest ih =>
    rw [List.foldlM_cons,List.foldlM_cons,importItem_plus,map_bind,bind_map_left]
    exact congrArg (importItem c item.2 summary item.1 >>= ·) (funext ih)

theorem importEach_one (c : Caller) (item : ModelImport × Timestamp) :
    importEach c [item] = importItem c item.2 ⟨0,0,0⟩ item.1 := by
  rw [importEach,List.foldlM_cons]
  exact bind_pure _

theorem importEach_append (c : Caller) (first second : List (ModelImport × Timestamp)) :
    importEach c (first ++ second) = importEach c first >>= fun summary => summary.plus <$> importEach c second := by
  rw [importEach,List.foldlM_append]
  exact congrArg (importEach c first >>= ·) (funext fun summary => foldlM_plus c second summary ⟨0,0,0⟩)

theorem importEach_goes_on {first : List (ModelImport × Timestamp)} {summary : ImportSummary}
    (done : ((importEach c first).run backend st).1 = .ok summary) (second : List (ModelImport × Timestamp)) :
    let behind := (importEach c second).run backend ((importEach c first).run backend st).2
    (importEach c (first ++ second)).run backend st = (behind.1.map summary.plus,behind.2) := by
  intro behind
  rw [importEach_append,run_bind_run,done]
  exact run_map summary.plus (importEach c second) _

theorem importEach_fails {first : List (ModelImport × Timestamp)}
    (failed : ((importEach c first).run backend st).1 = .error e) (second : List (ModelImport × Timestamp)) :
    (importEach c (first ++ second)).run backend st = (importEach c first).run backend st := by
  rw [importEach_append,run_bind_run,failed]
  exact Prod.ext failed.symm rfl

-- A batch that fails has taken in all items before one, and fails as this one does alone behind them.
theorem importEach_stopped {items : List (ModelImport × Timestamp)}
    (failed : ((importEach c items).run backend st).1 = .error e) :
    ∃ taken item rest summary, items = taken ++ item :: rest ∧
      ((importEach c taken).run backend st).1 = .ok summary ∧
      (importEach c [item]).run backend ((importEach c taken).run backend st).2 = (importEach c items).run backend st := by
  induction items generalizing st with
  | nil => cases failed
  | cons item rest ih =>
    cases alone : ((importEach c [item]).run backend st).1 with
    | error other => exact ⟨[],item,rest,⟨0,0,0⟩,rfl,rfl,(importEach_fails alone rest).symm⟩
    | ok first =>
      have whole : (importEach c (item :: rest)).run backend st = _ := importEach_goes_on alone rest
      rw [whole] at failed ⊢
      cases behind : ((importEach c rest).run backend ((importEach c [item]).run backend st).2).1 with
      | ok more =>
        rw [behind] at failed
        cases failed
      | error other =>
        rw [behind] at failed
        cases failed
        obtain ⟨taken,stop,left,summary,rfl,done,same⟩ := ih behind
        have reached : (importEach c (item :: taken)).run backend st = _ := importEach_goes_on alone taken
        refine ⟨item :: taken,stop,left,first.plus summary,rfl,?_,?_⟩
        · rw [reached,done]
          rfl
        · rw [reached,same]
          exact Prod.ext behind rfl

theorem importEach_steady {view : σ → ν} (steady : Steady view backend) {item : ModelImport × Timestamp}
    (failed : ((importEach c [item]).run backend st).1 = .error e) :
    view ((importEach c [item]).run backend st).2 = view st := by
  rw [importEach_one] at failed ⊢
  exact Script.CommitsLast.run steady (importItem_last c item.2 ⟨0,0,0⟩ item.1) failed

theorem importEach_halts {live : σ → Contents} (atomic : Atomic live backend) {items : List (ModelImport × Timestamp)}
    (failed : ((importEach c items).run backend st).1 = .error e) :
    ∃ taken item rest summary, items = taken ++ item :: rest ∧
      let before := (importEach c taken).run backend st
      before.1 = .ok summary ∧ ((importEach c [item]).run backend before.2).1 = .error e ∧
        live ((importEach c items).run backend st).2 = live before.2 ∧
        ∀ {ν : Type} (view : σ → ν), Steady view backend → view ((importEach c items).run backend st).2 = view before.2 := by
  obtain ⟨taken,item,rest,summary,split,done,same⟩ := importEach_stopped failed
  rw [← same] at failed ⊢
  exact ⟨taken,item,rest,summary,split,done,failed,importEach_steady atomic.steady failed,
    fun view steady => importEach_steady steady failed⟩

end

inductive TakesAll (c : Caller) : List (ModelImport × Timestamp) → Contents → ImportSummary → Contents → Prop where
  | nil {s} : TakesAll c [] s ⟨0,0,0⟩ s
  | cons {item items s s' s'' counted summary} (first : Takes c item s counted s')
      (rest : TakesAll c items s' summary s'') : TakesAll c (item :: items) s (counted.plus summary) s''

section
variable {c : Caller} {item : ModelImport × Timestamp} {items : List (ModelImport × Timestamp)} {s s' s'' : Contents}
  {counted summary : ImportSummary}

theorem importItem_fails {now : Timestamp} {item : ModelImport} (first : ImportSummary)
    (own : ∀ old, s.models.get? item.id = some old → old.id = item.id)
    (untaken : ∀ counted s', ¬ Takes c (item,now) s counted s') :
    ∃ e, (importItem c now first item).run memory s = (.error e,s) := by
  have ended := (importItem_takes c now first item own).conclude memory_serves.atomic
  cases result : ((importItem c now first item).run memory s).1 with
  | ok summary =>
    rw [result] at ended
    obtain ⟨counted,-,takes⟩ := ended
    exact (untaken _ _ takes).elim
  | error e =>
    rw [result] at ended
    exact ⟨e,Prod.ext result ended.1⟩

theorem importEach_takes (c : Caller) (items : List (ModelImport × Timestamp)) (first : ImportSummary) (filed : Filed s) :
    Ends (items.foldlM (fun summary item => importItem c item.2 summary item.1) first) s
      (fun summary s' => ∃ counted, summary = first.plus counted ∧ TakesAll c items s counted s') fun _ _ => True := by
  induction items generalizing s first with
  | nil => exact ends_pure ⟨⟨0,0,0⟩,rfl,.nil⟩
  | cons item rest ih =>
    rw [List.foldlM_cons]
    have taken := importItem_takes c item.2 first item.1 (filed item.1.id)
    refine ends_bind (taken.imp (fun next s' reached => ?_) fun _ _ _ => trivial)
    obtain ⟨counted,rfl,takes⟩ := reached
    refine (ih (first.plus counted) (takes.filed filed)).imp (fun summary s'' later => ?_) fun _ _ => id
    obtain ⟨more,rfl,all⟩ := later
    exact ⟨counted.plus more,ImportSummary.plus_plus first counted more,.cons takes all⟩

theorem importEach_yields (first : ImportSummary) (filed : Filed s) (takes : TakesAll c items s summary s') :
    Yields (items.foldlM (fun summary item => importItem c item.2 summary item.1) first) s (first.plus summary) s' := by
  induction takes generalizing first with
  | nil => exact yields_pure _
  | @cons item _ _ _ _ counted summary head rest ih =>
    have later := ih (first.plus counted) (head.filed filed)
    rw [ImportSummary.plus_plus] at later
    rw [List.foldlM_cons]
    exact yields_bind (importItem_yields first (filed item.1.id) head) later

theorem importEach_taken {live : σ → Contents} {backend : Backend σ} (atomic : Atomic live backend) {st : σ}
    (filed : Filed (live st)) (done : ((importEach c items).run backend st).1 = .ok summary) :
    TakesAll c items (live st) summary (live ((importEach c items).run backend st).2) := by
  have ended := (importEach_takes c items ⟨0,0,0⟩ filed).conclude atomic
  change concluding _ _ ((importEach c items).run backend st).1 ((importEach c items).run backend st).2 at ended
  rw [done] at ended
  obtain ⟨counted,rfl,takes⟩ := ended
  rwa [ImportSummary.zero_plus]

theorem TakesAll.filed (takes : TakesAll c items s summary s') (filed : Filed s) : Filed s' := by
  induction takes with
  | nil => exact filed
  | cons first rest ih => exact ih (first.filed filed)

theorem TakesAll.total (takes : TakesAll c items s summary s') :
    summary.created + summary.updated + summary.skipped = items.length := by
  induction takes with
  | nil => rfl
  | cons first rest ih =>
    rw [List.length_cons,← ih]
    cases first with
    | skipped unfit => simp only [ImportSummary.plus]; omega
    | taken valid whole =>
      unfold tally
      split <;> simp only [ImportSummary.plus] <;> omega

theorem TakesAll.skips (takes : TakesAll c items s summary s') :
    summary.skipped = items.countP fun item => item.1.Nameless := by
  induction takes with
  | nil => rfl
  | @cons item items _ _ _ _ _ first rest ih =>
    rw [List.countP_cons,← ih]
    cases first with
    | skipped unfit =>
      rw [if_pos (decide_eq_true (nameless_iff.mpr unfit))]
      exact Nat.add_comm 1 _
    | taken valid whole =>
      rw [if_neg (by rw [decide_eq_true_eq,nameless_iff]; exact not_not_intro valid)]
      unfold tally
      split <;> exact Nat.zero_add _

end

-- The different valid ids among some for which nothing is stored.
def unstored (s : Contents) (ids : List String) : List String :=
  (ids.filter fun id => ValidId id ∧ s.models.contains id = false).eraseDups

-- What a batch leaves alone: every id that is stored is stored behind it, and nothing changes but the models of the ids
-- that are named.
structure Confined (named : String → Prop) (s s' : Contents) : Prop where
  stored : ∀ id, s.models.contains id = true → s'.models.contains id = true
  others : ∀ id, ¬ named id → s'.models.get? id = s.models.get? id
  connections : s'.connections = s.connections
  nextId : s'.nextId = s.nextId

def Named (items : List (ModelImport × Timestamp)) (id : String) : Prop :=
  ValidId id ∧ ∃ item ∈ items, item.1.id = id

section
variable {c : Caller} {item : ModelImport × Timestamp} {items : List (ModelImport × Timestamp)} {s s' s'' : Contents}
  {counted summary : ImportSummary} {id : String} {ids : List String}

theorem unstored_skip (known : ¬ (ValidId id ∧ s.models.contains id = false)) :
    unstored s (id :: ids) = unstored s ids := by
  rw [unstored,List.filter_cons_of_neg (by rwa [decide_eq_true_eq])]
  rfl

theorem unstored_insert (s : Contents) (id : String) (r : ModelRecord) (ids : List String) :
    unstored { s with models := s.models.insert id r } ids =
      ((ids.filter fun id => ValidId id ∧ s.models.contains id = false).filter fun other => !other == id).eraseDups := by
  rw [unstored,List.filter_filter]
  refine congrArg List.eraseDups (List.filter_congr fun other _ => ?_)
  by_cases same : other = id
  · simp [same]
  · simp [same]

theorem unstored_new (valid : ValidId id) (absent : s.models.contains id = false) (r : ModelRecord) (ids : List String) :
    unstored s (id :: ids) = id :: unstored { s with models := s.models.insert id r } ids := by
  rw [unstored_insert,unstored,List.filter_cons_of_pos (by rw [decide_eq_true_eq]; exact ⟨valid,absent⟩),
    List.eraseDups_cons]

theorem unstored_replaced (held : s.models.contains id = true) (r : ModelRecord) (ids : List String) :
    unstored { s with models := s.models.insert id r } ids = unstored s ids := by
  rw [unstored_insert,unstored]
  refine congrArg List.eraseDups (List.filter_eq_self.mpr fun other member => ?_)
  have absent := (of_decide_eq_true (List.mem_filter.mp member).2).2
  have apart : other ≠ id := fun same => by rw [same,held] at absent; cases absent
  simpa using apart

-- What is created is what was not there: an id that comes again is an update by then.
theorem TakesAll.creates (takes : TakesAll c items s summary s') :
    summary.created = (unstored s (items.map (·.1.id))).length := by
  induction takes with
  | nil => rfl
  | @cons item items s _ _ _ _ first rest ih =>
    rw [List.map_cons]
    cases first with
    | skipped unfit =>
      rw [unstored_skip fun new => unfit new.1,← ih]
      exact Nat.zero_add _
    | @taken r valid whole =>
      cases held : s.models.contains item.1.id with
      | true =>
        have known : ¬ (ValidId item.1.id ∧ s.models.contains item.1.id = false) := fun new => by
          cases held.symm.trans new.2
        rw [unstored_skip known,← unstored_replaced held r,← ih]
        exact Nat.zero_add _
      | false =>
        rw [unstored_new valid held r,List.length_cons,← ih]
        exact Nat.add_comm 1 _

theorem Confined.refl (named : String → Prop) (s : Contents) : Confined named s s :=
  ⟨fun _ held => held,fun _ _ => rfl,rfl,rfl⟩

theorem Confined.trans {named : String → Prop} (first : Confined named s s') (second : Confined named s' s'') :
    Confined named s s'' where
  stored id held := second.stored id (first.stored id held)
  others id apart := (second.others id apart).trans (first.others id apart)
  connections := second.connections.trans first.connections
  nextId := second.nextId.trans first.nextId

theorem Takes.confined (takes : Takes c item s counted s') {named : String → Prop}
    (within : ValidId item.1.id → named item.1.id) : Confined named s s' := by
  cases takes with
  | skipped unfit => exact .refl named s
  | taken valid whole =>
    refine ⟨fun id held => Keyed.contains_insert held _ _,fun id apart => ?_,rfl,rfl⟩
    have other : id ≠ item.1.id := fun same => apart (same ▸ within valid)
    simp [other]

theorem TakesAll.confined (takes : TakesAll c items s summary s') {named : String → Prop}
    (within : ∀ id, Named items id → named id) : Confined named s s' := by
  induction takes with
  | nil => exact .refl named _
  | cons first rest ih =>
    refine (first.confined fun valid => within _ ⟨valid,_,List.mem_cons_self,rfl⟩).trans (ih fun id others => ?_)
    obtain ⟨valid,item,member,own⟩ := others
    exact within id ⟨valid,item,List.mem_cons_of_mem _ member,own⟩

end

-- A batch is taken in item by item, each at a clock reading of its own, and stops at the first that fails. On a store
-- whose calls may be refused: one part of the batch behind the other does what the whole does; where it succeeds, each
-- item is counted once, as what it was; where it fails, it has done what the items before the failing one do, and
-- nothing else is seen of it. It loses no model, and it changes none that it does not name.
theorem import_stops_cleanly {live : σ → Contents} {backend : Backend σ} (atomic : Atomic live backend) (c : Caller)
    (items : List (ModelImport × Timestamp)) (st : σ) (filed : Filed (live st)) :
    let outcome := (importEach c items).run backend st
    (∀ now sent, items = sent.map (·,now) → importItems c sent now = importEach c items) ∧
      (∀ more, let behind := (importEach c more).run backend outcome.2
        (∀ summary, outcome.1 = .ok summary →
          (importEach c (items ++ more)).run backend st = (behind.1.map summary.plus,behind.2)) ∧
        ∀ e, outcome.1 = .error e → (importEach c (items ++ more)).run backend st = outcome) ∧
      (∀ summary, outcome.1 = .ok summary →
        summary.created + summary.updated + summary.skipped = items.length ∧
        summary.created = (unstored (live st) (items.map (·.1.id))).length ∧
        summary.skipped = items.countP fun item => item.1.Nameless) ∧
      (∀ e, outcome.1 = .error e → ∃ taken item rest summary, items = taken ++ item :: rest ∧
        let before := (importEach c taken).run backend st
        before.1 = .ok summary ∧ ((importEach c [item]).run backend before.2).1 = .error e ∧
          live outcome.2 = live before.2 ∧
          ∀ {ν : Type} (view : σ → ν), Steady view backend → view outcome.2 = view before.2) ∧
      Confined (Named items) (live st) (live outcome.2) := by
  intro outcome
  refine ⟨?_,?_,?_,fun e => importEach_halts atomic,?_⟩
  · rintro now sent rfl
    exact importItems_eq c sent now
  · intro more behind
    exact ⟨fun summary done => importEach_goes_on done more,fun e failed => importEach_fails failed more⟩
  · intro summary done
    have takes := importEach_taken atomic filed done
    exact ⟨takes.total,takes.creates,takes.skips⟩
  · cases result : outcome.1 with
    | ok summary => exact (importEach_taken atomic filed result).confined fun _ => id
    | error e =>
      obtain ⟨taken,item,rest,summary,rfl,done,-,same,-⟩ := importEach_halts atomic result
      rw [same]
      refine (importEach_taken atomic filed done).confined fun id named => ?_
      obtain ⟨valid,item,member,own⟩ := named
      exact ⟨valid,item,List.mem_append_left _ member,own⟩

def anonymous : ModelImport := ⟨.ofList [("id",.null),("name",.text "Nobody")]⟩

def withName (id name : String) : ModelImport := ⟨.ofList [("id",.text id),("name",.text name)]⟩

def withoutName (id : String) : ModelImport := ⟨.ofList [("id",.text id)]⟩

def arrival : Timestamp := ⟨1700000100,by decide⟩

-- An item without an id, a new model, one that is there, and the new one again.
def mixed : List (ModelImport × Timestamp) :=
  [anonymous,withName "n2" "Two",takeover,withoutName "n2"].map (·,arrival)

def unreadable : List (ModelImport × Timestamp) :=
  [withoutName "n3",withName "n4" "Four"].map (·,arrival)

-- One batch behind the other: it stops at the item that cannot be read, and what comes behind that is not taken in.
theorem mixed_batch_stops :
    let outcome := (importEach (.user "alice") mixed).run memory lockedStore
    let whole := (importEach (.user "alice") (mixed ++ unreadable)).run memory lockedStore
    Filed lockedStore ∧ outcome.1 = .ok ⟨1,2,1⟩ ∧ unstored lockedStore (mixed.map (·.1.id)) = ["n2"] ∧
      (mixed.countP fun item => item.1.Nameless) = 1 ∧
      whole = (.error (.invalid (.importItem "n3" (.mismatch (.missingField "name")))),outcome.2) ∧
      Confined (Named (mixed ++ unreadable)) lockedStore outcome.2 := by
  have filed : Filed lockedStore := filed_of_keyed (by decide_cbv)
  have done : ((importEach (.user "alice") mixed).run memory lockedStore).1 = .ok ⟨1,2,1⟩ := by cbv
  have new : unstored lockedStore (mixed.map (·.1.id)) = ["n2"] := by cbv
  have stopped : (importEach (.user "alice") unreadable).run memory
      ((importEach (.user "alice") mixed).run memory lockedStore).2 =
      (.error (.invalid (.importItem "n3" (.mismatch (.missingField "name")))),
        ((importEach (.user "alice") mixed).run memory lockedStore).2) := by
    cbv
  intro outcome whole
  obtain ⟨-,appended,counts,-,-⟩ := import_stops_cleanly memory_serves.atomic (.user "alice") mixed lockedStore filed
  obtain ⟨-,-,skipped⟩ := counts _ done
  have one : whole = _ := (appended unreadable).1 _ done
  have confined : Confined (Named (mixed ++ unreadable)) lockedStore whole.2 :=
    (import_stops_cleanly memory_serves.atomic (.user "alice") (mixed ++ unreadable) lockedStore filed).2.2.2.2
  refine ⟨filed,done,new,skipped.symm,?_,?_⟩
  · rw [one,stopped]
    rfl
  · rw [one,stopped] at confined
    exact confined

end Registry
end ModelCatalog
