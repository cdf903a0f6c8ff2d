import ModelCatalog.Proofs.Registry.Item
import ModelCatalog.Proofs.Registry.Permission

namespace ModelCatalog.Registry
open Ordered Store Action

def laidOver (now : Timestamp) (r : ModelRecord) (items : List ModelImport) : Except Error ModelRecord :=
  items.foldlM (fun r item => (item.overlay r).map fun form => r.applyForm form now) r

-- The items of a batch that are meant for an id; those for one that is not valid are skipped.
def meantFor (id : String) (items : List ModelImport) : List ModelImport :=
  items.filter fun item => item.id = id ∧ ValidId id

-- All that a batch does to the records that were there, whoever asked for it.
def Overlays (now : Timestamp) (items : List ModelImport) (s s' : Contents) : Prop :=
  ∀ id r, s.models.get? id = some r →
    ∃ r', s'.models.get? id = some r' ∧ laidOver now r (meantFor id items) = .ok r'

section
variable {c : Caller} {s s' s'' : Contents} {now : Timestamp} {item : ModelImport} {items more : List ModelImport}
  {counted : ImportSummary}

theorem Overlays.refl (s : Contents) : Overlays now [] s s := fun _ r found => ⟨r,found,rfl⟩

theorem Overlays.trans (first : Overlays now items s s') (second : Overlays now more s' s'') :
    Overlays now (items ++ more) s s'' := by
  intro id r found
  obtain ⟨middle,held,laid⟩ := first id r found
  obtain ⟨last,held',laid'⟩ := second id middle held
  refine ⟨last,held',?_⟩
  unfold laidOver at laid laid' ⊢
  rw [meantFor,List.filter_append,List.foldlM_append]
  exact (congrArg (· >>= _) laid).trans laid'

theorem Overlays.skip (refused : ¬ ValidId item.id) : Overlays now [item] s s := by
  intro id r found
  have none : meantFor id [item] = [] := by
    refine List.filter_eq_nil_iff.mpr fun other member => ?_
    rw [List.mem_singleton.mp member,decide_eq_true_eq]
    rintro ⟨rfl,valid⟩
    exact refused valid
  exact ⟨r,found,by rw [none]; rfl⟩

theorem Overlays.put {r : ModelRecord} (own : r.id = item.id) (valid : ValidId item.id)
    (laid : ∀ stored, s.models.get? item.id = some stored →
      (item.overlay stored).map (fun form => stored.applyForm form now) = .ok r) :
    Overlays now [item] s { s with models := s.models.insert r.id r } := by
  intro id stored found
  by_cases same : item.id = id
  · cases same
    have one : meantFor item.id [item] = [item] := by simp [meantFor,valid]
    refine ⟨r,?_,?_⟩
    · change (s.models.insert r.id r).get? item.id = some r
      simp [own]
    · rw [one,laidOver,List.foldlM_cons,laid stored found]
      rfl
  · have none : meantFor id [item] = [] := by simp [meantFor,same]
    refine ⟨stored,?_,by rw [none]; rfl⟩
    change (s.models.insert r.id r).get? id = some stored
    simp [own,Ne.symm same,found]

theorem Takes.overlays (takes : Takes c (item,now) s counted s') (filed : Filed s) : Overlays now [item] s s' := by
  cases takes with
  | skipped unfit => exact .skip unfit
  | @taken r valid whole =>
    have own : r.id = item.id := made_id (filed item.id) whole
    have put : Overlays now [item] s { s with models := s.models.insert r.id r } := by
      refine .put own valid fun stored found => ?_
      dsimp only at whole
      rw [found] at whole
      exact whole
    rwa [own] at put

theorem importItems_ends (c : Caller) (items : List ModelImport) (now : Timestamp) (summary : ImportSummary)
    (filed : Filed s) :
    Ends (items.foldlM (importItem c now) summary) s (fun _ s' => Overlays now items s s')
      (fun e s' => ∃ taken rest, items = taken ++ rest ∧ rest ≠ [] ∧ (∀ subject, e ≠ .forbidden subject) ∧
        Overlays now taken s s') := by
  induction items generalizing s summary with
  | nil => exact ends_pure (.refl s)
  | cons item rest ih =>
    rw [List.foldlM_cons]
    refine ends_bind ((importItem_takes c now summary item (filed item.id)).imp (fun next s' reached => ?_)
      fun e s' kept => ?_)
    · obtain ⟨counted,-,takes⟩ := reached
      have first := takes.overlays filed
      refine (ih next (takes.filed filed)).imp (fun _ s'' later => first.trans later) fun e s'' stopped => ?_
      obtain ⟨taken,left,rfl,some,other,later⟩ := stopped
      exact ⟨item :: taken,left,rfl,some,other,first.trans later⟩
    · obtain ⟨rfl,other⟩ := kept
      exact ⟨[],item :: rest,rfl,List.cons_ne_nil _ _,other,.refl s'⟩

end

-- What is left of a batch: nothing if it succeeded. It never fails for the want of a grant.
def Stopped : Except Error ImportSummary → List ModelImport → Prop
  | .ok _,rest => rest = []
  | .error e,rest => rest ≠ [] ∧ ∀ subject, e ≠ .forbidden subject

theorem laidOver_updatedAt {now : Timestamp} {r r' : ModelRecord} {items : List ModelImport} (some : items ≠ [])
    (laid : laidOver now r items = .ok r') : r'.updatedAt = now := by
  induction items generalizing r with
  | nil => exact (some rfl).elim
  | cons item rest ih =>
    rw [laidOver,List.foldlM_cons,Json.bind_ok] at laid
    obtain ⟨next,first,later⟩ := laid
    cases rest with
    | nil =>
      cases later
      obtain ⟨form,-,rfl⟩ := Json.map_ok.mp first
      rfl
    | cons other others => exact ih (List.cons_ne_nil _ _) later

section
variable {live : σ → Contents} {backend : Backend σ} {st : σ} {c : Caller} {id : String} {r : ModelRecord}

theorem update_forbidden (serves : Serves live backend) (filed : Filed (live st))
    (found : (live st).models.get? id = some r) (form : ModelForm) (now : Timestamp) :
    ((update c id form now).run backend st).1 = .error (.forbidden (.model id)) ↔ Barred c r .write := by
  rw [update_gated]
  constructor
  · intro answered
    obtain ⟨other,held,barred,-⟩ := gated_forbidden serves
      (fun r => (save_ends _).imp (fun _ _ _ => trivial) fun _ _ kept => kept.2) answered
    cases found.symm.trans held
    exact barred
  · intro barred
    rw [gated_barred serves found barred,filed id r found]

-- A batch overlays the records that it names, whoever asks for it: those that the caller may not update as well as
-- the others. What it does not name stays as it is, and what it names has the time of the batch.
theorem import_overlays_stored (serves : Serves live backend) (filed : Filed (live st)) (c : Caller)
    (items : List ModelImport) (now : Timestamp) :
    let outcome := (importItems c items now).run backend st
    ∃ taken rest, items = taken ++ rest ∧ Stopped outcome.1 rest ∧
      ∀ id r, (live st).models.get? id = some r →
        (∀ form t, ((update c id form t).run backend st).1 = .error (.forbidden (.model id)) ↔ Barred c r .write) ∧
        ∃ r', (live outcome.2).models.get? id = some r' ∧ laidOver now r (meantFor id taken) = .ok r' ∧
          (meantFor id taken = [] → r' = r) ∧ (meantFor id taken ≠ [] → r'.updatedAt = now) := by
  intro outcome
  have ended := (importItems_ends c items now ⟨0,0,0⟩ filed).run serves
  change concluding _ _ outcome.1 (live outcome.2) at ended
  obtain ⟨taken,rest,split,stopped,overlays⟩ : ∃ taken rest, items = taken ++ rest ∧ Stopped outcome.1 rest ∧
      Overlays now taken (live st) (live outcome.2) := by
    cases result : outcome.1 with
    | ok summary =>
      rw [result] at ended
      exact ⟨items,[],(List.append_nil _).symm,rfl,ended⟩
    | error e =>
      rw [result] at ended
      obtain ⟨taken,rest,split,left,other,overlays⟩ := ended
      exact ⟨taken,rest,split,⟨left,other⟩,overlays⟩
  refine ⟨taken,rest,split,stopped,?_⟩
  intro id r found
  refine ⟨fun form t => update_forbidden serves filed found form t,?_⟩
  obtain ⟨r',held,laid⟩ := overlays id r found
  refine ⟨r',held,laid,?_,?_⟩
  · intro none
    rw [none] at laid
    cases laid
    rfl
  · intro some
    exact laidOver_updatedAt some laid

end

def lockedModel : ModelRecord where
  id := "m1"
  owner := "bob"
  baseModelId := none
  name := "One"
  params := {}
  info := {}
  access := some ⟨none,none⟩
  isActive := true
  createdAt := ⟨1700000000,by decide⟩
  updatedAt := ⟨1700000000,by decide⟩

def lockedStore : Contents := { Contents.empty with models := .ofList [("m1",lockedModel)] }

def takeover : ModelImport :=
  ⟨.ofList [("id",.text "m1"),("name",.text "Taken"),("user_id",.text "alice"),("access_control",.null)]⟩

-- What the caller may not update, a batch of the caller's takes over.
theorem locked_model_taken_over :
    let alice := Caller.user "alice"
    let outcome := (importItems alice [takeover] ⟨1700000060,by decide⟩).run memory lockedStore
    Barred alice lockedModel .write ∧
      ((update alice "m1" { id := "m1",name := "Taken" } ⟨1700000060,by decide⟩).run memory lockedStore).1 =
        .error (.forbidden (.model "m1")) ∧
      outcome.1 = .ok ⟨0,1,0⟩ ∧
      ∃ r', outcome.2.models.get? "m1" = some r' ∧ r'.owner = "alice" ∧ r'.access = none := by
  intro alice outcome
  have filed : Filed lockedStore := filed_of_keyed (by decide +kernel)
  have held : lockedStore.models.get? "m1" = some lockedModel := by decide +kernel
  have barred : Barred alice lockedModel .write := by decide +kernel
  have done : outcome.1 = .ok ⟨0,1,0⟩ := Json.ok_of_toOption (by decide +kernel)
  obtain ⟨taken,rest,split,stopped,each⟩ :=
    import_overlays_stored memory_serves filed alice [takeover] ⟨1700000060,by decide⟩
  change Stopped outcome.1 rest at stopped
  rw [done] at stopped
  cases stopped
  rw [List.append_nil] at split
  cases split
  obtain ⟨refused,r',stored,laid,-⟩ := each "m1" lockedModel held
  have seen : (laidOver ⟨1700000060,by decide⟩ lockedModel (meantFor "m1" [takeover])).toOption.map
      (fun r => (r.owner,r.access)) = some ("alice",none) := by decide +kernel
  rw [laid] at seen
  injection seen with same
  injection same with owner access
  exact ⟨barred,(refused _ _).mpr barred,done,r',stored,owner,access⟩

end ModelCatalog.Registry
