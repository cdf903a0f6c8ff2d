import ModelCatalog.Proofs.Registry.Backup

namespace ModelCatalog
open Ordered

-- What keeps a caller from a record: who is neither an administrator nor its owner needs a grant, and of the record's
-- grants the rule for the permission is missing, or it names neither the caller nor a group of the caller's.
structure KeptOut (c : Caller) (r : ModelRecord) (permission : Permission) : Prop where
  ordinary : c.role ≠ .admin
  foreign : c.id ≠ r.owner
  ungranted : ∃ access, r.access = some access ∧ ∀ rule, access.rule? permission = some rule →
    c.id ∉ rule.users.toList ∧ ∀ group ∈ c.groups.toList, group ∉ rule.groups.toList

theorem AccessRule.names_eq_false {rule : AccessRule} {c : Caller} :
    rule.names c = false ↔ c.id ∉ rule.users.toList ∧ ∀ group ∈ c.groups.toList, group ∉ rule.groups.toList := by
  unfold names
  rw [Bool.or_eq_false_iff,List.any_eq_false,KeySet.mem_toList,Bool.not_eq_true]
  refine and_congr_right fun _ => forall_congr' fun group => forall_congr' fun _ => ?_
  rw [KeySet.mem_toList]

theorem grants_eq_false {access : Option AccessControl} {c : Caller} {permission : Permission} :
    grants access c permission = false ↔
      ∃ a, access = some a ∧ ∀ rule, a.rule? permission = some rule → rule.names c = false := by
  cases access with
  | none => simp [grants]
  | some a => cases found : a.rule? permission <;> simp [grants,found]

theorem barred_iff {c : Caller} {r : ModelRecord} {permission : Permission} :
    Barred c r permission ↔ KeptOut c r permission := by
  have spelled : Barred c r permission ↔ c.role ≠ .admin ∧ c.id ≠ r.owner ∧ ∃ access, r.access = some access ∧
      ∀ rule, access.rule? permission = some rule →
        c.id ∉ rule.users.toList ∧ ∀ group ∈ c.groups.toList, group ∉ rule.groups.toList := by
    unfold Barred
    simp only [Caller.isAdmin,Caller.owns,decide_eq_false_iff_not,grants_eq_false,AccessRule.names_eq_false]
  rw [spelled]
  exact ⟨fun ⟨ordinary,foreign,ungranted⟩ => ⟨ordinary,foreign,ungranted⟩,
    fun kept => ⟨kept.ordinary,kept.foreign,kept.ungranted⟩⟩

namespace Registry
open Store Action

def Operation.needs : Operation → Option (Caller × String × Permission)
  | .getModel c id => some (c,id,.read)
  | .toggleModel c id _ | .updateModel c id _ _ | .deleteModel c id => some (c,id,.write)
  | _ => none

def Operation.leaves (r : ModelRecord) : Operation → Option ModelRecord
  | .toggleModel _ _ now => some { r with isActive := !r.isActive,updatedAt := now }
  | .updateModel _ _ form now => some {
      id := r.id
      owner := match form.owner with
        | some owner => owner
        | none => r.owner
      baseModelId := form.baseModelId
      name := form.name
      params := form.params
      info := form.info
      access := form.access
      isActive := form.isActive
      createdAt := r.createdAt
      updatedAt := now }
  | .deleteModel .. => none
  | _ => some r

def Operation.shows : (op : Operation) → op.Result → Option ModelRecord
  | .getModel ..,r => some r
  | .toggleModel ..,r => some r
  | .updateModel ..,r => some r
  | _,_ => none

structure Sets (id : String) (kept : Option ModelRecord) (s s' : Contents) : Prop where
  there : s'.models.get? id = kept
  others : ∀ other, other ≠ id → s'.models.get? other = s.models.get? other
  connections : s'.connections = s.connections
  nextId : s'.nextId = s.nextId

-- Somebody asks for a permission on a model: the model is missing, or the caller is kept out of it, or the operation
-- succeeds.
inductive Decided (s : Contents) (op : Operation) (c : Caller) (id : String) (permission : Permission) :
    Except Error op.Result → Contents → Prop where
  | missing (absent : s.models.get? id = none) : Decided s op c id permission (.error (.notFound (.model id))) s
  | refused (found : s.models.get? id = some r) (kept : KeptOut c r permission) :
      Decided s op c id permission (.error (.forbidden (.model id))) s
  | done {a : op.Result} {s' : Contents} (found : s.models.get? id = some r) (admitted : ¬ KeptOut c r permission)
      (shown : op.shows a = op.leaves r) (sets : Sets id (op.leaves r) s s') (same : permission = .read → s' = s) :
      Decided s op c id permission (.ok a) s'

section
variable {s s' : Contents} {id : String} {r : ModelRecord} {c : Caller} {permission : Permission} {op : Operation}
  {next : ModelRecord → Action α} {a : α}

theorem insert_sets (s : Contents) (r : ModelRecord) :
    Sets r.id (some r) s { s with models := s.models.insert r.id r } where
  there := by simp
  others _ other := by simp [other]
  connections := rfl
  nextId := rfl

theorem erase_sets (s : Contents) (id : String) : Sets id none s { s with models := s.models.erase id } where
  there := by simp
  others _ other := by simp [other]
  connections := rfl
  nextId := rfl

theorem load_missing (absent : s.models.get? id = none) :
    (load id).run memory s = (.error (.notFound (.model id)),s) := by
  have looked : (ask (.getModel id)).Yields s (s.models.get? id) s := yields_ask rfl
  rw [load,run_bind looked,absent]
  rfl

theorem gated_missing (absent : s.models.get? id = none) :
    (gated c id permission next).run memory s = (.error (.notFound (.model id)),s) := by
  rw [gated,run_bind_run,load_missing absent]
  rfl

theorem gated_yields (found : s.models.get? id = some r) (admitted : ¬ Barred c r permission)
    (later : (next r).Yields s a s') : (gated c id permission next).Yields s a s' := by
  have passes : authorize c r permission = .ok () := by
    cases answer : authorize c r permission with
    | ok _ => rfl
    | error e => exact absurd (authorize_error answer).1 admitted
  exact yields_bind (load_run memory_serves found).1 (yields_bind (yields_lift passes) later)

theorem delete_yields (found : s.models.get? id = some r) (admitted : ¬ Barred c r .write) :
    (delete c id).Yields s () { s with models := s.models.erase id } := by
  have there : s.models.contains id = true := by rw [Keyed.contains,found]; rfl
  rw [delete_gated]
  refine gated_yields found admitted ?_
  refine yields_bind (yields_ask (a := true) (congrArg (fun removed => Except.ok (removed,_)) there)) ?_
  exact yields_pure ()

theorem needed_yields (filed : Filed s) (gate : op.needs = some (c,id,permission)) (found : s.models.get? id = some r)
    (admitted : ¬ Barred c r permission) :
    ∃ a s', op.action.Yields s a s' ∧ op.shows a = op.leaves r ∧ Sets id (op.leaves r) s s' ∧
      (permission = .read → s' = s) := by
  have own : r.id = id := filed id r found
  have there : s.models.contains id = true := by rw [Keyed.contains,found]; rfl
  -- A changed record is stored in the place of the one that was there, under its own id.
  have saved (r' : ModelRecord) (same : r'.id = id) :
      (save r').Yields s r' { s with models := s.models.insert r'.id r' } ∧
        Sets id (some r') s { s with models := s.models.insert r'.id r' } := by
    subst same
    exact ⟨save_yields there,insert_sets s r'⟩
  cases op with
  | getModel _ _ =>
    cases gate
    exact ⟨r,s,gated_yields found admitted (yields_pure r),rfl,⟨found,fun _ _ => rfl,rfl,rfl⟩,fun _ => rfl⟩
  | toggleModel _ _ now =>
    cases gate
    obtain ⟨yields,sets⟩ := saved { r with isActive := !r.isActive,updatedAt := now } own
    exact ⟨_,_,gated_yields found admitted yields,rfl,sets,fun same => absurd same (by decide)⟩
  | updateModel _ _ form now =>
    cases gate
    obtain ⟨yields,sets⟩ := saved (r.applyForm form now) own
    have whole : (Operation.updateModel c id form now).leaves r = some (r.applyForm form now) := by
      obtain ⟨_,_,_,_,_,_,_,owner⟩ := form
      cases owner <;> rfl
    rw [whole]
    exact ⟨_,_,gated_yields found admitted yields,rfl,sets,fun same => absurd same (by decide)⟩
  | deleteModel _ _ =>
    cases gate
    exact ⟨(),_,delete_yields found admitted,rfl,erase_sets s id,fun same => absurd same (by decide)⟩
  | _ => cases gate

-- All of them are one gate with different work behind it. That work never wants for a permission.
theorem needed_gated (gate : op.needs = some (c,id,permission)) :
    ∃ next : ModelRecord → Action op.Result, op.action = gated c id permission next ∧
      ∀ r s, (next r).Ends s (fun _ _ => True) fun e _ => ∀ subject, e ≠ .forbidden subject := by
  have saved (r : ModelRecord) (s : Contents) :
      (save r).Ends s (fun _ _ => True) fun e _ => ∀ subject, e ≠ .forbidden subject :=
    (save_ends r).imp (fun _ _ _ => trivial) fun _ _ kept => kept.2
  cases op with
  | getModel _ _ =>
    cases gate
    exact ⟨_,rfl,fun r s => ends_pure trivial⟩
  | toggleModel _ _ now =>
    cases gate
    exact ⟨_,rfl,fun r => saved _⟩
  | updateModel _ _ form now =>
    cases gate
    exact ⟨_,rfl,fun r => saved _⟩
  | deleteModel _ _ =>
    cases gate
    exact ⟨_,rfl,fun _ => removal_unforbidden id⟩
  | _ => cases gate

theorem needed_decided (filed : Filed s) (gate : op.needs = some (c,id,permission)) :
    Decided s op c id permission (op.action.run memory s).1 (op.action.run memory s).2 := by
  obtain ⟨next,gated,-⟩ := needed_gated gate
  cases found : s.models.get? id with
  | none =>
    rw [gated,gated_missing found]
    exact .missing found
  | some r =>
    by_cases barred : Barred c r permission
    · rw [gated,gated_barred memory_serves found barred,filed id r found]
      exact .refused found (barred_iff.mp barred)
    · obtain ⟨a,s',yields,shown,sets,read⟩ := needed_yields filed gate found barred
      rw [yields]
      exact .done found (fun kept => barred (barred_iff.mpr kept)) shown sets read

end

section
variable {live : σ → Contents} {backend : Backend σ} {st : σ} {id : String} {c : Caller} {permission : Permission}
  {op : Operation}

theorem needed_last (gate : op.needs = some (c,id,permission)) : op.action.CommitsLast := by
  cases op with
  | getModel c id => exact gated_last fun _ => last_pure _
  | toggleModel c id now => exact gated_last fun _ => save_last _
  | updateModel c id form now => exact gated_last fun _ => save_last _
  | deleteModel c id => exact delete_last c id
  | _ => cases gate

theorem needed_reads (gate : op.needs = some (c,id,.read)) : op.action.Obeys reading fun _ => True := by
  cases op with
  | getModel c id => exact gated_obeys reads_reading.models c id .read fun _ _ => obeys_pure trivial
  | _ => cases gate

-- Reading a model and being refused are not seen of a store, whatever is looked at that stays until something is
-- written: its contents, or its document.
theorem needed_unseen {ν : Type} {view : σ → ν} (steady : Steady view backend)
    (gate : op.needs = some (c,id,permission)) (quiet : permission = .read ∨ ∃ e, (op.action.run backend st).1 = .error e) :
    view (op.action.run backend st).2 = view st := by
  rcases quiet with rfl | ⟨e,failed⟩
  · let unseen (st' : σ) : Prop := view st' = view st
    have start : unseen st := rfl
    refine (Obeys.run (needed_reads gate) start fun call st' same reads => ?_).2
    exact ⟨trivial,(steady.quiet fun a _ => writes_nothing reads a).trans same⟩
  · exact Script.CommitsLast.run steady (needed_last gate) failed

end

theorem Decided.outcome {s s' : Contents} {op : Operation} {c : Caller} {id : String} {permission : Permission}
    {result : Except Error op.Result} (decided : Decided s op c id permission result s') :
    ((∃ subject, result = .error (.notFound subject)) ↔ s.models.get? id = none) ∧
    ((∃ subject, result = .error (.forbidden subject)) ↔ ∃ r, s.models.get? id = some r ∧ KeptOut c r permission) ∧
    ((∃ a, result = .ok a) ↔ ∃ r, s.models.get? id = some r ∧ ¬ KeptOut c r permission) ∧
    (∀ a, result = .ok a → ∃ r, s.models.get? id = some r ∧ op.shows a = op.leaves r ∧ Sets id (op.leaves r) s s') ∧
    (permission = .read ∨ (∃ e, result = .error e) → s' = s) := by
  cases decided with
  | missing absent => simp [absent]
  | refused found kept => simp [found,kept]
  | done found admitted shown sets same =>
    refine ⟨by simp [found],by simp [found,admitted],by simp [found,admitted],?_,by simpa using same⟩
    rintro _ ⟨⟩
    exact ⟨_,found,shown,sets⟩

-- Who asks for a single model gets one of three answers. It is not found exactly if it is not stored; it is refused
-- exactly if it is stored and the caller is kept out; and otherwise the operation succeeds. What is refused changes
-- nothing, and neither does reading; what succeeds sets the one model and leaves all else, whatever id its form has.
theorem gate_decides {live : σ → Contents} {backend : Backend σ} {good : σ → Prop} (mirrors : Mirrors live backend good)
    {st : σ} (order : good st) (filed : Filed (live st)) {op : Operation} {c : Caller} {id : String}
    {permission : Permission} (gate : op.needs = some (c,id,permission)) :
    let outcome := op.action.run backend st
    ((∃ subject, outcome.1 = .error (.notFound subject)) ↔ (live st).models.get? id = none) ∧
    ((∃ subject, outcome.1 = .error (.forbidden subject)) ↔
      ∃ r, (live st).models.get? id = some r ∧ KeptOut c r permission) ∧
    ((∃ a, outcome.1 = .ok a) ↔ ∃ r, (live st).models.get? id = some r ∧ ¬ KeptOut c r permission) ∧
    (∀ a, outcome.1 = .ok a → ∃ r, (live st).models.get? id = some r ∧ op.shows a = op.leaves r ∧
      Sets id (op.leaves r) (live st) (live outcome.2)) ∧
    (permission = .read ∨ (∃ e, outcome.1 = .error e) → live outcome.2 = live st ∧
      ∀ {ν : Type} {view : σ → ν}, Steady view backend → view outcome.2 = view st) := by
  intro outcome
  have mirrored : op.action.run memory (live st) = (outcome.1,live outcome.2) :=
    (mirrors.run (ExceptT.run op.action) order).1
  have decided := needed_decided filed gate
  rw [mirrored] at decided
  obtain ⟨missing,refused,succeeds,sets,same⟩ := decided.outcome
  exact ⟨missing,refused,succeeds,sets,fun quiet => ⟨same quiet,fun steady => needed_unseen steady gate quiet⟩⟩

def lent : ModelRecord := { guarded with access := some ⟨some (.ofGroups ["staff"]),none⟩ }

def lending : Contents := { Contents.empty with models := .ofList [("a",lent),("b",foreign)] }

-- Carol may read one model by a grant to her group and the other as anybody may; the form of the last operation has
-- an id that no model has.
theorem group_member_reads :
    let carol := (Caller.user "carol").withGroups ["staff"]
    let now : Timestamp := ⟨1700000000,by decide⟩
    let form : ModelForm := { id := "z",name := "New" }
    let st : DocumentStore × Files.Disk := (⟨["s.json"],lending⟩,⟨∅⟩)
    let ran (op : Operation) := op.action.run DocumentStore.reliable st
    Writable ["s.json"] st.2 ∧ Filed lending ∧ (Operation.getModel carol "a").needs = some (carol,"a",.read) ∧
      (∃ r, (ran (.getModel carol "a")).1 = .ok r) ∧
      (∃ subject, (ran (.toggleModel carol "a" now)).1 = .error (.forbidden subject)) ∧
      DocumentStore.standing (ran (.toggleModel carol "a" now)).2 = DocumentStore.standing st ∧
      (∃ subject, (ran (.deleteModel carol "z")).1 = .error (.notFound subject)) ∧
      ∃ r : ModelRecord, (ran (.updateModel carol "b" form now)).1 = .ok r ∧ r.id = "b" ∧ r.owner = "bob" ∧
        r.name = "New" ∧ (ran (.updateModel carol "b" form now)).2.1.live.models.get? "z" = none := by
  intro carol now form st ran
  have filed : Filed lending := filed_of_keyed (by decide +kernel)
  have first : lending.models.get? "a" = some lent := by decide +kernel
  have second : lending.models.get? "b" = some foreign := by decide +kernel
  have reader : ¬ KeptOut carol lent .read := mt barred_iff.mpr (by decide +kernel)
  have writer : KeptOut carol lent .write := barred_iff.mp (by decide +kernel)
  have opened : ¬ KeptOut carol foreign .write := mt barred_iff.mpr (by decide +kernel)
  have order : Writable st.1.path st.2 := blank_writable
  have decides (op : Operation) {id : String} {permission : Permission}
      (gate : op.needs = some (carol,id,permission)) :=
    gate_decides DocumentStore.reliable_mirrors order filed gate
  obtain ⟨-,-,reads,-,-⟩ := decides (.getModel carol "a") rfl
  obtain ⟨-,refused,-,-,quiet⟩ := decides (.toggleModel carol "a" now) rfl
  obtain ⟨missing,-,-,-,-⟩ := decides (.deleteModel carol "z") rfl
  obtain ⟨-,-,writes,sets,-⟩ := decides (.updateModel carol "b" form now) rfl
  obtain ⟨subject,barred⟩ := refused.mpr ⟨lent,first,writer⟩
  have untouched : DocumentStore.standing (ran (.toggleModel carol "a" now)).2 = DocumentStore.standing st :=
    (quiet (.inr ⟨_,barred⟩)).2 (DocumentStore.answer_steady none)
  obtain ⟨r,updated⟩ := writes.mpr ⟨foreign,second,opened⟩
  obtain ⟨old,held,shown,set⟩ := sets r updated
  cases second.symm.trans held
  cases shown
  have nowhere : lending.models.get? "z" = none := by decide +kernel
  exact ⟨order,filed,rfl,reads.mpr ⟨lent,first,reader⟩,⟨subject,barred⟩,untouched,missing.mpr nowhere,_,updated,
    rfl,rfl,rfl,(set.others "z" (by decide)).trans nowhere⟩

end Registry
end ModelCatalog
