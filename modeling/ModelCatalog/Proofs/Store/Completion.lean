import ModelCatalog.Proofs.Store.Contract
import ModelCatalog.Proofs.Store.Session

namespace ModelCatalog.Store
open Files

def reading : Contract where
  admits call := call.isRead = true
  grants _ _ := True

theorem writes_nothing {call : Call} (reads : call.isRead = true) (a : call.Answer) : call.writes a = false := by
  cases call with
  | getModel id | listModels | getConnection id | listConnections => rfl
  | _ => cases reads

-- A script that succeeds as soon as a call of it has written: nothing that could fail is left to do.
def Script.CommitsLast : Script (Except Error α) → Prop
  | .done _ => True
  | .perform call next => (∀ answer, (next answer).CommitsLast) ∧
      ∀ a, call.writes a = true → ∃ b, next (.ok a) = .done (.ok b)

theorem Script.CommitsLast.bind {script : Script α} {f : α → Script (Except Error β)}
    (reads : script.Obeys reading fun a => (f a).CommitsLast) : (script.bind f).CommitsLast := by
  induction script with
  | done a => exact reads
  | perform call next ih =>
    refine ⟨fun answer => ih answer (reads.2 answer trivial),fun a writes => ?_⟩
    cases (writes_nothing reads.1 a).symm.trans writes

-- What is seen of a store that stays as it is as long as nothing is written: where a call is refused, and where it has
-- nothing to write.
structure Steady (view : σ → ν) (backend : Backend σ) : Prop where
  refused : ∀ {call s e}, (backend call s).1 = .error e → view (backend call s).2 = view s
  silent : ∀ {call s a}, (backend call s).1 = .ok a → call.writes a = false → view (backend call s).2 = view s

section
variable {view : σ → ν} {live : σ → Contents} {backend : Backend σ} {st : σ}

theorem Atomic.steady (atomic : Atomic live backend) : Steady live backend where
  refused := atomic.refused
  silent answered quiet := Contents.answer_unwritten (atomic.granted answered) quiet

theorem Steady.quiet (steady : Steady view backend) {call : Call}
    (quiet : ∀ a, (backend call st).1 = .ok a → call.writes a = false) : view (backend call st).2 = view st := by
  cases answered : (backend call st).1 with
  | ok a => exact steady.silent answered (quiet a answered)
  | error e => exact steady.refused answered

theorem Script.CommitsLast.run {script : Script (Except Error α)} {e : Error} (steady : Steady view backend)
    (last : script.CommitsLast) (failed : (script.run backend st).1 = .error e) :
    view (script.run backend st).2 = view st := by
  induction script generalizing st with
  | done result => rfl
  | perform call next ih =>
    change ((next (backend call st).1).run backend (backend call st).2).1 = .error e at failed
    refine (ih _ (last.1 _) failed).trans (steady.quiet fun a answered => Bool.eq_false_iff.mpr fun writes => ?_)
    obtain ⟨b,done⟩ := last.2 a writes
    rw [answered,done] at failed
    cases failed

end

theorem Unfinished.item_eq {path : Path} {d d' : Disk} (stop : Unfinished path d d') : d'.item? path = d.item? path := by
  have above {paths : List Path} {above : Disk} (made : paths.foldlM Disk.makeDir d = some above)
      (within : ∀ p ∈ paths, p ∈ Disk.way path.dropLast) : above.item? path = d.item? path := by
    rw [(Disk.makeDirs_item made path).1,if_neg fun member => not_mem_above path (within path member)]
  cases stop with
  | directories n made => exact above made fun p => List.mem_of_mem_take
  | beside left made written =>
    obtain ⟨inside,item⟩ := Disk.write_item written
    have apart : path ≠ temporary path := fun same => temporary_apart inside (same ▸ List.prefix_refl (temporary path))
    rw [item,if_neg apart]
    exact above made fun p member => member

namespace DocumentStore

def standing (st : DocumentStore × Disk) : DocumentStore × Option Item := (st.1,st.2.item? st.1.path)

theorem answer_steady (failure : Option CommitFailure) : Steady standing (answer failure) where
  refused {call st e} answered := by
    obtain ⟨s,d⟩ := st
    obtain ⟨same,stop,-⟩ := (answer_settles failure call s d).refused e answered
    unfold standing
    rw [same,stop.item_eq]
  silent {call st a} answered silent := by
    obtain ⟨s,d⟩ := st
    obtain ⟨next,-,moved,idle⟩ := (answer_settles failure call s d).granted a answered
    rw [silent] at idle
    obtain ⟨rfl,left⟩ := idle
    unfold standing
    rw [moved,left]

-- The document of a store is what it was on a disk before, or is missing as it was.
structure Untouched (path : Path) (d : Disk) (st : DocumentStore × Disk) : Prop where
  own : st.1.path = path
  document : st.2.item? path = d.item? path

theorem Untouched.stands {path : Path} {d : Disk} {st st' : DocumentStore × Disk} (untouched : Untouched path d st)
    (same : standing st' = standing st) : Untouched path d st' := by
  obtain ⟨store,item⟩ := Prod.mk.inj same
  obtain ⟨rfl,document⟩ := untouched
  rw [store] at item
  exact ⟨congrArg DocumentStore.path store,item.trans document⟩

end DocumentStore

theorem read_untouched {path : Path} {d : Disk} {failure : Option CommitFailure} (call : Call) (st : DocumentStore × Disk)
    (untouched : DocumentStore.Untouched path d st) (reads : call.isRead = true) :
    reading.grants call (DocumentStore.answer failure call st).1 ∧
      DocumentStore.Untouched path d (DocumentStore.answer failure call st).2 :=
  ⟨trivial,untouched.stands ((DocumentStore.answer_steady failure).quiet fun a _ => writes_nothing reads a)⟩

namespace Action

def CommitsLast (action : Action α) : Prop := Script.CommitsLast (ExceptT.run action)

variable {action : Action α} {Q : α → Prop}

theorem last_pure (a : α) : CommitsLast (pure a) := trivial

theorem last_throw (e : Error) : CommitsLast (throw e : Action α) := trivial

theorem last_bind {f : α → Action β} (reads : action.Obeys reading Q) (rest : ∀ a, Q a → (f a).CommitsLast) :
    CommitsLast (action >>= f) := by
  refine Script.CommitsLast.bind (Script.Obeys.imp reads fun result known => ?_)
  cases result with
  | ok a => exact rest a (known a rfl)
  | error e => trivial

theorem last_lift {result : Except Error β} {f : β → Action α} (rest : ∀ b, (f b).CommitsLast) :
    CommitsLast (liftM result >>= f) :=
  last_bind (Q := fun _ => True) (obeys_lift fun _ _ => trivial) fun b _ => rest b

theorem last_guard {holds : Prop} [Decidable holds] {e : Error} {next : PUnit → Action α}
    (rest : (next ()).CommitsLast) : CommitsLast (if holds then throw e >>= next else next ()) := by
  split
  · trivial
  · exact rest

theorem last_ask (call : Call) : CommitsLast (ask call) := ⟨fun _ => trivial,fun a _ => ⟨a,rfl⟩⟩

theorem last_map (f : α → β) (last : action.CommitsLast) : CommitsLast (action >>= fun a => pure (f a)) := by
  change Script.CommitsLast (Script.bind (ExceptT.run action) (ExceptT.bindCont fun a => pure (f a)))
  change Script.CommitsLast (ExceptT.run action) at last
  generalize ExceptT.run action = script at last ⊢
  induction script with
  | done result =>
    cases result with
    | ok a => exact trivial
    | error e => exact trivial
  | perform call next ih =>
    refine ⟨fun answer => ih answer (last.1 answer),fun a writes => ?_⟩
    obtain ⟨b,done⟩ := last.2 a writes
    exact ⟨f b,congrArg (Script.bind · (ExceptT.bindCont fun a => pure (f a))) done⟩

theorem last_asked {call : Call} {f : call.Answer → Action α} (rest : ∀ a, (f a).CommitsLast)
    (done : ∀ a, call.writes a = true → ∃ b, f a = pure b) : CommitsLast (ask call >>= f) := by
  refine ⟨fun answer => ?_,done⟩
  cases answer with
  | ok a => exact rest a
  | error e => trivial

theorem last_attempted {call : Call} {f : Except StoreError call.Answer → Action α}
    (rest : ∀ answer, (f answer).CommitsLast) (done : ∀ a, ∃ b, f (.ok a) = pure b) :
    CommitsLast (attempt call >>= f) := ⟨rest,fun a _ => done a⟩

end Action
end ModelCatalog.Store
