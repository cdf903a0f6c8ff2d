import ModelCatalog.Proofs.Files.Shape
import ModelCatalog.Proofs.Store.Contract
import ModelCatalog.Proofs.Store.Rekeyed
import ModelCatalog.Proofs.Store.Run
import ModelCatalog.Store.DocumentStore

namespace ModelCatalog.Store
open Files Ordered

theorem commit_shape (failure : Option CommitFailure) (path : Path) (text text' : String) {d d' : Disk}
    (same : d.shape = d'.shape) :
    (commit failure path text d).map id Disk.shape = (commit failure path text' d').map id Disk.shape := by
  have made : (if failure = some .makeDirs then none else d.makeDirs path.dropLast).map Disk.shape =
      (if failure = some .makeDirs then none else d'.makeDirs path.dropLast).map Disk.shape := by
    split
    · rfl
    · rw [Disk.makeDirs_shape,Disk.makeDirs_shape,same]
  have written {d d' : Disk} (same : d.shape = d'.shape) (bytes bytes' : ByteArray) :
      (d.writeBytes (temporary path) bytes).map Disk.shape = (d'.writeBytes (temporary path) bytes').map Disk.shape := by
    rw [Disk.write_shape,Disk.write_shape,same]
  have moved {d d' : Disk} (same : d.shape = d'.shape) :
      (if failure = some .rename then none else d.rename (temporary path) path).map Disk.shape =
        (if failure = some .rename then none else d'.rename (temporary path) path).map Disk.shape := by
    split
    · rfl
    · rw [Disk.rename_shape,Disk.rename_shape,same]
  -- Both commits stop at the same step, for each step depends on the shape only.
  unfold commit
  rcases Disk.shape_cases made with ⟨none,none'⟩ | ⟨above,above',found,found',shapes⟩
  · rw [none,none']
    exact congrArg (Prod.mk false) same
  rw [found,found']
  simp only
  split
  · next _ left =>
    have torn : (left.bind (above.writeBytes (temporary path))).map Disk.shape =
        (left.bind (above'.writeBytes (temporary path))).map Disk.shape := by
      cases left with
      | none => rfl
      | some bytes => exact written shapes bytes bytes
    rcases Disk.shape_cases torn with ⟨none,none'⟩ | ⟨part,part',found,found',shapes'⟩
    · rw [none,none']
      exact congrArg (Prod.mk false) shapes
    · rw [found,found']
      exact congrArg (Prod.mk false) shapes'
  · simp only [Disk.write]
    rcases Disk.shape_cases (written shapes text.toUTF8 text'.toUTF8) with ⟨none,none'⟩ | ⟨whole,whole',found,found',shapes'⟩
    · rw [none,none']
      exact congrArg (Prod.mk false) shapes
    rw [found,found']
    rcases Disk.shape_cases (moved shapes') with ⟨none,none'⟩ | ⟨last,last',found,found',shapes''⟩
    · simp only [none,none']
      exact congrArg (Prod.mk false) shapes'
    · simp only [found,found']
      exact congrArg (Prod.mk true) shapes''

-- Results that are related where both succeed, and are the same error otherwise.
def Agreeing {ε α β : Type} (R : α → β → Prop) : Except ε α → Except ε β → Prop
  | .ok a,.ok b => R a b
  | .error e,.error e' => e = e'
  | _,_ => False

section
variable {ε α β : Type} {R : α → β → Prop} {x : Except ε α} {y : Except ε β}

theorem Agreeing.cases (agreeing : Agreeing R x y) :
    (∃ a b, x = .ok a ∧ y = .ok b ∧ R a b) ∨ ∃ e, x = .error e ∧ y = .error e := by
  cases x with
  | ok a => cases y with
    | ok b => exact .inl ⟨a,b,rfl,rfl,agreeing⟩
    | error e => exact agreeing.elim
  | error e => cases y with
    | ok b => exact agreeing.elim
    | error e' => exact .inr ⟨e,rfl,congrArg Except.error (Eq.symm agreeing)⟩

theorem Agreeing.mapError {ε' : Type} (agreeing : Agreeing R x y) (f : ε → ε') :
    Agreeing R (x.mapError f) (y.mapError f) := by
  rcases agreeing.cases with ⟨a,b,rfl,rfl,related⟩ | ⟨e,rfl,rfl⟩
  · exact related
  · rfl

theorem agreeing_refl {R : α → α → Prop} (refl : ∀ a, R a a) (x : Except ε α) : Agreeing R x x := by
  cases x with
  | ok a => exact refl a
  | error e => rfl

theorem agreeing_map {f : α → γ} {x y : Except ε α} : Agreeing (fun a b => f a = f b) x y ↔ x.map f = y.map f := by
  cases x <;> cases y <;> simp [Agreeing,Except.map]

theorem agreeing_eq {x y : Except ε α} : Agreeing Eq x y ↔ x = y := by
  cases x <;> cases y <;> simp [Agreeing]

end

structure Alike (st st' : DocumentStore × Disk) : Prop where
  path : st.1.path = st'.1.path
  live : st.1.live.blot = st'.1.live.blot
  shape : st.2.shape = st'.2.shape

-- Two runs that end in results which are related so, and in stores that are the same but for keys.
structure Coupled {ε α β : Type} (R : α → β → Prop) (run : Except ε α × (DocumentStore × Disk))
    (run' : Except ε β × (DocumentStore × Disk)) : Prop where
  results : Agreeing R run.1 run'.1
  states : Alike run.2 run'.2

def behind {ε α γ : Type} (first : Except ε α × (DocumentStore × Disk))
    (f : α → DocumentStore × Disk → Except ε γ × (DocumentStore × Disk)) : Except ε γ × (DocumentStore × Disk) :=
  match first.1 with
  | .ok a => f a first.2
  | .error e => (.error e,first.2)

theorem Coupled.behind {ε α β γ δ : Type} {R : α → β → Prop} {Q : γ → δ → Prop}
    {first : Except ε α × (DocumentStore × Disk)} {first' : Except ε β × (DocumentStore × Disk)}
    {f : α → DocumentStore × Disk → Except ε γ × (DocumentStore × Disk)}
    {g : β → DocumentStore × Disk → Except ε δ × (DocumentStore × Disk)} (coupled : Coupled R first first')
    (rest : ∀ a b t t', R a b → Alike t t' → Coupled Q (f a t) (g b t')) :
    Coupled Q (behind first f) (behind first' g) := by
  obtain ⟨result,t⟩ := first
  obtain ⟨result',t'⟩ := first'
  obtain ⟨results,states⟩ := coupled
  rcases results.cases with ⟨a,b,rfl,rfl,related⟩ | ⟨e,rfl,rfl⟩
  · exact rest a b t t' related states
  · exact ⟨rfl,states⟩

section
variable {failure : Option CommitFailure} {st st' : DocumentStore × Disk}

theorem answer_coupled (call call' : Call) {R : call.Answer → call'.Answer → Prop} (alike : Alike st st')
    (outcomes : Agreeing (fun r r' => R r.1 r'.1 ∧ r.2.blot = r'.2.blot ∧ call.writes r.1 = call'.writes r'.1)
      (st.1.live.answer call) (st'.1.live.answer call')) :
    Coupled R (DocumentStore.answer failure call st) (DocumentStore.answer failure call' st') := by
  obtain ⟨s,d⟩ := st
  obtain ⟨s',d'⟩ := st'
  unfold DocumentStore.answer
  rcases outcomes.cases with ⟨⟨a,next⟩,⟨a',next'⟩,answered,answered',related,contents,writes⟩ | ⟨e,answered,answered'⟩
  · simp only [answered,answered',← writes]
    split
    · have both := commit_shape failure s.path (encode next) (encode next') alike.shape
      rw [show s'.path = s.path from alike.path.symm]
      cases committed : commit failure s.path (encode next) d with
      | mk done d₁ =>
        cases committed' : commit failure s.path (encode next') d' with
        | mk done' d₁' =>
          rw [committed,committed'] at both
          obtain ⟨rfl,shapes⟩ : done = done' ∧ d₁.shape = d₁'.shape := Prod.ext_iff.mp both
          cases done with
          | true => exact ⟨related,rfl,contents,shapes⟩
          | false => exact ⟨rfl,alike.path,alike.live,shapes⟩
    · exact ⟨related,alike⟩
  · simp only [answered,answered']
    exact ⟨rfl,alike⟩

def Call.Unkeyed : Call → Prop
  | .getConnection _ | .listConnections | .insertConnection _ | .updateConnection _ => False
  | _ => True

end

section
variable {s s' : Contents}

theorem blot_cases (same : s.blot = s'.blot) : s.models = s'.models ∧
    s.connections.map Connection.blot = s'.connections.map Connection.blot ∧ s.nextId = s'.nextId := by
  simpa [Contents.blot] using same

theorem contains_alike (same : s.blot = s'.blot) (id : ConnectionId) :
    s.connections.contains id = s'.connections.contains id := by
  rw [← Keyed.contains_map s.connections Connection.blot,(blot_cases same).2.1,Keyed.contains_map]

theorem unkeyed_alike (same : s.blot = s'.blot) {call : Call} (unkeyed : call.Unkeyed) :
    Agreeing (fun r r' => r.1 = r'.1 ∧ r.2.blot = r'.2.blot ∧ call.writes r.1 = call.writes r'.1) (s.answer call)
      (s'.answer call) := by
  obtain ⟨models,connections,nextId⟩ := blot_cases same
  have changed (m : Keyed String ModelRecord) :
      Contents.blot { s with models := m } = Contents.blot { s' with models := m } := by
    rw [Contents.blot,Contents.blot,connections,nextId]
  cases call with
  | getModel id => exact ⟨congrArg (·.get? id) models,same,rfl⟩
  | listModels => exact ⟨congrArg Keyed.values models,same,rfl⟩
  | insertModel r =>
    simp only [Contents.answer,models]
    split
    · rfl
    · exact ⟨rfl,changed _,rfl⟩
  | updateModel r =>
    simp only [Contents.answer,models]
    split
    · exact ⟨rfl,changed _,rfl⟩
    · rfl
  | upsertModel r =>
    simp only [Contents.answer,models]
    exact ⟨rfl,changed _,rfl⟩
  | deleteModel id =>
    simp only [Contents.answer,models]
    exact ⟨rfl,changed _,rfl⟩
  | deleteAllModels =>
    simp only [Contents.answer,models]
    exact ⟨rfl,changed _,rfl⟩
  | retainModels keep =>
    simp only [Contents.answer,models]
    exact ⟨rfl,changed _,rfl⟩
  | deleteConnection id =>
    have erased : Contents.blot { s with connections := s.connections.erase id } =
        Contents.blot { s' with connections := s'.connections.erase id } := by
      simp only [Contents.blot,Keyed.map_erase,models,connections,nextId]
    simp only [Contents.answer,contains_alike same id]
    exact ⟨rfl,erased,rfl⟩
  | _ => exact unkeyed.elim

theorem list_alike (same : s.blot = s'.blot) :
    s.connections.values.map Connection.blot = s'.connections.values.map Connection.blot := by
  rw [← Keyed.values_map,← Keyed.values_map,(blot_cases same).2.1]

theorem get_alike (same : s.blot = s'.blot) (id : ConnectionId) :
    (s.connections.get? id).map Connection.blot = (s'.connections.get? id).map Connection.blot := by
  rw [← Keyed.get?_map,← Keyed.get?_map,(blot_cases same).2.1]

theorem insert_alike (same : s.blot = s'.blot) {c c' : Connection} (alike : c.blot = c'.blot)
    (key next : ConnectionId) : Contents.blot { s with connections := s.connections.insert key c,nextId := next } =
      Contents.blot { s' with connections := s'.connections.insert key c',nextId := next } := by
  obtain ⟨models,connections,-⟩ := blot_cases same
  simp only [Contents.blot,Keyed.map_insert,models,connections,alike]

end

def unkeyed : Contract where
  admits := Call.Unkeyed
  grants _ _ := True

section
variable {failure : Option CommitFailure} {backend : Backend (DocumentStore × Disk)} {st st' : DocumentStore × Disk}

theorem Script.Obeys.coupled {script : Script α} {Q : α → Prop} (obeys : script.Obeys unkeyed Q)
    (alike : Alike st st') :
    (script.run (DocumentStore.answer failure) st).1 = (script.run (DocumentStore.answer failure) st').1 ∧
      Alike (script.run (DocumentStore.answer failure) st).2 (script.run (DocumentStore.answer failure) st').2 := by
  induction script generalizing st st' with
  | done a => exact ⟨rfl,alike⟩
  | perform call next ih =>
    have first : Coupled Eq (DocumentStore.answer failure call st) (DocumentStore.answer failure call st') :=
      answer_coupled call call alike (unkeyed_alike alike.live obeys.1)
    obtain ⟨results,states⟩ := first
    have behind := ih (DocumentStore.answer failure call st).1 (obeys.2 _ trivial) states
    have step (st : DocumentStore × Disk) : (perform call next).run (DocumentStore.answer failure) st =
        (next (DocumentStore.answer failure call st).1).run (DocumentStore.answer failure)
          (DocumentStore.answer failure call st).2 := rfl
    rw [step,step,← agreeing_eq.mp results]
    exact behind

namespace Action
variable {β γ δ : Type} {R : α → β → Prop} {action : Action α} {action' : Action β}

theorem coupled_pure {a : α} {b : β} (related : R a b) (alike : Alike st st') :
    Coupled R ((pure a : Action α).run backend st) ((pure b : Action β).run backend st') := ⟨related,alike⟩

theorem coupled_throw (e : Error) (alike : Alike st st') :
    Coupled R ((throw e : Action α).run backend st) ((throw e : Action β).run backend st') := ⟨rfl,alike⟩

theorem coupled_lift {x : Except Error α} {y : Except Error β} (agreeing : Agreeing R x y) (alike : Alike st st') :
    Coupled R ((liftM x : Action α).run backend st) ((liftM y : Action β).run backend st') := ⟨agreeing,alike⟩

theorem coupled_ask (call call' : Call) {R : call.Answer → call'.Answer → Prop}
    (coupled : Coupled R (backend call st) (backend call' st')) :
    Coupled R ((ask call).run backend st) ((ask call').run backend st') :=
  ⟨coupled.results.mapError Error.storage,coupled.states⟩

theorem coupled_attempt (call call' : Call) {R : call.Answer → call'.Answer → Prop}
    (coupled : Coupled R (backend call st) (backend call' st')) :
    Coupled (Agreeing R) ((attempt call).run backend st) ((attempt call').run backend st') :=
  ⟨coupled.results,coupled.states⟩

theorem coupled_bind {f : α → Action γ} {g : β → Action δ} {Q : γ → δ → Prop}
    (first : Coupled R (action.run backend st) (action'.run backend st'))
    (rest : ∀ a b t t', R a b → Alike t t' → Coupled Q ((f a).run backend t) ((g b).run backend t')) :
    Coupled Q ((action >>= f).run backend st) ((action' >>= g).run backend st') := by
  have whole {α β : Type} (action : Action α) (f : α → Action β) (st : DocumentStore × Disk) :
      (action >>= f).run backend st = behind (action.run backend st) fun a => (f a).run backend := by
    have split : (action >>= f).run backend st =
        Script.run backend (ExceptT.bindCont f (action.run backend st).1) (action.run backend st).2 :=
      Script.run_bind backend (ExceptT.run action) (ExceptT.bindCont f) st
    rw [split,behind]
    cases (action.run backend st).1 <;> rfl
  rw [whole,whole]
  exact first.behind rest

theorem Obeys.coupled {Q : α → Prop} (obeys : action.Obeys unkeyed Q) (alike : Alike st st') :
    Coupled Eq (action.run (DocumentStore.answer failure) st) (action.run (DocumentStore.answer failure) st') :=
  ⟨agreeing_eq.mpr (Script.Obeys.coupled obeys alike).1,(Script.Obeys.coupled obeys alike).2⟩

end Action
end
end ModelCatalog.Store
