import ModelCatalog.Proofs.Store.Session

namespace ModelCatalog.Store

variable {α β : Type} {s : Contents}

-- Where a script leads from some contents: each of its calls is answered as the contents answer it, or it is
-- refused and changes nothing.
def Script.Leads : Script α → Contents → (α → Contents → Prop) → Prop
  | .done a,s,Q => Q a s
  | .perform call next,s,Q =>
    (∀ a s', s.answer call = .ok (a,s') → (next (.ok a)).Leads s' Q) ∧ ∀ e, (next (.error e)).Leads s Q

theorem Script.Leads.imp {script : Script α} {Q R : α → Contents → Prop} (leads : script.Leads s Q)
    (weaker : ∀ a s', Q a s' → R a s') : script.Leads s R := by
  induction script generalizing s with
  | done a => exact weaker a s leads
  | perform call next ih =>
    exact ⟨fun a s' answered => ih (.ok a) (leads.1 a s' answered),fun e => ih (.error e) (leads.2 e)⟩

theorem Script.Leads.bind {script : Script α} {f : α → Script β} {Q : β → Contents → Prop}
    (leads : script.Leads s fun a s' => (f a).Leads s' Q) : (script.bind f).Leads s Q := by
  induction script generalizing s with
  | done a => exact leads
  | perform call next ih =>
    exact ⟨fun a s' answered => ih (.ok a) (leads.1 a s' answered),fun e => ih (.error e) (leads.2 e)⟩

theorem Script.Leads.run {live : σ → Contents} {backend : Backend σ} (atomic : Atomic live backend) {script : Script α}
    {Q : α → Contents → Prop} {st : σ} (leads : script.Leads (live st) Q) :
    Q (script.run backend st).1 (live (script.run backend st).2) := by
  induction script generalizing st with
  | done a => exact leads
  | perform call next ih =>
    have behind : (next (backend call st).1).Leads (live (backend call st).2) Q := by
      cases answered : (backend call st).1 with
      | ok a => exact leads.1 a _ (atomic.granted answered)
      | error e =>
        rw [atomic.refused answered]
        exact leads.2 e
    exact ih _ behind

namespace Action
variable {action : Action α} {Q : α → Contents → Prop} {E : Contents → Prop} {F : Error → Contents → Prop}

def concluding {ε α σ : Type} (Q : α → σ → Prop) (F : ε → σ → Prop) : Except ε α → σ → Prop
  | .ok a,s => Q a s
  | .error e,s => F e s

theorem concluding.imp {ε α σ : Type} {Q R : α → σ → Prop} {F G : ε → σ → Prop} {result : Except ε α} {s : σ}
    (concluded : concluding Q F result s) (weaker : ∀ a s', Q a s' → R a s') (failing : ∀ e s', F e s' → G e s') :
    concluding R G result s := by
  cases result with
  | ok a => exact weaker a s concluded
  | error e => exact failing e s concluded

theorem concluding_kept {ε α σ : Type} {P : σ → Prop} {Q : α → σ → Prop} {result : Except ε α} {s : σ} (kept : P s)
    (succeeding : ∀ a s', P s' → Q a s') : concluding Q (fun _ => P) result s := by
  cases result with
  | ok a => exact succeeding a s kept
  | error e => exact kept

theorem concluding_bind {backend : Backend σ} {st : σ} {f : α → Action β} {R : β → σ → Prop} {G : Error → σ → Prop}
    (first : concluding (fun a st' => concluding R G ((f a).run backend st').1 ((f a).run backend st').2) G
      (action.run backend st).1 (action.run backend st).2) :
    concluding R G ((action >>= f).run backend st).1 ((action >>= f).run backend st).2 := by
  rw [run_bind_run]
  cases result : (action.run backend st).1 with
  | ok a =>
    rw [result] at first
    exact first
  | error e =>
    rw [result] at first
    exact first

theorem concluding_ask {backend : Backend σ} {st : σ} (call : Call) {R : call.Answer → σ → Prop} {G : Error → σ → Prop}
    (granted : ∀ a, (backend call st).1 = .ok a → R a (backend call st).2)
    (refused : ∀ e, (backend call st).1 = .error e → G (.storage e) (backend call st).2) :
    concluding R G ((ask call).run backend st).1 ((ask call).run backend st).2 := by
  change concluding R G ((backend call st).1.mapError Error.storage) (backend call st).2
  cases answered : (backend call st).1 with
  | ok a => exact granted a answered
  | error e => exact refused e answered

def Ends (action : Action α) (s : Contents) (Q : α → Contents → Prop) (F : Error → Contents → Prop) : Prop :=
  Script.Leads (ExceptT.run action) s (concluding Q F)

theorem Ends.imp {R : α → Contents → Prop} {G : Error → Contents → Prop} (ends : action.Ends s Q F)
    (weaker : ∀ a s', Q a s' → R a s') (failing : ∀ e s', F e s' → G e s') : action.Ends s R G :=
  Script.Leads.imp ends fun _ _ concluded => concluded.imp weaker failing

theorem ends_pure {a : α} (holds : Q a s) : Ends (pure a) s Q F := holds

theorem ends_throw {e : Error} (holds : F e s) : Ends (throw e) s Q F := holds

theorem ends_bind {f : α → Action β} {R : β → Contents → Prop}
    (ends : action.Ends s (fun a s' => (f a).Ends s' R F) F) : Ends (action >>= f) s R F := by
  refine Script.Leads.bind (Script.Leads.imp ends fun result s' concluded => ?_)
  cases result with
  | ok a => exact concluded
  | error e => exact concluded

theorem ends_lift {result : Except Error α} (holds : ∀ a, result = .ok a → Q a s)
    (failing : ∀ e, result = .error e → F e s) : Ends (liftM result) s Q F := by
  cases result with
  | ok a => exact holds a rfl
  | error e => exact failing e rfl

theorem ends_ask {call : Call} {Q : call.Answer → Contents → Prop}
    (holds : ∀ a s', s.answer call = .ok (a,s') → Q a s') (failing : ∀ e, F (.storage e) s) : Ends (ask call) s Q F :=
  ⟨holds,failing⟩

theorem ends_read {call : Call} {Q : call.Answer → Contents → Prop} {a : call.Answer}
    (found : s.answer call = .ok (a,s)) (holds : Q a s) (failing : ∀ e, F (.storage e) s) : Ends (ask call) s Q F := by
  refine ends_ask (fun b s' answered => ?_) failing
  cases found.symm.trans answered
  exact holds

theorem ends_attempt {call : Call} {Q : Except StoreError call.Answer → Contents → Prop}
    (holds : ∀ a s', s.answer call = .ok (a,s') → Q (.ok a) s') (failing : ∀ e, Q (.error e) s) :
    Ends (attempt call) s Q F := ⟨holds,failing⟩

theorem Ends.run {live : σ → Contents} {backend : Backend σ} (serves : Serves live backend) {st : σ}
    (ends : action.Ends (live st) Q F) : concluding Q F (action.run backend st).1 (live (action.run backend st).2) :=
  Script.Leads.run serves.atomic ends

theorem Ends.conclude {live : σ → Contents} {backend : Backend σ} (atomic : Atomic live backend) {st : σ}
    (ends : action.Ends (live st) Q F) :
    concluding (fun a st' => Q a (live st')) (fun e st' => F e (live st')) (action.run backend st).1
      (action.run backend st).2 := by
  have ended := Script.Leads.run atomic ends
  change concluding Q F (action.run backend st).1 (live (action.run backend st).2) at ended
  cases result : (action.run backend st).1 with
  | ok a => rwa [result] at ended
  | error e => rwa [result] at ended

def ending (Q : α → Contents → Prop) (E : Contents → Prop) : Except Error α → Contents → Prop :=
  concluding Q fun _ => E

def Leads (action : Action α) (s : Contents) (Q : α → Contents → Prop) (E : Contents → Prop) : Prop :=
  Script.Leads (ExceptT.run action) s (ending Q E)

theorem Leads.imp {R : α → Contents → Prop} {F : Contents → Prop} (leads : action.Leads s Q E)
    (weaker : ∀ a s', Q a s' → R a s') (failing : ∀ s', E s' → F s') : action.Leads s R F :=
  Ends.imp leads weaker fun _ => failing

theorem leads_pure {a : α} (holds : Q a s) : Leads (pure a) s Q E := holds

theorem leads_throw {e : Error} (holds : E s) : Leads (throw e) s Q E := holds

theorem leads_bind {f : α → Action β} {R : β → Contents → Prop}
    (leads : action.Leads s (fun a s' => (f a).Leads s' R E) E) : Leads (action >>= f) s R E := ends_bind leads

theorem leads_guard {holds : Prop} [Decidable holds] {e : Error} {next : PUnit → Action α} (failing : E s)
    (rest : (next ()).Leads s Q E) : Leads (if holds then throw e >>= next else next ()) s Q E := by
  split
  · exact leads_bind (leads_throw failing)
  · exact rest

theorem leads_lift {e : Except Error α} (holds : ∀ a, e = .ok a → Q a s) (failing : E s) : Leads (liftM e) s Q E :=
  ends_lift holds fun _ _ => failing

theorem leads_ask {call : Call} {Q : call.Answer → Contents → Prop}
    (holds : ∀ a s', s.answer call = .ok (a,s') → Q a s') (failing : E s) : Leads (ask call) s Q E :=
  ends_ask holds fun _ => failing

theorem leads_read {call : Call} {Q : call.Answer → Contents → Prop} {a : call.Answer}
    (found : s.answer call = .ok (a,s)) (holds : Q a s) (failing : E s) : Leads (ask call) s Q E :=
  ends_read found holds fun _ => failing

theorem leads_attempt {call : Call} {Q : Except StoreError call.Answer → Contents → Prop}
    (holds : ∀ a s', s.answer call = .ok (a,s') → Q (.ok a) s') (failing : ∀ e, Q (.error e) s) :
    Leads (attempt call) s Q E := ends_attempt holds failing

theorem leads_forM {items : List β} {f : β → Action PUnit} {P : β → Prop} {I : Contents → Prop} (start : I s)
    (each : ∀ item ∈ items, ∀ s', I s' → (f item).Leads s' (fun _ s'' => P item ∧ I s'') E) :
    Leads (items.forM f) s (fun _ s' => (∀ item ∈ items, P item) ∧ I s') E := by
  induction items generalizing s with
  | nil => exact leads_pure ⟨fun _ member => (List.not_mem_nil member).elim,start⟩
  | cons item rest ih =>
    refine leads_bind ((each item List.mem_cons_self s start).imp (fun _ s' both => ?_) fun _ => id)
    have others := ih both.2 fun other member => each other (List.mem_cons_of_mem _ member)
    exact others.imp (fun _ _ all => ⟨List.forall_mem_cons.mpr ⟨both.1,all.1⟩,all.2⟩) fun _ => id

theorem Leads.live {live : σ → Contents} {backend : Backend σ} (serves : Serves live backend) {P : Contents → Prop}
    {st : σ} (leads : action.Leads (live st) (fun _ => P) P) : P (live (action.run backend st).2) := by
  have ends := Script.Leads.run serves.atomic leads
  change ending (fun _ => P) P (action.run backend st).1 (live (action.run backend st).2) at ends
  cases result : (action.run backend st).1 with
  | ok a => rwa [result] at ends
  | error e => rwa [result] at ends

end Action
end ModelCatalog.Store
