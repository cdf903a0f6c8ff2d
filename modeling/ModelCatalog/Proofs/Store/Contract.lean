import ModelCatalog.Store.Script

namespace ModelCatalog.Store

-- What a script owes and what it may rely on: the calls it makes are admitted, if the answers it got so
-- far were as granted.
structure Contract where
  admits : Call → Prop
  grants : (call : Call) → Except StoreError call.Answer → Prop

variable {K : Contract} {α β : Type}

def Script.Obeys (K : Contract) : Script α → (α → Prop) → Prop
  | .done a,Q => Q a
  | .perform call next,Q => K.admits call ∧ ∀ answer, K.grants call answer → (next answer).Obeys K Q

theorem Script.Obeys.imp {script : Script α} {Q R : α → Prop} (obeys : script.Obeys K Q)
    (weaker : ∀ a, Q a → R a) : script.Obeys K R := by
  induction script with
  | done a => exact weaker a obeys
  | perform call next ih => exact ⟨obeys.1,fun answer granted => ih answer (obeys.2 answer granted)⟩

theorem Script.Obeys.bind {script : Script α} {f : α → Script β} {Q : β → Prop}
    (obeys : script.Obeys K fun a => (f a).Obeys K Q) : (script.bind f).Obeys K Q := by
  induction script with
  | done a => exact obeys
  | perform call next ih => exact ⟨obeys.1,fun answer granted => ih answer (obeys.2 answer granted)⟩

theorem Script.Obeys.run {script : Script α} {Q : α → Prop} {backend : Backend σ} {inv : σ → Prop} {s : σ}
    (obeys : script.Obeys K Q) (start : inv s)
    (step : ∀ call s, inv s → K.admits call → K.grants call (backend call s).1 ∧ inv (backend call s).2) :
    Q (script.run backend s).1 ∧ inv (script.run backend s).2 := by
  induction script generalizing s with
  | done a => exact ⟨obeys,start⟩
  | perform call next ih =>
    obtain ⟨granted,kept⟩ := step call s start obeys.1
    exact ih _ (obeys.2 _ granted) kept

namespace Action

def Obeys (K : Contract) (action : Action α) (Q : α → Prop) : Prop :=
  Script.Obeys K (ExceptT.run action) fun result => ∀ a, result = .ok a → Q a

variable {action : Action α} {Q : α → Prop}

theorem obeys_pure {a : α} (holds : Q a) : Obeys K (pure a) Q := by
  rintro b same
  cases same
  exact holds

theorem obeys_throw (e : Error) : Obeys K (throw e) Q := by
  intro a same
  cases same

theorem obeys_bind {f : α → Action β} {R : β → Prop} (first : action.Obeys K Q)
    (second : ∀ a, Q a → (f a).Obeys K R) : Obeys K (action >>= f) R := by
  refine Script.Obeys.bind (Script.Obeys.imp first fun result all => ?_)
  cases result with
  | ok a => exact second a (all a rfl)
  | error e => exact fun a same => by cases same

theorem obeys_guard {holds : Prop} [Decidable holds] {e : Error} {next : PUnit → Action α}
    (rest : (next ()).Obeys K Q) : Obeys K (if holds then throw e >>= next else next ()) Q := by
  split
  · exact obeys_bind (Q := fun _ => True) (obeys_throw e) fun _ _ => rest
  · exact rest

theorem obeys_lift {e : Except Error α} (holds : ∀ a, e = .ok a → Q a) : Obeys K (liftM e) Q := holds

theorem obeys_attempt {call : Call} {Q : Except StoreError call.Answer → Prop} (admitted : K.admits call)
    (granted : ∀ answer, K.grants call answer → Q answer) : Obeys K (attempt call) Q := by
  refine ⟨admitted,fun answer grant a same => ?_⟩
  cases same
  exact granted answer grant

theorem obeys_ask {call : Call} {Q : call.Answer → Prop} (admitted : K.admits call)
    (granted : ∀ a, K.grants call (.ok a) → Q a) : Obeys K (ask call) Q := by
  refine ⟨admitted,fun answer grant a same => ?_⟩
  cases answer with
  | ok b =>
    cases same
    exact granted a grant
  | error e => cases same

theorem obeys_any {call : Call} (admitted : K.admits call) : Obeys K (ask call) fun _ => True :=
  obeys_ask admitted fun _ _ => trivial

theorem obeys_forM {items : List β} {f : β → Action PUnit} (each : ∀ item ∈ items, (f item).Obeys K fun _ => True) :
    Obeys K (items.forM f) fun _ => True := by
  induction items with
  | nil => exact obeys_pure trivial
  | cons item rest ih =>
    exact obeys_bind (each item List.mem_cons_self) fun _ _ =>
      ih fun other member => each other (List.mem_cons_of_mem _ member)

theorem obeys_foldlM {items : List β} {f : α → β → Action α} {a : α} (start : Q a)
    (each : ∀ a item, Q a → item ∈ items → (f a item).Obeys K Q) : Obeys K (items.foldlM f a) Q := by
  induction items generalizing a with
  | nil => exact obeys_pure start
  | cons item rest ih =>
    rw [List.foldlM_cons]
    exact obeys_bind (each a item start List.mem_cons_self) fun b holds =>
      ih holds fun c other fine member => each c other fine (List.mem_cons_of_mem _ member)

theorem Obeys.run {backend : Backend σ} {inv : σ → Prop} {s : σ} (obeys : action.Obeys K Q) (start : inv s)
    (step : ∀ call s, inv s → K.admits call → K.grants call (backend call s).1 ∧ inv (backend call s).2) :
    (∀ a, (action.run backend s).1 = .ok a → Q a) ∧ inv (action.run backend s).2 :=
  Script.Obeys.run obeys start step

end Action
end ModelCatalog.Store
