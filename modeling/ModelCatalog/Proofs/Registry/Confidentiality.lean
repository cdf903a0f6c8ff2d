import ModelCatalog.Proofs.Registry.Overlay

namespace ModelCatalog.Registry
open Ordered Store Action

-- Two stores hold the same models of some kind, each under the same id. They may differ in all others.
def Agree (shown : ModelRecord → Bool) (s s' : Contents) : Prop :=
  ∀ id r, shown r = true → (s.models.get? id = some r ↔ s'.models.get? id = some r)

def listedFor (c : Caller) (r : ModelRecord) : Bool := !r.isBase && (c.owns r.owner || grants r.access c .write)

def ownedBy (c : Caller) (r : ModelRecord) : Bool := c.owns r.owner

section
variable {shown : ModelRecord → Bool} {s s' : Contents} {c : Caller}

theorem agree_iff : Agree shown s s' ↔
    (s.models.filter fun entry => shown entry.2) = s'.models.filter fun entry => shown entry.2 :=
  Keyed.filter_values_eq.symm

instance : Decidable (Agree shown s s') := decidable_of_iff _ agree_iff.symm

theorem Agree.values (agree : Agree shown s s') : s.models.values.filter shown = s'.models.values.filter shown := by
  rw [← Keyed.values_filter,← Keyed.values_filter,agree_iff.mp agree]

theorem Agree.narrow (agree : Agree shown s s') {kept : ModelRecord → Bool}
    (within : ∀ r, kept r = true → shown r = true) :
    s.models.values.filter kept = s'.models.values.filter kept := by
  have narrowed (records : List ModelRecord) : (records.filter shown).filter kept = records.filter kept := by
    rw [List.filter_filter]
    refine List.filter_congr fun r _ => ?_
    cases seen : kept r with
    | true => rw [within r seen,Bool.and_true]
    | false => rw [Bool.false_and]
  rw [← narrowed s.models.values,agree.values,narrowed]

theorem visible_listed (ordinary : c.isAdmin = false) (f : ModelFilter) (r : ModelRecord)
    (seen : (!r.isBase && f.accepts c r && visibleInListing c r) = true) : listedFor c r = true := by
  simp only [visibleInListing,ordinary,Bool.false_or,Bool.and_eq_true] at seen
  obtain ⟨⟨derived,-⟩,visible⟩ := seen
  unfold listedFor
  rw [derived,visible]
  rfl

end

section
variable {live : σ → Contents} {backend : Backend σ} {st : σ}

theorem listed_run (serves : Serves live backend) (f : List ModelRecord → α) :
    (Action.run backend (do return f (← ask .listModels)) st).1 = .ok (f (live st).models.values) := by
  obtain ⟨answered,-⟩ : (backend .listModels st).1 = .ok (live st).models.values ∧
      live (backend .listModels st).2 = live st := serves.read rfl rfl
  have asked : (ask .listModels).run backend st = (.ok (live st).models.values,(backend .listModels st).2) := by
    change ((backend .listModels st).1.mapError Error.storage,_) = _
    rw [answered]
    rfl
  rw [run_bind asked]
  rfl

theorem get_barred (serves : Serves live backend) {c : Caller} {id : String} {r : ModelRecord}
    (found : (live st).models.get? id = some r) (barred : Barred c r .read) :
    ((get c id).run backend st).1 = .error (.forbidden (.model r.id)) := by
  rw [get_gated,gated_barred serves found barred]

end

-- Nothing that a caller is answered depends on a model that is hidden from the caller: listings, with their order,
-- their pages and their totals, exports, and the refusal to read a model.
theorem hidden_models_unseen {live : σ → Contents} {backend : Backend σ} {live' : τ → Contents} {backend' : Backend τ}
    (serves : Serves live backend) (serves' : Serves live' backend') (st : σ) (st' : τ) {c : Caller}
    (ordinary : c.isAdmin = false) :
    (Agree (listedFor c) (live st) (live' st') → ∀ f, ∃ page,
      ((list c f).run backend st).1 = .ok page ∧ ((list c f).run backend' st').1 = .ok page) ∧
    (Agree (ownedBy c) (live st) (live' st') → ∃ records,
      ((exportFor c).run backend st).1 = .ok records ∧ ((exportFor c).run backend' st').1 = .ok records) ∧
    ∀ id r r', (live st).models.get? id = some r → (live' st').models.get? id = some r' → r.id = id → r'.id = id →
      Barred c r .read → Barred c r' .read →
        ((get c id).run backend st).1 = .error (.forbidden (.model id)) ∧
        ((get c id).run backend' st').1 = .error (.forbidden (.model id)) := by
  refine ⟨?_,?_,?_⟩
  · intro agree f
    let page (records : List ModelRecord) : ModelPage :=
      let shown := f.sort (records.filter fun r => !r.isBase && f.accepts c r && visibleInListing c r)
      ⟨f.paginate shown,shown.length⟩
    have same : page (live st).models.values = page (live' st').models.values := by
      unfold page
      rw [agree.narrow (visible_listed ordinary f)]
    exact ⟨_,listed_run serves page,same ▸ listed_run serves' page⟩
  · intro agree
    have same : (live st).models.values.filter (fun r => c.isAdmin || c.owns r.owner) =
        (live' st').models.values.filter fun r => c.isAdmin || c.owns r.owner := by
      refine agree.narrow fun r seen => ?_
      rwa [ordinary,Bool.false_or] at seen
    refine ⟨_,listed_run serves _,?_⟩
    rw [same]
    exact listed_run serves' _
  · intro id r r' found found' own own' barred barred'
    have answered := get_barred serves found barred
    have answered' := get_barred serves' found' barred'
    rw [own] at answered
    rw [own'] at answered'
    exact ⟨answered,answered'⟩

-- Two stores that a caller cannot tell apart: one in memory, the other on a document. Both hold a model of the
-- caller's, and each another one of its own beside a locked one that they do not agree on.
def aliceModel : ModelRecord := { lockedModel with id := "m2",owner := "alice",baseModelId := some "b" }

def firstStore : Contents :=
  { Contents.empty with models := .ofList [("m1",{ lockedModel with baseModelId := some "b" }),("m2",aliceModel)] }

def secondStore : Contents :=
  { Contents.empty with models := .ofList [("m0",{ lockedModel with id := "m0",owner := "carol" }),
    ("m1",{ lockedModel with name := "Other" }),("m2",aliceModel)] }

theorem stores_look_alike :
    let alice := Caller.user "alice"
    let second : DocumentStore × Files.Disk := (⟨["s.json"],secondStore⟩,.empty)
    firstStore ≠ secondStore ∧
    (∃ page, ((list alice {}).run memory firstStore).1 = .ok page ∧
      ((list alice {}).run DocumentStore.reliable second).1 = .ok page ∧ page.items = [aliceModel] ∧ page.total = 1) ∧
    (∃ records, ((exportFor alice).run memory firstStore).1 = .ok records ∧
      ((exportFor alice).run DocumentStore.reliable second).1 = .ok records ∧ records = [aliceModel]) ∧
    ((get alice "m1").run memory firstStore).1 = .error (.forbidden (.model "m1")) ∧
    ((get alice "m1").run DocumentStore.reliable second).1 = .error (.forbidden (.model "m1")) := by
  intro alice second
  have ordinary : alice.isAdmin = false := rfl
  obtain ⟨listed,exported,hidden⟩ :=
    hidden_models_unseen memory_serves (DocumentStore.answer_serves none) firstStore second ordinary
  obtain ⟨page,first,other⟩ := listed (by decide +kernel) {}
  obtain ⟨records,first',other'⟩ := exported (by decide +kernel)
  refine ⟨by decide +kernel,⟨page,first,other,?_⟩,⟨records,first',other',?_⟩,?_⟩
  · have seen : ((list alice {}).run memory firstStore).1.toOption = some ⟨[aliceModel],1⟩ := by decide +kernel
    rw [first] at seen
    cases seen
    exact ⟨rfl,rfl⟩
  · have seen : ((exportFor alice).run memory firstStore).1.toOption = some [aliceModel] := by decide +kernel
    rw [first'] at seen
    cases seen
    rfl
  · exact hidden "m1" { lockedModel with baseModelId := some "b" } { lockedModel with name := "Other" }
      (by decide +kernel) (by decide +kernel) rfl rfl (by decide +kernel) (by decide +kernel)

end ModelCatalog.Registry
