import ModelCatalog.Proofs.Model.Order
import ModelCatalog.Proofs.Model.Pages
import ModelCatalog.Proofs.Registry.Backup
import ModelCatalog.Proofs.Registry.Confidentiality

namespace ModelCatalog.Registry
open Ordered Store Action

def listing (c : Caller) (f : ModelFilter) (s : Contents) : List ModelRecord :=
  f.sort (s.models.values.filter fun r => !r.isBase && f.accepts c r && visibleInListing c r)

section
variable {live : σ → Contents} {backend : Backend σ} {st : σ} {s : Contents} {c : Caller} {f : ModelFilter}

theorem list_run (serves : Serves live backend) (c : Caller) (f : ModelFilter) :
    ((list c f).run backend st).1 =
      .ok ⟨f.paginate (listing c f (live st)),(listing c f (live st)).length⟩ := by
  let answer (records : List ModelRecord) : ModelPage :=
    let shown := f.sort (records.filter fun r => !r.isBase && f.accepts c r && visibleInListing c r)
    ⟨f.paginate shown,shown.length⟩
  exact listed_run serves answer

theorem mem_listing (filed : Filed s) {r : ModelRecord} : r ∈ listing c f s ↔
    s.models.get? r.id = some r ∧ r.isBase = false ∧ f.accepts c r = true ∧ visibleInListing c r = true := by
  rw [listing,(f.sort_perm _).mem_iff,List.mem_filter,Bool.and_eq_true,Bool.and_eq_true,Bool.not_eq_true',and_assoc]
  constructor
  · rintro ⟨held,shown⟩
    exact ⟨filed_values filed held,shown⟩
  · rintro ⟨found,shown⟩
    exact ⟨Keyed.mem_values.mpr ⟨_,Keyed.get?_mem found⟩,shown⟩

theorem listing_before (filed : Filed s) : (listing c f s).Pairwise f.Before :=
  (f.sort_arranged _).before (f.sort_distinct (ids_distinct filed _))

theorem listing_nodup (filed : Filed s) : (listing c f s).Nodup :=
  (f.sort_distinct (ids_distinct filed _)).of_map

end

-- A listing shows what is stored and meant for the caller, each model once, by key and id or the other way round; its
-- pages make it up, and each says how long all of it is.
theorem pages_make_up_listing {live : σ → Contents} {backend : Backend σ} (serves : Serves live backend) {st : σ}
    (filed : Filed (live st)) (c : Caller) (f : ModelFilter) :
    ∃ (ordered : List ModelRecord) (items : Nat → List ModelRecord),
      ordered.Pairwise f.orderBy.Before ∧ ordered.Nodup ∧
      (∀ r, r ∈ ordered ↔ (live st).models.get? r.id = some r ∧ r.isBase = false ∧ f.accepts c r = true ∧
        visibleInListing c r = true) ∧
      ((list c { f with page := none }).run backend st).1 =
        .ok ⟨f.direction.laid ordered,ordered.length⟩ ∧
      (∀ page, ((list c { f with page := some page }).run backend st).1 = .ok ⟨items page,ordered.length⟩) ∧
      Paged (f.direction.laid ordered) items := by
  let up : ModelFilter := { f with direction := .ascending }
  let ordered := listing c up (live st)
  have before : ordered.Pairwise up.Before := listing_before filed
  have laid : listing c f (live st) = f.direction.laid ordered := f.sort_laid (ids_distinct filed _)
  have total : (listing c f (live st)).length = ordered.length := (f.sort_length _).trans (up.sort_length _).symm
  refine ⟨ordered,f.pageItems (listing c f (live st)),before,listing_nodup filed,fun r => mem_listing filed,?_,?_,?_⟩
  · rw [← laid,← total]
    exact list_run serves c { f with page := none }
  · intro page
    rw [← total]
    exact list_run serves c { f with page := some page }
  · rw [← laid]
    exact f.paginate_paged _

def crowdedStore : Contents :=
  let records := (List.range 31).map fun number => { aliceModel with id := "m" ++ toString number }
  { Contents.empty with models := .ofList (records.map fun r => (r.id,r)) }

theorem crowded_pages :
    let alice := Caller.user "alice"
    ∃ (shown : List ModelRecord) (items : Nat → List ModelRecord),
      ((list alice {}).run memory crowdedStore).1 = .ok ⟨shown,31⟩ ∧
      (∀ page, ((list alice { page := some page }).run memory crowdedStore).1 = .ok ⟨items page,31⟩) ∧
      items 1 ++ items 2 = shown ∧ (items 1).length = 30 ∧ (items 2).length = 1 ∧ items 3 = [] := by
  intro alice
  have filed : Filed crowdedStore := filed_of_keyed (by decide +kernel)
  have total : (listing alice {} crowdedStore).length = 31 :=
    (ModelFilter.sort_length _ _).trans (by decide +kernel)
  obtain ⟨ordered,items,-,-,-,shown,paged,pages⟩ := pages_make_up_listing memory_serves filed alice {}
  have many : ordered.length = 31 := by
    have listed := shown.symm.trans (list_run memory_serves alice {})
    rw [← total]
    exact congrArg ModelPage.total (Except.ok.inj listed)
  have all : ordered.reverse.length = 31 := List.length_reverse.trans many
  have together : items 1 ++ items 2 = ordered.reverse := by
    have joined := pages.together
    change (List.range' 1 (pageCount ordered.reverse.length)).flatMap items = _ at joined
    rw [all] at joined
    change items 1 ++ (items 2 ++ []) = _ at joined
    rwa [List.append_nil] at joined
  have full : (items 1).length = 30 := pages.full 1 (by decide) (by
    change 1 < pageCount ordered.reverse.length
    rw [all]
    decide)
  have rest : (items 2).length = 1 := by
    have lengths := congrArg List.length together
    rw [List.length_append,full,all] at lengths
    omega
  have behind : items 3 = [] := pages.beyond 3 (by
    change pageCount ordered.reverse.length < 3
    rw [all]
    decide)
  rw [many] at shown paged
  exact ⟨ordered.reverse,items,shown,paged,together,full,rest,behind⟩

end ModelCatalog.Registry
