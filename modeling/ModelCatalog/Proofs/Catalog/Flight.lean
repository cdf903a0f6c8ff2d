import Mathlib.Data.List.Basic

namespace ModelCatalog.Catalog

-- Items that are worked on side by side, and whose results are taken in the order of the items: an item waits,
-- or it runs and may have its result already, or its result is taken.
structure Flight (α β : Type) where
  waiting : List α
  running : List (α × Bool)
  taken : List β

namespace Flight

-- Items that have their result and wait for their turn still take up room.
inductive Step (result : α → β) (width : Nat) : Flight α β → Flight α β → Prop where
  | begin (room : busy.length < width) :
      Step result width ⟨a :: idle,busy,out⟩ ⟨idle,busy ++ [(a,false)],out⟩
  | finish : Step result width ⟨idle,before ++ (a,false) :: after,out⟩ ⟨idle,before ++ (a,true) :: after,out⟩
  | take : Step result width ⟨idle,(a,true) :: busy,out⟩ ⟨idle,busy,out ++ [result a]⟩

inductive Reached (result : α → β) (width : Nat) (items : List α) : Flight α β → Prop where
  | start : Reached result width items ⟨items,[],[]⟩
  | step (prior : Reached result width items f) (step : Step result width f f') : Reached result width items f'

def all? (f : Flight α β) : Option (List β) :=
  if f.waiting.isEmpty && f.running.isEmpty then some f.taken else none

-- The values of all items, once there are, or the first error as soon as it is taken.
def strict? (f : Flight α (Except ε β)) : Option (Except ε (List β)) :=
  match f.taken.mapM id with
  | .error e => some (.error e)
  | .ok values => if f.waiting.isEmpty && f.running.isEmpty then some (.ok values) else none

def left (f : Flight α β) : Nat :=
  3 * f.waiting.length + f.running.length + f.running.countP fun item => !item.2

variable {result : α → β} {width : Nat} {items : List α} {f f' : Flight α β}

-- What is kept: every item is where its turn has it, and no more than the width are running.
structure InTurn (result : α → β) (width : Nat) (items : List α) (f : Flight α β) : Prop where
  order : f.taken ++ (f.running.map (·.1) ++ f.waiting).map result = items.map result
  within : f.running.length ≤ width

theorem InTurn.step (turn : InTurn result width items f) (step : Step result width f f') :
    InTurn result width items f' := by
  obtain ⟨order,within⟩ := turn
  cases step with
  | begin room => exact ⟨by simpa using order,by rw [List.length_append]; exact room⟩
  | finish => exact ⟨by simpa using order,by simpa using within⟩
  | take => exact ⟨by simpa using order,Nat.le_of_succ_le within⟩

theorem Reached.inTurn (reached : Reached result width items f) : InTurn result width items f := by
  induction reached with
  | start => exact ⟨by simp,Nat.zero_le _⟩
  | step prior step ih => exact ih.step step

theorem Step.left_lt (step : Step result width f f') : f'.left < f.left := by
  cases step with
  | begin room => simp [left]; omega
  | finish => simp [left]
  | take => simp [left]

theorem progress (wide : 0 < width) (unfinished : f.all? = none) : ∃ next, Step result width f next := by
  obtain ⟨waiting,running,taken⟩ := f
  cases running with
  | nil =>
    cases waiting with
    | nil => cases unfinished
    | cons a waiting => exact ⟨_,.begin wide⟩
  | cons head running =>
    obtain ⟨a,finished⟩ := head
    cases finished with
    | true => exact ⟨_,.take⟩
    | false =>
      have first : Step result width ⟨waiting,[] ++ (a,false) :: running,taken⟩
        ⟨waiting,[] ++ (a,true) :: running,taken⟩ := .finish
      exact ⟨_,first⟩

theorem Reached.all (reached : Reached result width items f) (found : f.all? = some results) :
    results = items.map result := by
  obtain ⟨waiting,running,taken⟩ := f
  unfold all? at found
  split at found
  · next done =>
    cases found
    simp only [Bool.and_eq_true,List.isEmpty_iff] at done
    obtain ⟨rfl,rfl⟩ := done
    simpa using reached.inTurn.order
  · cases found

theorem mapM_failed_early {f : α → Except ε γ} {done rest : List (Except ε γ)} {e : ε}
    (order : done ++ rest = items.map f) (failed : done.mapM id = .error e) : items.mapM f = .error e := by
  have whole : items.mapM f = (done ++ rest).mapM id := by rw [order,List.mapM_map]; rfl
  rw [whole,List.mapM_append,failed]
  rfl

theorem Reached.strict {answer : α → Except ε γ} {f : Flight α (Except ε γ)} (reached : Reached answer width items f)
    (found : f.strict? = some outcome) : outcome = items.mapM answer := by
  obtain ⟨waiting,running,taken⟩ := f
  have order := reached.inTurn.order
  unfold strict? at found
  split at found
  · next e failed =>
    cases found
    exact (mapM_failed_early order failed).symm
  · next values fine =>
    split at found
    · next done =>
      cases found
      simp only [Bool.and_eq_true,List.isEmpty_iff] at done
      obtain ⟨rfl,rfl⟩ := done
      have all : taken = items.map answer := by simpa using order
      rw [← fine,all,List.mapM_map]
      rfl
    · cases found

theorem unfinished_of_strict {f : Flight α (Except ε γ)} (unfinished : f.strict? = none) : f.all? = none := by
  unfold strict? at unfinished
  unfold all?
  split at unfinished
  · cases unfinished
  · split at unfinished
    · cases unfinished
    · next more => exact if_neg more

end Flight
end ModelCatalog.Catalog
