import ModelCatalog.Proofs.Store.Refinement

namespace ModelCatalog.Store
open Files

-- A store in good order: it answers every call as its contents do, and a call leaves it in good order.
structure Mirrors (live : σ → Contents) (backend : Backend σ) (good : σ → Prop) : Prop where
  answers : ∀ call {s}, good s → memory call (live s) = ((backend call s).1,live (backend call s).2)
  stays : ∀ call {s}, good s → good (backend call s).2

theorem memory_mirrors : Mirrors id memory fun _ => True where
  answers _ _ _ := rfl
  stays _ _ _ := trivial

theorem DocumentStore.reliable_mirrors :
    Mirrors (fun st : DocumentStore × Disk => st.1.live) reliable fun st => Writable st.1.path st.2 where
  answers call st writable := by
    obtain ⟨s,d⟩ := st
    have unfailed : failed (answer none call (s,d)).1 = false := (reliable_unfailed call writable).1
    have refines := answer_refines none call s d
    rw [unfailed] at refines
    exact refines
  stays call st writable := by
    obtain ⟨s,d⟩ := st
    have left : Writable s.path (answer none call (s,d)).2.2 := (reliable_unfailed call writable).2
    rwa [← answer_path none call s d] at left

section
variable {live : σ → Contents} {backend : Backend σ} {good : σ → Prop} {st : σ}

theorem Mirrors.run (mirrors : Mirrors live backend good) (script : Script α) (order : good st) :
    script.run memory (live st) = ((script.run backend st).1,live (script.run backend st).2) ∧
      good (script.run backend st).2 := by
  induction script generalizing st with
  | done a => exact ⟨rfl,order⟩
  | perform call next ih =>
    have behind := ih (backend call st).1 (mirrors.stays call order)
    refine ⟨?_,behind.2⟩
    rw [Script.run,mirrors.answers call order]
    exact behind.1

end

namespace Action
variable {s s' s'' : Contents} {action : Action α} {a : α} {b : β}

def Yields (action : Action α) (s : Contents) (a : α) (s' : Contents) : Prop := action.run memory s = (.ok a,s')

theorem yields_pure (a : α) : Yields (pure a) s a s := rfl

theorem yields_bind {f : α → Action β} (first : action.Yields s a s') (later : (f a).Yields s' b s'') :
    Yields (action >>= f) s b s'' := (run_bind first).trans later

theorem yields_ask {call : Call} {a : call.Answer} (answered : s.answer call = .ok (a,s')) : Yields (ask call) s a s' := by
  change ((memory call s).1.mapError Error.storage,(memory call s).2) = _
  rw [memory,answered]
  rfl

theorem yields_attempt {call : Call} {a : call.Answer} (answered : s.answer call = .ok (a,s')) :
    Yields (attempt call) s (.ok a) s' := by
  change (Except.ok (memory call s).1,(memory call s).2) = _
  rw [memory,answered]

theorem yields_lift {result : Except Error α} (same : result = .ok a) : Yields (liftM result) s a s := by
  rw [same]
  rfl

theorem Yields.run {live : σ → Contents} {backend : Backend σ} {good : σ → Prop} {st : σ}
    (mirrors : Mirrors live backend good) (order : good st) (yields : action.Yields (live st) a s') :
    (action.run backend st).1 = .ok a ∧ live (action.run backend st).2 = s' ∧ good (action.run backend st).2 := by
  obtain ⟨same,left⟩ := mirrors.run (ExceptT.run action) order
  obtain ⟨result,contents⟩ := Prod.mk.inj (same.symm.trans yields)
  exact ⟨result,contents,left⟩

end Action
end ModelCatalog.Store
