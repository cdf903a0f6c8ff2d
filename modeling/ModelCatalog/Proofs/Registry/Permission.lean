import ModelCatalog.Proofs.Registry.Operation
import ModelCatalog.Proofs.Store.Effects

namespace ModelCatalog

def Barred (c : Caller) (r : ModelRecord) (permission : Permission) : Prop :=
  c.isAdmin = false ∧ c.owns r.owner = false ∧ grants r.access c permission = false

instance (c : Caller) (r : ModelRecord) (permission : Permission) : Decidable (Barred c r permission) :=
  inferInstanceAs (Decidable (_ ∧ _ ∧ _))

namespace Registry
open Store Action

theorem authorize_barred {c : Caller} {r : ModelRecord} {permission : Permission} (barred : Barred c r permission) :
    authorize c r permission = .error (.forbidden (.model r.id)) := by
  obtain ⟨ordinary,foreign,ungranted⟩ := barred
  simp [authorize,ordinary,foreign,ungranted]

theorem authorize_error {c : Caller} {r : ModelRecord} {permission : Permission} {e : Error}
    (refused : authorize c r permission = .error e) : Barred c r permission ∧ e = .forbidden (.model r.id) := by
  unfold authorize at refused
  split at refused
  · cases refused
  · next shut =>
    cases refused
    simp only [Bool.or_eq_true,not_or,Bool.not_eq_true] at shut
    exact ⟨⟨shut.1.1,shut.1.2,shut.2⟩,rfl⟩

section
variable {live : σ → Contents} {backend : Backend σ} {st : σ} {c : Caller} {id : String} {permission : Permission}
  {r : ModelRecord} {next : ModelRecord → Action α}

theorem load_run (serves : Serves live backend) (found : (live st).models.get? id = some r) :
    (load id).run backend st = (.ok r,(backend (.getModel id) st).2) ∧ live (backend (.getModel id) st).2 = live st := by
  have held : (live st).answer (.getModel id) = .ok (some r,live st) := by rw [← found]; rfl
  obtain ⟨answered,same⟩ : (backend (.getModel id) st).1 = .ok (some r) ∧ live (backend (.getModel id) st).2 = live st :=
    serves.read rfl held
  refine ⟨?_,same⟩
  have asked : (ask (.getModel id)).run backend st = (.ok (some r),(backend (.getModel id) st).2) := by
    change ((backend (.getModel id) st).1.mapError Error.storage,_) = _
    rw [answered]
    rfl
  rw [load,run_bind asked]
  rfl

theorem gated_barred (serves : Serves live backend) (found : (live st).models.get? id = some r)
    (barred : Barred c r permission) :
    (gated c id permission next).run backend st =
      (.error (.forbidden (.model r.id)),(backend (.getModel id) st).2) := by
  rw [gated,run_bind (load_run serves found).1,authorize_barred barred]
  rfl

theorem gated_forbidden (serves : Serves live backend) {subject : Subject}
    (quiet : ∀ r, (next r).Ends (live st) (fun _ _ => True) fun e _ => ∀ subject, e ≠ .forbidden subject)
    (answered : ((gated c id permission next).run backend st).1 = .error (.forbidden subject)) :
    ∃ r, (live st).models.get? id = some r ∧ Barred c r permission ∧ subject = .model r.id := by
  have ends : (gated c id permission next).Ends (live st) (fun _ _ => True) fun e _ => ∀ subject, e = .forbidden subject →
      ∃ r, (live st).models.get? id = some r ∧ Barred c r permission ∧ subject = .model r.id := by
    refine ends_bind (ends_bind (ends_read rfl ?_ fun e subject same => by cases same))
    split
    · next r found =>
      refine ends_pure (ends_bind (ends_lift (fun _ _ => ?_) fun e refused => ?_))
      · exact (quiet r).imp (fun _ _ _ => trivial) fun e _ other subject same => (other subject same).elim
      · obtain ⟨barred,rfl⟩ := authorize_error refused
        rintro subject same
        cases same
        exact ⟨r,found,barred,rfl⟩
    · exact ends_throw fun subject same => by cases same
  have ended := ends.run serves
  rw [answered] at ended
  exact ended subject rfl

theorem removal_unforbidden (id : String) (s : Contents) :
    Ends (do if !(← ask (.deleteModel id)) then throw (.notFound (.model id))) s (fun _ _ => True)
      fun e _ => ∀ subject, e ≠ .forbidden subject := by
  refine ends_bind (ends_ask (fun removed s' _ => ?_) fun e subject same => by cases same)
  split
  · exact ends_throw fun subject same => by cases same
  · exact ends_pure trivial

theorem delete_forbidden (serves : Serves live backend) {subject : Subject}
    (answered : ((delete c id).run backend st).1 = .error (.forbidden subject)) :
    ∃ r, (live st).models.get? id = some r ∧ Barred c r .write ∧ subject = .model r.id := by
  rw [delete_gated] at answered
  exact gated_forbidden serves (fun _ => removal_unforbidden id _) answered

end
end Registry
end ModelCatalog
