import ModelCatalog.Proofs.Catalog.Agreement
import ModelCatalog.Proofs.Provider.Key

namespace ModelCatalog.Catalog
open Web

section
variable {s : Service} {w : Surroundings} {c : Connection} {k : String}

theorem send_keyless {net : Network} (keyless : Keyless net) (cancelled : Bool) :
    Keyless fun r => r.send net cancelled := by
  intro address before after k k'
  simp only [Request.send,keyless address before after k k']

theorem send_rekey (keyless : Keyless w.network) (first : Sendable c.apiKey) (second : Sendable k) (url : String) :
    s.send w (c.rekey k) url = s.send w c url := by
  have sent (c : Connection) : s.send w c url = (((Request.make url c.headers.entries c.bearerToken s.config.userAgent).map
      fun r => r.send w.network (w.cancellation = .whileWaiting)).mapError Error.unreachable) >>= id := by
    unfold Service.send Service.request
    cases Request.make url c.headers.entries c.bearerToken s.config.userAgent <;> rfl
  rw [sent,sent c]
  cases kind : c.authType with
  | none =>
    have silent : c.bearerToken = none ∧ (c.rekey k).bearerToken = none := by
      simp [Connection.bearerToken,Connection.rekey,kind]
    rw [silent.1,silent.2]
    rfl
  | bearer =>
    have shown : c.bearerToken = some c.apiKey ∧ (c.rekey k).bearerToken = some k := by
      simp [Connection.bearerToken,Connection.rekey,kind,first.1,second.1]
    rw [shown.1,shown.2]
    change ((((Request.make url c.headers.entries (some k) s.config.userAgent).map _).mapError _) >>= _) = _
    rw [Request.make_keyless (send_keyless keyless _) url c.headers.entries s.config.userAgent second first]

theorem listModels_rekey (keyless : Keyless w.network) (first : Sendable c.apiKey) (second : Sendable k) (index : Nat) :
    s.listModels w (c.rekey k) index = s.listModels w c index := by
  unfold Service.listModels
  rw [show (c.rekey k).listUrl = c.listUrl from rfl,send_rekey keyless first second]
  rfl

theorem probe_rekey (keyless : Keyless w.network) (first : Sendable c.apiKey) (second : Sendable k) :
    s.probe w (c.rekey k) = s.probe w c := by
  unfold Service.probe
  rw [show (c.rekey k).verifyUrl = c.verifyUrl from rfl,send_rekey keyless first second]

end

theorem places_alike {g : Connection × Nat → α} (alike : ∀ c c' i, c.blot = c'.blot → g (c,i) = g (c',i))
    {cs cs' : List Connection} (same : cs.map Connection.blot = cs'.map Connection.blot) :
    cs.zipIdx.map g = cs'.zipIdx.map g := by
  have from' (n : Nat) : (cs.zipIdx n).map g = (cs'.zipIdx n).map g := by
    induction cs generalizing cs' n with
    | nil =>
      cases List.map_eq_nil_iff.mp same.symm
      rfl
    | cons c rest ih =>
      cases cs' with
      | nil => cases same
      | cons c' rest' =>
        obtain ⟨first,others⟩ := List.cons.inj same
        rw [List.zipIdx_cons,List.zipIdx_cons,List.map_cons,List.map_cons,alike c c' n first,ih others (n + 1)]
  exact from' 0

section
variable {s : Service} {w : Surroundings} {cs cs' : List Connection}

theorem answer_alike (keyless : Keyless w.network) (c c' : Connection) (index : Nat) (same : c.blot = c'.blot) :
    s.answer (s.listModels w) (c,index) = s.answer (s.listModels w) (c',index) := by
  refine Connection.blot_congr (f := fun c => s.fetch (s.listModels w) index c) (fun c k first second => ?_) same
  unfold Service.fetch
  rw [listModels_rekey keyless first second]
  rfl

theorem strict_alike (keyless : Keyless w.network) (same : cs.map Connection.blot = cs'.map Connection.blot) :
    s.strict (s.listModels w) cs = s.strict (s.listModels w) cs' := by
  have answers := places_alike (answer_alike (s := s) keyless) same
  have whole (places : List (Connection × Nat)) : places.mapM (s.answer (s.listModels w)) =
      (places.map (s.answer (s.listModels w))).mapM id := by
    rw [List.mapM_map]
    rfl
  rw [strict_eq,strict_eq,whole,whole,answers]

theorem lenient_alike (keyless : Keyless w.network) (same : cs.map Connection.blot = cs'.map Connection.blot) :
    s.lenient (s.listModels w) cs = s.lenient (s.listModels w) cs' := by
  have batches : cs.zipIdx.map (s.batch? (s.listModels w)) = cs'.zipIdx.map (s.batch? (s.listModels w)) :=
    places_alike (fun c c' i alike => by rw [Service.batch?,Service.batch?,answer_alike keyless c c' i alike]) same
  have failures : cs.zipIdx.map (s.failure? (s.listModels w)) = cs'.zipIdx.map (s.failure? (s.listModels w)) := by
    refine places_alike (fun c c' i alike => ?_) same
    have own : c.blot.id = c'.blot.id := by rw [alike]
    change c.id = c'.id at own
    rw [Service.failure?,Service.failure?,answer_alike keyless c c' i alike]
    cases s.answer (s.listModels w) (c',i) with
    | ok batch => rfl
    | error e => rw [Failure.of?,Failure.of?,own]
  have gathered {β : Type} (g : Connection × Nat → Option β) (places : List (Connection × Nat)) :
      places.filterMap g = (places.map g).filterMap id := by
    rw [List.filterMap_map]
    rfl
  rw [lenient_eq,lenient_eq,gathered,gathered,gathered _ cs'.zipIdx,gathered _ cs'.zipIdx,batches,failures]

end
end ModelCatalog.Catalog
