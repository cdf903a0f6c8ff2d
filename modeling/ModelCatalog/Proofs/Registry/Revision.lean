import ModelCatalog.Proofs.Provider.Patch
import ModelCatalog.Proofs.Store.Effects
import ModelCatalog.Proofs.Store.Mirror
import ModelCatalog.Registry.Connections

namespace ModelCatalog
open Ordered Store Action

structure Revision where
  patch : ConnectionPatch
  now : Timestamp

def lastSet? (made : List Revision) (a : Attribute) : Option a.Value :=
  (made.filterMap fun r => r.patch.value? a).getLast?

theorem lastSet?_cons (r : Revision) (made : List Revision) (a : Attribute) (v : a.Value) :
    (lastSet? (r :: made) a).getD v = (lastSet? made a).getD ((r.patch.value? a).getD v) := by
  unfold lastSet?
  rw [List.filterMap_cons]
  cases r.patch.value? a with
  | none => rfl
  | some v => exact congrArg (Option.getD · _) List.getLast?_cons

-- A connection behind some revisions: each attribute is as the last of them that sets it says, or as it was, and the
-- last change is the last revision.
structure Connection.Revised (c : Connection) (made : List Revision) (c' : Connection) : Prop where
  id : c'.id = c.id
  created : c'.createdAt = c.createdAt
  updated : c'.updatedAt = (made.getLast?.map (·.now)).getD c.updatedAt
  value : ∀ a, c'.value a = (lastSet? made a).getD (c.value a)

namespace Connection
variable {c c' c'' : Connection} {r : Revision} {made : List Revision}

theorem Revised.refl (c : Connection) : c.Revised [] c := ⟨rfl,rfl,rfl,fun _ => rfl⟩

theorem Revised.cons (first : c.Patched r.patch r.now c') (others : c'.Revised made c'') :
    c.Revised (r :: made) c'' where
  id := others.id.trans first.id
  created := others.created.trans first.created
  updated := by
    rw [others.updated,first.updated,List.getLast?_cons]
    cases made.getLast? <;> rfl
  value a := by rw [others.value,first.value,lastSet?_cons]

end Connection

namespace Store.Contents
variable {s : Contents} {c c' : Connection}

def place (s : Contents) (c : Connection) : Contents := { s with connections := s.connections.insert c.id c }

theorem place_found (s : Contents) (c : Connection) : (s.place c).connections.get? c.id = some c := by
  simp [place]

theorem place_stored (stored : s.connections.get? c.id = some c) : s.place c = s := by
  have same : s.connections.insert c.id c = s.connections := by
    refine Keyed.ext_get? fun id => ?_
    by_cases own : id = c.id
    · simp [own,stored]
    · simp [own]
  rw [place,same]

theorem place_again (same : c'.id = c.id) : (s.place c).place c' = s.place c' := by
  have last : (s.connections.insert c.id c).insert c'.id c' = s.connections.insert c'.id c' := by
    refine Keyed.ext_get? fun id => ?_
    by_cases own : id = c.id
    · simp [own,same]
    · simp [own,same]
  change { s with connections := (s.connections.insert c.id c).insert c'.id c' } = s.place c'
  rw [last,place]

end Store.Contents

namespace Registry.Connections
variable {c c' : Connection} {p : ConnectionPatch} {now : Timestamp}

theorem get_run {live : σ → Contents} {backend : Backend σ} (serves : Serves live backend) {st : σ}
    (stored : (live st).connections.get? c.id = some c) :
    (get c.id).run backend st = (.ok c,(backend (.getConnection c.id) st).2) ∧
      live (backend (.getConnection c.id) st).2 = live st := by
  have found : (live st).answer (.getConnection c.id) = .ok (some c,live st) := by rw [Contents.answer,stored]
  obtain ⟨answered,unchanged⟩ := serves.read rfl found
  have asked : (ask (.getConnection c.id)).run backend st = (.ok (some c),(backend (.getConnection c.id) st).2) :=
    Prod.ext (congrArg (Except.mapError Error.storage) answered) rfl
  exact ⟨run_bind asked,unchanged⟩

theorem update_ends {s : Contents} (stored : s.connections.get? c.id = some c) (p : ConnectionPatch) (now : Timestamp) :
    (update c.id p now).Ends s (fun c' s' => c.applyPatch p now = .ok c' ∧ s' = s.place c') (fun _ s' => s' = s) := by
  refine ends_bind (ends_bind (ends_read (by rw [Contents.answer,stored]) (ends_pure ?_) fun _ => rfl))
  refine ends_bind (ends_lift (fun c' patched => ?_) fun _ _ => rfl)
  refine ends_bind (ends_attempt (fun a s' answered => ?_) fun e => ?_)
  · rw [Contents.answer] at answered
    split at answered
    · cases answered
      exact ends_pure ⟨patched,rfl⟩
    · cases answered
  · cases e <;> exact ends_throw rfl

theorem update_yields {s : Contents} (stored : s.connections.get? c.id = some c)
    (patched : c.applyPatch p now = .ok c') : (update c.id p now).Yields s c' (s.place c') := by
  have there : s.connections.contains c'.id = true := by
    rw [(Connection.applyPatch_patched patched).id,Keyed.contains,stored]
    rfl
  have found : (get c.id).Yields s c s := (get_run memory_serves stored).1
  refine yields_bind found (yields_bind (yields_lift patched) ?_)
  exact yields_bind (yields_attempt (if_pos there)) (yields_pure c')

def revise (backend : Backend σ) (id : ConnectionId) : List Revision → σ → List (Revision × Except Error Connection) × σ
  | [],st => ([],st)
  | r :: rest,st =>
    let (outcome,st) := (update id r.patch r.now).run backend st
    let (outcomes,st) := revise backend id rest st
    ((r,outcome) :: outcomes,st)

def succeeded (outcomes : List (Revision × Except Error Connection)) : List Revision :=
  outcomes.filterMap fun (r,outcome) => outcome.toOption.map fun _ => r

section
variable {live : σ → Contents} {backend : Backend σ} {st st' : σ}

theorem update_refused (serves : Serves live backend) (stored : (live st).connections.get? c.id = some c)
    (refused : p.Refused) (now : Timestamp) :
    ∃ cause, (update c.id p now).run backend st = (.error (.invalid cause),(backend (.getConnection c.id) st).2) ∧
      live (backend (.getConnection c.id) st).2 = live st := by
  obtain ⟨found,unchanged⟩ := get_run serves stored
  obtain ⟨cause,failed⟩ := Connection.applyPatch_refused refused c now
  refine ⟨cause,?_,unchanged⟩
  rw [update,run_bind found,failed]
  exact run_failed rfl

theorem update_made (serves : Serves live backend) (stored : (live st).connections.get? c.id = some c)
    (made : (update c.id p now).run backend st = (.ok c',st')) :
    c.applyPatch p now = .ok c' ∧ live st' = (live st).place c' := by
  have ended := (update_ends stored p now).conclude serves.atomic
  rwa [made] at ended

theorem update_failed (serves : Serves live backend) (stored : (live st).connections.get? c.id = some c)
    (failed : (update c.id p now).run backend st = (.error e,st')) : live st' = live st := by
  have ended := (update_ends stored p now).conclude serves.atomic
  rwa [failed] at ended

theorem revise_revised (serves : Serves live backend) (revisions : List Revision)
    (stored : (live st).connections.get? c.id = some c) :
    ∃ c', c.Revised (succeeded (revise backend c.id revisions st).1) c' ∧
      live (revise backend c.id revisions st).2 = (live st).place c' := by
  induction revisions generalizing st c with
  | nil => exact ⟨c,.refl c,(Contents.place_stored stored).symm⟩
  | cons r rest ih =>
    rcases ran : (update c.id r.patch r.now).run backend st with ⟨outcome,st₁⟩
    rw [revise,ran]
    cases outcome with
    | error e =>
      have unchanged := update_failed serves stored ran
      rw [← unchanged] at stored
      obtain ⟨c',revised,left⟩ := ih stored
      exact ⟨c',revised,left.trans (by rw [unchanged])⟩
    | ok c₁ =>
      obtain ⟨patched,placed⟩ := update_made serves stored ran
      have first := Connection.applyPatch_patched patched
      have stored₁ : (live st₁).connections.get? c₁.id = some c₁ := by rw [placed,Contents.place_found]
      obtain ⟨c',revised,left⟩ := ih stored₁
      rw [first.id] at revised left
      exact ⟨c',revised.cons first,left.trans (by rw [placed,Contents.place_again revised.id])⟩

theorem update_taken {good : σ → Prop} (mirrors : Mirrors live backend good) (order : good st)
    (stored : (live st).connections.get? c.id = some c) (patched : c.applyPatch p now = .ok c') :
    ∃ st', (update c.id p now).run backend st = (.ok c',st') ∧ live st' = (live st).place c' ∧ good st' := by
  obtain ⟨result,left,kept⟩ := (update_yields stored patched).run mirrors order
  exact ⟨_,Prod.ext result rfl,left,kept⟩

theorem updates_made (serves : Serves live backend) (stored : (live st).connections.get? c.id = some c)
    (first : (update c.id p now).run backend st = (.ok a,st₁))
    (second : (update c.id q later).run backend st₁ = (.ok b,st₂)) :
    ¬ p.Refused ∧ ¬ q.Refused ∧ c.Patched (q.atop p) later b ∧ live st₂ = (live st).place b := by
  obtain ⟨patched,placed⟩ := update_made serves stored first
  obtain ⟨lower,made⟩ := Connection.applyPatch_ok.mp patched
  have stored₁ : (live st₁).connections.get? a.id = some a := by rw [placed,Contents.place_found]
  rw [← made.id] at second
  obtain ⟨patched',placed'⟩ := update_made serves stored₁ second
  obtain ⟨upper,made'⟩ := Connection.applyPatch_ok.mp patched'
  exact ⟨lower,upper,made.trans made',by rw [placed',placed,Contents.place_again made'.id]⟩

theorem updates_merge {good : σ → Prop} (serves : Serves live backend) (mirrors : Mirrors live backend good)
    (order : good st) (stored : (live st).connections.get? c.id = some c)
    (first : (update c.id p now).run backend st = (.ok a,st₁))
    (second : (update c.id q later).run backend st₁ = (.ok b,st₂)) :
    ∃ st', (update c.id (q.atop p) later).run backend st = (.ok b,st') ∧ live st' = live st₂ := by
  obtain ⟨lower,upper,made,placed⟩ := updates_made serves stored first second
  have patched : c.applyPatch (q.atop p) later = .ok b :=
    Connection.applyPatch_ok.mpr ⟨ConnectionPatch.atop_accepted upper lower,made⟩
  obtain ⟨st',taken,left,-⟩ := update_taken mirrors order stored patched
  exact ⟨st',taken,left.trans placed.symm⟩

theorem updates_commute {good : σ → Prop} (serves : Serves live backend) (mirrors : Mirrors live backend good)
    (order : good st) (stored : (live st).connections.get? c.id = some c) (apart : p.Apart q)
    (first : (update c.id p now).run backend st = (.ok a,st₁))
    (second : (update c.id q later).run backend st₁ = (.ok b,st₂))
    (now' later' : Timestamp) :
    ∃ a' st₁' st₂', (update c.id q now').run backend st = (.ok a',st₁') ∧
      (update c.id p later').run backend st₁' = (.ok { b with updatedAt := later' },st₂') ∧
      live st₂' = (live st₂).place { b with updatedAt := later' } := by
  obtain ⟨lower,upper,made,placed⟩ := updates_made serves stored first second
  obtain ⟨a',patched⟩ := Connection.applyPatch_accepted upper c now'
  obtain ⟨st₁',taken,left,kept⟩ := update_taken mirrors order stored patched
  have own := (Connection.applyPatch_patched patched).id
  have stored₁ : (live st₁').connections.get? a'.id = some a' := by rw [left,Contents.place_found]
  obtain ⟨b',patched'⟩ := Connection.applyPatch_accepted lower a' later'
  obtain ⟨st₂',taken',-,-⟩ := update_taken mirrors kept stored₁ patched'
  rw [own] at taken'
  obtain ⟨-,-,made',placed'⟩ := updates_made serves stored taken taken'
  rw [apart.atop_comm] at made'
  cases made.at_time made'
  exact ⟨a',st₁',st₂',taken,taken',by rw [placed',placed,Contents.place_again]; rfl⟩

-- Updates of a stored connection are all or nothing, and they compose. A bad base address refuses a patch whatever else
-- it sets, and in a store in good order nothing else does.
theorem patches_compose (serves : Serves live backend) (st : σ) (stored : (live st).connections.get? c.id = some c) :
    (∀ p now, p.Refused →
      ∃ cause, (update c.id p now).run backend st = (.error (.invalid cause),(backend (.getConnection c.id) st).2) ∧
        live (backend (.getConnection c.id) st).2 = live st) ∧
    (∀ revisions, ∃ c',
      c.Revised (succeeded (revise backend c.id revisions st).1) c' ∧
      live (revise backend c.id revisions st).2 = (live st).place c') ∧
    ∀ good, Mirrors live backend good → good st →
      (∀ p now, ¬ p.Refused → ∃ c' st', (update c.id p now).run backend st = (.ok c',st')) ∧
      ∀ p q now later a b st₁ st₂,
        (update c.id p now).run backend st = (.ok a,st₁) → (update c.id q later).run backend st₁ = (.ok b,st₂) →
          (∃ st', (update c.id (q.atop p) later).run backend st = (.ok b,st') ∧ live st' = live st₂) ∧
          (p.Apart q → ∀ now' later', ∃ a' st₁' st₂',
            (update c.id q now').run backend st = (.ok a',st₁') ∧
            (update c.id p later').run backend st₁' = (.ok { b with updatedAt := later' },st₂') ∧
            live st₂' = (live st₂).place { b with updatedAt := later' }) := by
  refine ⟨fun p now refused => ?_,fun revisions => ?_,?_⟩
  · exact update_refused serves stored refused now
  · exact revise_revised serves revisions stored
  · intro good mirrors order
    refine ⟨fun p now accepted => ?_,fun p q now later a b st₁ st₂ first second => ⟨?_,fun apart now' later' => ?_⟩⟩
    · obtain ⟨c',patched⟩ := Connection.applyPatch_accepted accepted c now
      obtain ⟨st',taken,-⟩ := update_taken mirrors order stored patched
      exact ⟨c',st',taken⟩
    · exact updates_merge serves mirrors order stored first second
    · exact updates_commute serves mirrors order stored apart first second now' later'

end

def opening : Timestamp := ⟨1700000200,by decide⟩

def desk : Connection where
  id := .first
  name := "desk"
  kind := .ollama
  baseUrl := "http://h"
  apiKey := "k"
  enabled := true
  label := none
  qualifier := some "d"
  tags := []
  modelIds := []
  headers := ∅
  authType := .bearer
  apiVersion := none
  azure := false
  extra := ∅
  createdAt := opening
  updatedAt := opening

def office : Contents := { Contents.empty with connections := .ofList [(desk.id,desk)],nextId := ⟨3,by decide⟩ }

def renamed : ConnectionPatch := { name := some "lamp",label := some "old" }
def relabelled : ConnectionPatch := { label := some "new",tags := some ["t"] }
def disabled : ConnectionPatch := { enabled := some false }
def blankAddress : ConnectionPatch := { baseUrl := some " ",apiKey := some "",enabled := some false }

-- Between two patches one is refused as a whole: the label is that of the last patch that sets it, and the other
-- attributes are where the first one or the start left them. Patches with nothing in common may change places.
theorem blank_address_between_patches :
    let second : Timestamp := ⟨1700000210,by decide⟩
    let third : Timestamp := ⟨1700000220,by decide⟩
    let fourth : Timestamp := ⟨1700000230,by decide⟩
    let revisions : List Revision := [⟨renamed,second⟩,⟨blankAddress,third⟩,⟨relabelled,fourth⟩]
    office.connections.get? desk.id = some desk ∧
    (∃ cause, (update desk.id blankAddress second).run memory office = (.error (.invalid cause),office)) ∧
    (∃ c', (revise memory desk.id revisions office).2 = office.place c' ∧
      c'.name = "lamp" ∧ c'.label = some "new" ∧ c'.qualifier = some "d" ∧ c'.apiKey = "k" ∧ c'.enabled = true ∧
      c'.createdAt = desk.createdAt ∧ c'.updatedAt = fourth) ∧
    (∃ b st', (update desk.id (relabelled.atop renamed) fourth).run memory office = (.ok b,st') ∧
      st' = (revise memory desk.id revisions office).2) ∧
    ∃ b st' st'', (update desk.id disabled second).run memory office = (.ok b,st') ∧
      (update desk.id renamed third).run memory st' =
        (.ok { desk with name := "lamp",label := some "old",enabled := false,updatedAt := third },st'') := by
  intro second third fourth revisions
  have stored : office.connections.get? desk.id = some desk := by decide +kernel
  obtain ⟨refused,sequence,pairs⟩ := patches_compose memory_serves office stored
  have blank : blankAddress.Refused := ⟨" ",rfl,.inl (by decide +kernel)⟩
  have made : succeeded (revise memory desk.id revisions office).1 = [⟨renamed,second⟩,⟨relabelled,fourth⟩] := rfl
  have apart : renamed.Apart disabled := fun a => by cases a <;> first | exact .inl rfl | exact .inr rfl
  obtain ⟨-,pairs⟩ := pairs (fun _ => True) memory_mirrors trivial
  have pair := pairs renamed
  obtain ⟨cause,failed,-⟩ := refused blankAddress second blank
  obtain ⟨c',revised,left⟩ := sequence revisions
  obtain ⟨⟨st',merged,same⟩,-⟩ := pair relabelled second fourth _ _ _ _ rfl rfl
  obtain ⟨-,swapped⟩ := pair disabled second third _ _ _ _ rfl rfl
  obtain ⟨b,st₁,st₂,first,behind,-⟩ := swapped apart second third
  rw [made] at revised
  exact ⟨stored,⟨cause,failed⟩,⟨c',left,revised.value .name,revised.value .label,revised.value .qualifier,
    revised.value .apiKey,revised.value .enabled,revised.created,revised.updated⟩,⟨_,st',merged,same⟩,
    ⟨b,st₁,st₂,first,behind⟩⟩

end Registry.Connections
end ModelCatalog
