import ModelCatalog.Proofs.Store.Consistent
import ModelCatalog.Proofs.Store.Refinement

namespace ModelCatalog.Store
open Files

-- A store that holds some contents and may refuse any call: it answers a call as they do and holds what they become,
-- or it refuses the call and holds the same.
structure Atomic (live : σ → Contents) (backend : Backend σ) : Prop where
  granted : ∀ {call s a}, (backend call s).1 = .ok a → (live s).answer call = .ok (a,live (backend call s).2)
  refused : ∀ {call s e}, (backend call s).1 = .error e → live (backend call s).2 = live s

-- A store that holds some contents: it answers a call as they do and holds what they become, or it refuses the
-- call and holds the same. Reading is never refused.
structure Serves (live : σ → Contents) (backend : Backend σ) : Prop where
  granted : ∀ {call s a}, (backend call s).1 = .ok a → (live s).answer call = .ok (a,live (backend call s).2)
  refused : ∀ {call s e}, (backend call s).1 = .error e → live (backend call s).2 = live s
  reads : ∀ {call} s, call.isRead = true → ∃ a, (backend call s).1 = .ok a

namespace Contents

theorem answer_reads {call : Call} (s : Contents) (reading : call.isRead = true) :
    ∃ a, s.answer call = .ok (a,s) ∧ call.writes a = false := by
  cases call with
  | getModel id => exact ⟨_,rfl,rfl⟩
  | listModels => exact ⟨_,rfl,rfl⟩
  | getConnection id => exact ⟨_,rfl,rfl⟩
  | listConnections => exact ⟨_,rfl,rfl⟩
  | _ => cases reading

end Contents

section
variable {live : σ → Contents} {backend : Backend σ} {s : σ}

theorem Serves.atomic (serves : Serves live backend) : Atomic live backend := ⟨serves.granted,serves.refused⟩

theorem Serves.read (serves : Serves live backend) {call : Call} {a : call.Answer} (reading : call.isRead = true)
    (found : (live s).answer call = .ok (a,next)) : (backend call s).1 = .ok a ∧ live (backend call s).2 = next := by
  obtain ⟨b,answered⟩ := serves.reads s reading
  have same := (serves.granted answered).symm.trans found
  cases same
  exact ⟨answered,rfl⟩

theorem Serves.tidy (serves : Serves live backend) (call : Call) (tidy : (live s).Tidy) :
    (live (backend call s).2).Tidy := by
  cases answered : (backend call s).1 with
  | ok a => exact Contents.answer_tidy tidy (serves.granted answered)
  | error e =>
    rw [serves.refused answered]
    exact tidy

end

theorem memory_serves : Serves id memory where
  granted {call s a} answered := by
    unfold memory at answered ⊢
    cases found : s.answer call with
    | ok both =>
      rw [found] at answered
      cases answered
      exact found
    | error e =>
      rw [found] at answered
      cases answered
  refused {call s e} answered := by
    unfold memory at answered ⊢
    cases found : s.answer call with
    | ok both =>
      rw [found] at answered
      cases answered
    | error e => rfl
  reads {call} s reading := by
    obtain ⟨a,found,-⟩ := s.answer_reads reading
    exact ⟨a,by simp [memory,found]⟩

namespace DocumentStore

theorem answer_serves (failure : Option CommitFailure) :
    Serves (fun st : DocumentStore × Disk => st.1.live) (answer failure) where
  granted {call st a} answered := by
    obtain ⟨s,d⟩ := st
    obtain ⟨next,found,moved,-⟩ := (answer_settles failure call s d).granted a answered
    rw [moved]
    exact found
  refused {call st e} answered := by
    obtain ⟨s,d⟩ := st
    exact congrArg DocumentStore.live ((answer_settles failure call s d).refused e answered).1
  reads {call} st reading := by
    obtain ⟨s,d⟩ := st
    obtain ⟨a,found,silent⟩ := s.live.answer_reads reading
    exact ⟨a,by simp [answer,found,silent]⟩

def Scheduled.live (st : Scheduled) : Contents := st.2.1.live

theorem failing_serves : Serves Scheduled.live failing where
  granted {_ st _} answered := (answer_serves st.1.head?.join).granted (s := st.2) answered
  refused {_ st _} answered := (answer_serves st.1.head?.join).refused (s := st.2) answered
  reads st reading := (answer_serves st.1.head?.join).reads st.2 reading

end DocumentStore

inductive Event where
  | call (call : Call)
  | reopen

-- A store over some time: how it answers, what becomes of it when it is opened again, and what it holds.
structure Session (σ : Type) where
  live : σ → Contents
  backend : Backend σ
  reopen : σ → σ

namespace Session

def run (k : Session σ) : List Event → σ → List Answered × σ
  | [],s => ([],s)
  | .call call :: rest,s =>
    let (answer,s) := k.backend call s
    let (answers,s) := k.run rest s
    (⟨call,answer⟩ :: answers,s)
  | .reopen :: rest,s => k.run rest (k.reopen s)

theorem run_append (k : Session σ) (first second : List Event) (s : σ) :
    k.run (first ++ second) s =
      ((k.run first s).1 ++ (k.run second (k.run first s).2).1,(k.run second (k.run first s).2).2) := by
  induction first generalizing s with
  | nil => rfl
  | cons event rest ih => cases event <;> simp [run,ih]

-- What a session keeps: tidy contents, whose counter does not fall back when the store is opened again.
structure Keeps (k : Session σ) (inv : σ → Prop) : Prop where
  serves : Serves k.live k.backend
  tidy : ∀ {s}, inv s → (k.live s).Tidy
  called : ∀ {s} (call : Call), inv s → inv (k.backend call s).2
  reopened : ∀ {s}, inv s → inv (k.reopen s)
  counted : ∀ {s}, inv s → (k.live s).nextId.value ≤ (k.live (k.reopen s)).nextId.value

theorem Keeps.run {k : Session σ} {inv : σ → Prop} (keeps : k.Keeps inv) (events : List Event) {s : σ}
    (start : inv s) : inv (k.run events s).2 := by
  induction events generalizing s with
  | nil => exact start
  | cons event rest ih =>
    cases event with
    | call call => exact ih (keeps.called call start)
    | reopen => exact ih (keeps.reopened start)

end Session

def inMemory : Session Contents := ⟨id,memory,id⟩

theorem inMemory_keeps : inMemory.Keeps Contents.Tidy where
  serves := memory_serves
  tidy := id
  called call tidy := memory_serves.tidy call tidy
  reopened := id
  counted _ := Int.le_refl _

namespace DocumentStore

-- A store opened again has what its document holds. One whose document does not open stays as it is.
def reopened : Scheduled → Scheduled := fun (failures,s,d) =>
  match openAt s.path d with
  | .ok store => (failures,store,d)
  | .error _ => (failures,s,d)

def onDocument : Session Scheduled := ⟨Scheduled.live,failing,reopened⟩

structure Reopenable (s : DocumentStore) (d : Disk) : Prop where
  tidy : s.live.Tidy
  opens : ∀ store, openAt s.path d = .ok store → store.live.Tidy ∧ s.live.nextId.value ≤ store.live.nextId.value

variable {path : Path} {d d' : Disk} {s s' store : DocumentStore}

theorem openAt_tidy (opened : openAt path d = .ok store) : store.live.Tidy := by
  rcases (openAt_holds.mp opened).1 with ⟨bytes,-,decoded⟩ | ⟨-,empty⟩
  · exact decoded_tidy decoded
  · rw [empty]
    exact Contents.empty_tidy

theorem opened_reopenable (opened : openAt path d = .ok store) : Reopenable store d := by
  refine ⟨openAt_tidy opened,fun again found => ?_⟩
  rw [(openAt_holds.mp opened).2,opened] at found
  cases found
  exact ⟨openAt_tidy opened,Int.le_refl _⟩

theorem synced_reopenable (tidy : s.live.Tidy) (synced : s.Synced d) : Reopenable s d := by
  refine ⟨tidy,fun store opened => ⟨openAt_tidy opened,?_⟩⟩
  rcases (openAt_holds.mp opened).1 with ⟨bytes,held,decoded⟩ | ⟨missing,-⟩
  · rw [← Except.ok.inj (synced.symm.trans held),decodeBytes_toUTF8] at decoded
    exact decode_encode_next decoded
  · cases synced.symm.trans missing

theorem Reopenable.unchanged (start : Reopenable s d) (unmoved : s' = s)
    (same : d'.readBytes s.path = d.readBytes s.path) : Reopenable s' d' := by
  cases unmoved
  refine ⟨start.tidy,fun store opened => start.opens store ?_⟩
  rwa [openAt,same] at opened

theorem answer_reopenable (failure : Option CommitFailure) (call : Call) (start : Reopenable s d) :
    Reopenable (answer failure call (s,d)).2.1 (answer failure call (s,d)).2.2 := by
  rcases answer_document failure call s d with synced | ⟨unmoved,same⟩
  · exact synced_reopenable (failing_serves.tidy call (s := ([failure],s,d)) start.tidy) synced
  · exact start.unchanged unmoved same

theorem onDocument_keeps : onDocument.Keeps fun st => Reopenable st.2.1 st.2.2 where
  serves := failing_serves
  tidy start := start.tidy
  called call start := answer_reopenable _ call start
  reopened {st} start := by
    obtain ⟨failures,s,d⟩ := st
    change Reopenable (reopened (failures,s,d)).2.1 (reopened (failures,s,d)).2.2
    unfold reopened
    dsimp only
    split
    · next store opened => exact opened_reopenable opened
    · exact start
  counted {st} start := by
    obtain ⟨failures,s,d⟩ := st
    change s.live.nextId.value ≤ (reopened (failures,s,d)).live.nextId.value
    unfold reopened
    dsimp only
    split
    · next store opened => exact (start.opens store opened).2
    · exact Int.le_refl _

end DocumentStore
end ModelCatalog.Store
