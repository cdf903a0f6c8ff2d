import ModelCatalog.Proofs.Store.Commit
import ModelCatalog.Proofs.Store.RoundTrip

namespace ModelCatalog.Store
open Ordered Files

def failed : Except StoreError α → Bool
  | .error .io => true
  | _ => false

theorem failed_iff {answer : Except StoreError α} : failed answer = true ↔ answer = .error .io := by
  unfold failed
  split
  · exact ⟨fun _ => rfl,fun _ => rfl⟩
  · next other => exact ⟨fun no => Bool.noConfusion no,fun io => (other io).elim⟩

theorem memory_not_failed (call : Call) (s : Contents) : failed (memory call s).1 = false := by
  rw [Bool.eq_false_iff]
  intro io
  unfold memory at io
  cases answered : s.answer call with
  | ok both =>
    rw [answered] at io
    cases failed_iff.mp io
  | error e =>
    rw [answered] at io
    cases failed_iff.mp io
    exact s.answer_no_io call answered

theorem memory_unfailed (calls : List Call) (s : Contents) :
    ∀ a ∈ (transcript memory calls s).1, failed a.2 = false := by
  induction calls generalizing s with
  | nil => exact fun a member => (List.not_mem_nil member).elim
  | cons call rest ih =>
    intro a member
    rcases List.mem_cons.mp member with rfl | member
    · exact memory_not_failed call s
    · exact ih _ a member

def unfailed (answers : List Answered) : List Answered := answers.filter fun a => !failed a.2

namespace DocumentStore

-- One call: where its commit fails nothing happens to the live contents, and otherwise the document store
-- answers as contents in memory do, and moves on to theirs.
theorem answer_refines (failure : Option CommitFailure) (call : Call) (s : DocumentStore) (d : Disk) :
    if failed (answer failure call (s,d)).1 then (answer failure call (s,d)).2.1 = s
    else memory call s.live = ((answer failure call (s,d)).1,(answer failure call (s,d)).2.1.live) := by
  have settles := answer_settles failure call s d
  cases answered : (answer failure call (s,d)).1 with
  | ok a =>
    obtain ⟨next,found,moved,-⟩ := settles.granted a answered
    simp [failed,memory,found,moved]
  | error e =>
    obtain ⟨same,-,refused⟩ := settles.refused e answered
    split
    · exact same
    · next other =>
      have found := refused fun io => other (failed_iff.mpr (congrArg Except.error io))
      simp [memory,found,same]

theorem run_refines (calls : List Call) (failures : List (Option CommitFailure)) (s : DocumentStore) (d : Disk) :
    transcript memory ((unfailed (transcript failing calls (failures,s,d)).1).map (·.1)) s.live =
      (unfailed (transcript failing calls (failures,s,d)).1,(transcript failing calls (failures,s,d)).2.2.1.live) := by
  induction calls generalizing failures s d with
  | nil => rfl
  | cons call rest ih =>
    have one := answer_refines failures.head?.join call s d
    cases done : answer failures.head?.join call (s,d) with
    | mk a after =>
      obtain ⟨s',d'⟩ := after
      rw [done] at one
      have others := ih failures.tail s' d'
      split at one
      · next io =>
        cases one
        simpa [transcript,failing,done,unfailed,io] using others
      · next fine =>
        simp only [unfailed] at others
        simp [transcript,failing,done,unfailed,fine,one,others]

theorem unfailed_run {calls : List Call} {backend : Backend σ} {s : σ}
    (none : ∀ a ∈ (transcript backend calls s).1, failed a.2 = false) :
    unfailed (transcript backend calls s).1 = (transcript backend calls s).1 :=
  List.filter_eq_self.mpr fun a member => by rw [none a member]; rfl

theorem transcript_calls (backend : Backend σ) (calls : List Call) (s : σ) :
    (transcript backend calls s).1.map (·.1) = calls := by
  induction calls generalizing s with
  | nil => rfl
  | cons call rest ih => simp [transcript,ih]

theorem run_refines_unfailed {calls : List Call} {failures : List (Option CommitFailure)} {s : DocumentStore} {d : Disk}
    (none : ∀ a ∈ (transcript failing calls (failures,s,d)).1, failed a.2 = false) :
    transcript memory calls s.live =
      ((transcript failing calls (failures,s,d)).1,(transcript failing calls (failures,s,d)).2.2.1.live) := by
  have all := run_refines calls failures s d
  rwa [unfailed_run none,transcript_calls] at all

theorem reliable_unfailed {s : DocumentStore} {d : Disk} (call : Call) (writable : Writable s.path d) :
    failed (reliable call (s,d)).1 = false ∧ Writable s.path (reliable call (s,d)).2.2 := by
  unfold reliable answer
  dsimp only
  cases answered : s.live.answer call with
  | error e =>
    refine ⟨Bool.eq_false_iff.mpr fun io => ?_,writable⟩
    cases failed_iff.mp io
    exact s.live.answer_no_io call answered
  | ok both =>
    obtain ⟨a,next⟩ := both
    obtain ⟨d',done,writable'⟩ := commit_succeeds writable (encode next)
    dsimp only
    rw [done]
    split
    · exact ⟨rfl,writable'⟩
    · exact ⟨rfl,writable⟩

theorem transcript_reliable (calls : List Call) (st : DocumentStore × Disk) :
    transcript failing calls ([],st) = ((transcript reliable calls st).1,[],(transcript reliable calls st).2) := by
  induction calls generalizing st with
  | nil => rfl
  | cons call rest ih =>
    obtain ⟨s,d⟩ := st
    rw [transcript,failing_nil]
    simp [transcript,ih]

theorem run_unfailed (calls : List Call) {s : DocumentStore} {d : Disk} (writable : Writable s.path d) :
    ∀ a ∈ (transcript failing calls ([],s,d)).1, failed a.2 = false := by
  induction calls generalizing s d with
  | nil => exact fun a member => (List.not_mem_nil member).elim
  | cons call rest ih =>
    obtain ⟨fine,writable'⟩ := reliable_unfailed call writable
    have path : (reliable call (s,d)).2.1.path = s.path := answer_path none call s d
    intro a member
    rw [transcript,failing_nil] at member
    rcases List.mem_cons.mp member with rfl | member
    · exact fine
    · exact ih (path ▸ writable') a member

def Holds (path : Path) (d : Disk) (s : Contents) : Prop :=
  (∃ bytes, d.readBytes path = .ok bytes ∧ decodeBytes bytes = .ok s) ∨ d.readBytes path = .error .missing ∧ s = .empty

theorem openAt_holds {path : Path} {d : Disk} :
    openAt path d = .ok store ↔ Holds path d store.live ∧ store.path = path := by
  obtain ⟨path',live⟩ := store
  unfold openAt Holds
  cases held : d.readBytes path with
  | ok bytes =>
    cases decoded : decodeBytes bytes with
    | ok s =>
      simp [Except.map,decoded,eq_comm,and_comm]
    | error e => simp [Except.map,decoded]
  | error e => cases e <;> simp [eq_comm,and_comm]

-- A store opened on a document answers every run of calls as contents in memory do that start from what the
-- document holds, and ends with the same contents; calls whose commits fail are as if they were left out.
-- In memory nothing fails that way, and on a disk that takes every write no commit does.
theorem document_refines_memory {path : Path} {d : Disk} {s : Contents} (held : Holds path d s) :
    openAt path d = .ok ⟨path,s⟩ ∧ ∀ calls : List Call,
      (∀ a ∈ (transcript memory calls s).1, failed a.2 = false) ∧
      (∀ failures,
        let (answers,_,store,_) := transcript failing calls (failures,⟨path,s⟩,d)
        transcript memory ((unfailed answers).map (·.1)) s = (unfailed answers,store.live) ∧
          ((∀ a ∈ answers, failed a.2 = false) → transcript memory calls s = (answers,store.live))) ∧
      (Writable path d →
        let (answers,store,_) := transcript reliable calls (⟨path,s⟩,d)
        transcript memory calls s = (answers,store.live)) := by
  refine ⟨openAt_holds.mpr ⟨held,rfl⟩,fun calls => ⟨memory_unfailed calls s,fun failures => ?_,fun writable => ?_⟩⟩
  · exact ⟨run_refines calls failures ⟨path,s⟩ d,run_refines_unfailed⟩
  · have same := run_refines_unfailed (run_unfailed calls (s := ⟨path,s⟩) writable)
    rwa [transcript_reliable] at same

-- The first deletion cannot write; left out, the rest is what happens in memory.
theorem failed_deletion_left_out :
    let d : Disk := ⟨.ofList [(["s.json"],.file listing.toUTF8)]⟩
    let (answers,_,store,_) := transcript failing [.deleteModel "a",.listModels,.deleteModel "a"]
      ([some .makeDirs],⟨["s.json"],listedContents⟩,d)
    Holds ["s.json"] d listedContents ∧
      transcript memory ((unfailed answers).map (·.1)) listedContents = (unfailed answers,store.live) := by
  have held : Holds ["s.json"] ⟨.ofList [(["s.json"],.file listing.toUTF8)]⟩ listedContents :=
    .inl ⟨listing.toUTF8,rfl,(decodeBytes_toUTF8 listing).trans decode_listing⟩
  exact ⟨held,(((document_refines_memory held).2 [.deleteModel "a",.listModels,.deleteModel "a"]).2.1 [some .makeDirs]).1⟩

end DocumentStore
end ModelCatalog.Store
