import Mathlib.Logic.Relation
import ModelCatalog.Proofs.Store.Refinement

namespace ModelCatalog.Store
open Files DocumentStore

-- How far a mutation has come that has the lock. It is done on a copy, whose document is written beside the old one
-- and moved into its place; then the copy is shown to the readers. A settled one has still to give the lock back.
inductive Phase (call : Call) where
  | locked
  | staged (copy : Contents)
  | applied (a : call.Answer) (next : Contents)
  | prepared (a : call.Answer) (next : Contents)
  | beside (a : call.Answer) (next : Contents)
  | replaced (a : call.Answer) (next : Contents)
  | settled (answer : Except StoreError call.Answer)

namespace Phase
-- One step on. A commit can fail at each of its steps: with some of the directories made, with anything in the file
-- beside the document, and with all of the new document there.
inductive Step {call : Call} : Phase call × DocumentStore × Disk → Phase call × DocumentStore × Disk → Prop where
  | stage : Step (.locked,s,d) (.staged s.live,s,d)
  | refuse (refused : copy.answer call = .error e) : Step (.staged copy,s,d) (.settled (.error e),s,d)
  | pass (answered : copy.answer call = .ok (a,next)) (silent : call.writes a = false) :
      Step (.staged copy,s,d) (.settled (.ok a),s,d)
  | apply (answered : copy.answer call = .ok (a,next)) (writes : call.writes a = true) :
      Step (.staged copy,s,d) (.applied a next,s,d)
  | prepare (made : d.makeDirs s.path.dropLast = some d') : Step (.applied a next,s,d) (.prepared a next,s,d')
  | unprepared (n : Nat) (made : ((Disk.way s.path.dropLast).take n).foldlM Disk.makeDir d = some d') :
      Step (.applied a next,s,d) (.settled (.error .io),s,d')
  | write (written : d.write (temporary s.path) (encode next) = some d') :
      Step (.prepared a next,s,d) (.beside a next,s,d')
  | unwritten : Step (.prepared a next,s,d) (.settled (.error .io),s,d)
  | torn (left : ByteArray) (written : d.writeBytes (temporary s.path) left = some d') :
      Step (.prepared a next,s,d) (.settled (.error .io),s,d')
  | rename (moved : d.rename (temporary s.path) s.path = some d') : Step (.beside a next,s,d) (.replaced a next,s,d')
  | unmoved : Step (.beside a next,s,d) (.settled (.error .io),s,d)
  | publish : Step (.replaced a next,s,d) (.settled (.ok a),{ s with live := next },d)

section
variable {call : Call} {phase phase' : Phase call} {base : Contents} {s s' : DocumentStore} {d d' : Disk}

-- Uninterrupted, these are the ways in which a document store answers a mutation, whatever fails.
theorem commit_steps (failure : Option CommitFailure) (a : call.Answer) (next : Contents) (s : DocumentStore)
    (d : Disk) :
    Relation.ReflTransGen Step (.applied a next,s,d)
      (if (commit failure s.path (encode next) d).1 then
        (.settled (.ok a),{ s with live := next },(commit failure s.path (encode next) d).2)
      else (.settled (.error .io),s,(commit failure s.path (encode next) d).2)) := by
  have commits := commit_cases failure s.path (encode next) d
  generalize commit failure s.path (encode next) d = outcome at commits ⊢
  cases commits with
  | unmade => exact .single (.unprepared 0 rfl)
  | unwritten made => exact .head (.prepare made) (.single .unwritten)
  | torn made left written => exact .head (.prepare made) (.single (.torn left written))
  | unmoved made written => exact .head (.prepare made) (.head (.write written) (.single .unmoved))
  | moved made written moved =>
    exact .head (.prepare made) (.head (.write written) (.head (.rename moved) (.single .publish)))

theorem answer_steps (failure : Option CommitFailure) (call : Call) (s : DocumentStore) (d : Disk) :
    Relation.ReflTransGen Step (.locked,s,d)
      (.settled (answer failure call (s,d)).1,(answer failure call (s,d)).2) := by
  refine .head .stage ?_
  unfold answer
  dsimp only
  cases answered : s.live.answer call with
  | error e => exact .single (.refuse answered)
  | ok both =>
    obtain ⟨a,next⟩ := both
    simp only
    by_cases writes : call.writes a = true
    · rw [if_pos writes]
      refine .head (.apply answered writes) ?_
      have committed := commit_steps failure a next s d
      cases done : commit failure s.path (encode next) d with
      | mk success d' =>
        rw [done] at committed
        cases success with
        | true => exact committed
        | false => exact committed
    · rw [if_neg writes]
      exact .single (.pass answered (Bool.eq_false_iff.mpr writes))

def placed : Phase call → Option Contents
  | .replaced _ next => some next
  | _ => none

-- What holds in a phase, where the lock was taken at some live contents. They stay until the mutation is shown, which
-- is what they answer in memory, and before that their document stands beside the old one and in its place.
def Follows (base : Contents) : Phase call → DocumentStore → Disk → Prop
  | .locked,s,_ => s.live = base
  | .staged copy,s,_ => s.live = base ∧ copy = base
  | .applied a next,s,_ => s.live = base ∧ base.answer call = .ok (a,next)
  | .prepared a next,s,_ => s.live = base ∧ base.answer call = .ok (a,next)
  | .beside a next,s,d => s.live = base ∧ base.answer call = .ok (a,next) ∧
      d.item? (temporary s.path) = some (.file (encode next).toUTF8)
  | .replaced a next,s,d => s.live = base ∧ base.answer call = .ok (a,next) ∧ d.readBytes s.path = .ok (encode next).toUTF8
  | .settled answer,s,_ => if failed answer then s.live = base else memory call base = (answer,s.live)

theorem Follows.placed (follows : phase.Follows base s d) (placed : phase.placed = some next) :
    d.readBytes s.path = .ok (encode next).toUTF8 := by
  cases phase with
  | replaced a other =>
    cases placed
    exact follows.2.2
  | _ => cases placed

theorem follows_settled {answer : Except StoreError call.Answer} (fine : failed answer = false)
    (same : memory call base = (answer,s.live)) : (settled answer).Follows base s d := by
  rw [Follows,fine]
  exact same

theorem Step.follows (step : Step (phase,s,d) (phase',s',d')) (follows : phase.Follows base s d) :
    phase'.Follows base s' d' := by
  cases step with
  | stage => exact ⟨follows,follows⟩
  | refuse refused =>
    obtain ⟨live,rfl⟩ := follows
    refine follows_settled (Bool.eq_false_iff.mpr fun io => ?_) ?_
    · cases failed_iff.mp io
      exact Contents.answer_no_io _ call refused
    · rw [memory,refused,live]
  | pass answered silent =>
    obtain ⟨live,rfl⟩ := follows
    refine follows_settled rfl ?_
    rw [memory,answered,live,Contents.answer_unwritten answered silent]
  | apply answered writes =>
    obtain ⟨live,rfl⟩ := follows
    exact ⟨live,answered⟩
  | prepare made => exact follows
  | unprepared n made => exact follows.1
  | write written =>
    obtain ⟨live,answered⟩ := follows
    refine ⟨live,answered,?_⟩
    rw [(Disk.write_item written).2,if_pos rfl]
  | unwritten => exact follows.1
  | torn left written => exact follows.1
  | rename moved =>
    obtain ⟨live,answered,held⟩ := follows
    obtain ⟨bytes,there,placed⟩ := Disk.rename_item moved
    cases held.symm.trans there
    exact ⟨live,answered,Disk.readBytes_write placed⟩
  | unmoved => exact follows.1
  | publish =>
    obtain ⟨live,answered,-⟩ := follows
    refine follows_settled rfl ?_
    rw [memory,answered]

theorem Step.path (step : Step (phase,s,d) (phase',s',d')) : s'.path = s.path := by
  cases step <;> rfl

theorem Step.live (step : Step (phase,s,d) (phase',s',d')) : s'.live = s.live ∨ ∃ a, phase = .replaced a s'.live := by
  cases step with
  | publish => exact .inr ⟨_,rfl⟩
  | _ => exact .inl rfl

theorem continues (phase : Phase call) (s : DocumentStore) (d : Disk) :
    (∃ next, Step (phase,s,d) next) ∨ ∃ answer, phase = .settled answer := by
  cases phase with
  | locked => exact .inl ⟨_,.stage⟩
  | staged copy =>
    cases answered : copy.answer call with
    | error e => exact .inl ⟨_,.refuse answered⟩
    | ok both =>
      obtain ⟨a,next⟩ := both
      cases writes : call.writes a with
      | false => exact .inl ⟨_,.pass answered writes⟩
      | true => exact .inl ⟨_,.apply answered writes⟩
  | applied a next => exact .inl ⟨_,.unprepared 0 rfl⟩
  | prepared a next => exact .inl ⟨_,.unwritten⟩
  | beside a next => exact .inl ⟨_,.unmoved⟩
  | replaced a next => exact .inl ⟨_,.publish⟩
  | settled answer => exact .inr ⟨answer,rfl⟩

def left : Phase call → Nat
  | .locked => 7
  | .staged _ => 6
  | .applied _ _ => 5
  | .prepared _ _ => 4
  | .beside _ _ => 3
  | .replaced _ _ => 2
  | .settled _ => 1

theorem Step.left_lt (step : Step (phase,s,d) (phase',s',d')) : phase'.left < phase.left := by
  cases step <;> simp only [left] <;> omega

end
end Phase

end ModelCatalog.Store
