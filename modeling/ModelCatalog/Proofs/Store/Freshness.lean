import ModelCatalog.Proofs.Store.Session

namespace ModelCatalog.Store
open Ordered Json

def handed : Answered → Option ConnectionId
  | ⟨.insertConnection _,.ok c⟩ => some c.id
  | _ => none

def handedOut (answers : List Answered) : List ConnectionId := answers.filterMap handed

namespace Contents
variable {s next : Contents}

theorem answer_next (tidy : s.Tidy) {call : Call} {a : call.Answer} (answered : s.answer call = .ok (a,next)) :
    s.nextId.value ≤ next.nextId.value ∧
      ∀ id, handed ⟨call,.ok a⟩ = some id → s.nextId.value ≤ id.value ∧ id.value < next.nextId.value := by
  cases call with
  | insertConnection c =>
    obtain ⟨rfl,step,-⟩ := tidy.inserted answered
    refine ⟨by omega,fun id given => ?_⟩
    cases given
    exact ⟨Int.le_refl _,by simp only; omega⟩
  | insertModel r | updateModel r | updateConnection c =>
    simp only [answer] at answered
    split at answered <;> cases answered
    exact ⟨Int.le_refl _,fun _ none => by cases none⟩
  | _ =>
    cases answered
    exact ⟨Int.le_refl _,fun _ none => by cases none⟩

end Contents

namespace Session
variable {k : Session σ} {inv : σ → Prop} {s : σ}

theorem Keeps.call_next (keeps : k.Keeps inv) (call : Call) (start : inv s) :
    (k.live s).nextId.value ≤ (k.live (k.backend call s).2).nextId.value ∧
      ∀ id, handed ⟨call,(k.backend call s).1⟩ = some id → (k.live s).nextId.value ≤ id.value ∧
        id.value < (k.live (k.backend call s).2).nextId.value := by
  cases answered : (k.backend call s).1 with
  | ok a => exact Contents.answer_next (keeps.tidy start) (keeps.serves.granted answered)
  | error e =>
    rw [keeps.serves.refused answered]
    exact ⟨Int.le_refl _,fun id none => by cases call <;> cases none⟩

theorem Keeps.counter_le (keeps : k.Keeps inv) (events : List Event) (start : inv s) :
    (k.live s).nextId.value ≤ (k.live (k.run events s).2).nextId.value := by
  induction events generalizing s with
  | nil => exact Int.le_refl _
  | cons event rest ih =>
    cases event with
    | call call => exact Int.le_trans (keeps.call_next call start).1 (ih (keeps.called call start))
    | reopen => exact Int.le_trans (keeps.counted start) (ih (keeps.reopened start))

-- The ids that a run hands out lie between the counter before and the counter behind it, and ascend.
theorem Keeps.handed_between (keeps : k.Keeps inv) (events : List Event) (start : inv s) :
    (handedOut (k.run events s).1).Pairwise (fun a b => a.value < b.value) ∧
      ∀ id ∈ handedOut (k.run events s).1, (k.live s).nextId.value ≤ id.value ∧
        id.value < (k.live (k.run events s).2).nextId.value := by
  -- Induction on the events; the bounds of the rest are those of the state behind the first one.
  induction events generalizing s with
  | nil => exact ⟨.nil,fun _ member => (List.not_mem_nil member).elim⟩
  | cons event rest ih =>
    cases event with
    | reopen =>
      obtain ⟨ascending,between⟩ := ih (keeps.reopened start)
      refine ⟨ascending,fun id member => ?_⟩
      have bounds := between id member
      exact ⟨Int.le_trans (keeps.counted start) bounds.1,bounds.2⟩
    | call call =>
      have behind := keeps.called call start
      obtain ⟨ascending,between⟩ := ih behind
      obtain ⟨least,above⟩ := keeps.call_next call start
      have climb := keeps.counter_le rest behind
      have later : ∀ id ∈ handedOut (k.run rest (k.backend call s).2).1, (k.live s).nextId.value ≤ id.value ∧
          id.value < (k.live (k.run rest (k.backend call s).2).2).nextId.value := fun id member =>
        ⟨Int.le_trans least (between id member).1,(between id member).2⟩
      rw [Session.run,handedOut,List.filterMap_cons]
      cases given : handed ⟨call,(k.backend call s).1⟩ with
      | none => exact ⟨ascending,later⟩
      | some id =>
        have bounds := above id given
        refine ⟨List.pairwise_cons.mpr ⟨fun other member => ?_,ascending⟩,fun other member => ?_⟩
        · exact Int.lt_of_lt_of_le bounds.2 (between other member).1
        · rcases List.mem_cons.mp member with rfl | member
          · exact ⟨bounds.1,Int.lt_of_lt_of_le bounds.2 climb⟩
          · exact later other member

theorem Keeps.stored_below (keeps : k.Keeps inv) (before after : List Event) (start : inv s) :
    ∀ entry ∈ (k.live (k.run before s).2).connections.entries,
      entry.1.value < (k.live (k.run (before ++ after) s).2).nextId.value := by
  have middle := keeps.run before start
  have climb := keeps.counter_le after middle
  rw [run_append]
  intro entry member
  exact Int.lt_of_lt_of_le ((keeps.tidy middle).next_above entry member) climb

-- What holds along every run of a session: records stand under their own ids and are listed in their order, and a new
-- connection's id lies above every id that was stored or handed out before, whatever became of it, so that nothing is
-- overwritten.
structure Orderly (k : Session σ) (start : σ) : Prop where
  keyed : ∀ events, let live := k.live (k.run events start).2
    (∀ entry ∈ live.models.entries, entry.2.id = entry.1) ∧ ∀ entry ∈ live.connections.entries, entry.2.id = entry.1
  below : ∀ events, let live := k.live (k.run events start).2
    ∀ entry ∈ live.connections.entries, entry.1.value < live.nextId.value
  climbing : ∀ before after,
    (k.live (k.run before start).2).nextId.value ≤ (k.live (k.run (before ++ after) start).2).nextId.value
  listed : ∀ events, let last := (k.run events start).2
    (k.backend .listModels last).1 = .ok (k.live last).models.values ∧
      (k.live last).models.values.Pairwise (fun a b => a.id < b.id) ∧
      (k.backend .listConnections last).1 = .ok (k.live last).connections.values ∧
      (k.live last).connections.values.Pairwise (fun a b => a.id.value < b.id.value)
  ascending : ∀ events, (handedOut (k.run events start).1).Pairwise fun a b => a.value < b.value
  fresh : ∀ events connection stored, let last := (k.run events start).2
    (k.backend (.insertConnection connection) last).1 = .ok stored →
      (∀ before after, before ++ after = events → ∀ entry ∈ (k.live (k.run before start).2).connections.entries,
        entry.1.value < stored.id.value) ∧
      (∀ id ∈ handedOut (k.run events start).1, id.value < stored.id.value) ∧
      (k.live last).connections.get? stored.id = none ∧
      (k.live (k.backend (.insertConnection connection) last).2).connections =
        (k.live last).connections.insert stored.id { connection with id := stored.id }

theorem Keeps.orderly (keeps : k.Keeps inv) (start : inv s) : k.Orderly s where
  keyed events := ⟨(keeps.tidy (keeps.run events start)).models_keyed,(keeps.tidy (keeps.run events start)).connections_keyed⟩
  below events := (keeps.tidy (keeps.run events start)).next_above
  climbing before after := by
    rw [run_append]
    exact keeps.counter_le after (keeps.run before start)
  listed events := by
    intro last
    have tidy := keeps.tidy (keeps.run events start)
    exact ⟨(keeps.serves.read rfl rfl).1,Contents.models_ascending tidy,(keeps.serves.read rfl rfl).1,
      Contents.connections_ascending tidy⟩
  ascending events := (keeps.handed_between events start).1
  fresh events connection stored := by
    intro last answered
    have tidy : (k.live last).Tidy := keeps.tidy (keeps.run events start)
    obtain ⟨rfl,-,after⟩ := tidy.inserted (keeps.serves.granted answered)
    refine ⟨?_,fun id member => ((keeps.handed_between events start).2 id member).2,?_,by rw [after]⟩
    · rintro before rest rfl
      exact keeps.stored_below before rest start
    · refine Entries.find?_eq_none.mpr fun entry member same => ?_
      have below := tidy.next_above entry member
      rw [same] at below
      exact Int.lt_irrefl _ below

end Session

open DocumentStore

-- So does every session on contents in memory or on a document, whatever fails on its disk: those that begin
-- empty, and those that begin with what some document decodes to, however its ids and its counter were set.
theorem sessions_orderly :
    inMemory.Orderly .empty ∧
    (∀ bytes s, decodeBytes bytes = .ok s → inMemory.Orderly s) ∧
    ∀ failures path d store, openAt path d = .ok store → onDocument.Orderly (failures,store,d) :=
  ⟨inMemory_keeps.orderly Contents.empty_tidy,fun _ _ decoded => inMemory_keeps.orderly (decoded_tidy decoded),
    fun _ _ _ _ opened => onDocument_keeps.orderly (opened_reopenable opened)⟩

-- The first insertion cannot write, and the second one hands out the first id, which is then deleted.
def unwritten : Scheduled := ([some .rename],⟨["s.json"],.empty⟩,.empty)

def reopening : List Event :=
  [.call (.insertConnection listedConnection),.call (.insertConnection listedConnection),
    .call (.deleteConnection .first),.reopen]

def second : Connection := { listedConnection with id := ⟨2,by decide⟩ }

-- The connection that is inserted once the document was opened anew does not get the deleted one's id.
theorem deleted_id_stays_unused :
    openAt ["s.json"] .empty = .ok ⟨["s.json"],.empty⟩ ∧
    handedOut (onDocument.run reopening unwritten).1 = [.first] ∧
    (onDocument.live (onDocument.run reopening unwritten).2).connections.keys = [] ∧
    (onDocument.backend (.insertConnection listedConnection) (onDocument.run reopening unwritten).2).1 = .ok second ∧
    ∀ id ∈ handedOut (onDocument.run reopening unwritten).1, id.value < second.id.value := by
  have opened : openAt ["s.json"] .empty = .ok ⟨["s.json"],.empty⟩ := rfl
  have given : handedOut (onDocument.run reopening unwritten).1 = [.first] := by decide +kernel
  have left : (onDocument.live (onDocument.run reopening unwritten).2).connections.keys = [] := by decide +kernel
  have inserted : (onDocument.backend (.insertConnection listedConnection)
      (onDocument.run reopening unwritten).2).1.toOption = some second := by decide +kernel
  have answered := ok_of_toOption inserted
  have orderly : onDocument.Orderly unwritten := sessions_orderly.2.2 _ _ _ _ opened
  obtain ⟨-,above,-⟩ := orderly.fresh reopening listedConnection second answered
  exact ⟨opened,given,left,answered,above⟩

end ModelCatalog.Store
