import ModelCatalog.Proofs.Store.Contract
import ModelCatalog.Proofs.Store.Document

namespace ModelCatalog.Store
open Ordered

-- No record that a script writes holds an optional free value that is null, if none that it gets does.
def nullFree : Contract where
  admits
    | .insertModel r | .updateModel r | .upsertModel r => r.NullFree
    | _ => True
  grants
    | .getModel _,.ok (some r) => r.NullFree
    | .listModels,.ok records => ∀ r ∈ records, r.NullFree
    | _,_ => True

namespace Contents
variable {s next : Contents}

theorem empty_tidy : Contents.empty.Tidy :=
  ⟨fun _ member => (List.not_mem_nil member).elim,fun _ member => (List.not_mem_nil member).elim,
    by decide,fun _ member => (List.not_mem_nil member).elim⟩

theorem empty_wellFormed : Contents.empty.WellFormed :=
  ⟨empty_tidy,fun _ member => (List.not_mem_nil member).elim⟩

theorem models_ascending (tidy : s.Tidy) : s.models.values.Pairwise fun a b => a.id < b.id :=
  (Keyed.values_ascending tidy.models_keyed).imp compareOfLessAndEq_eq_lt.mp

theorem connections_ascending (tidy : s.Tidy) : s.connections.values.Pairwise fun a b => a.id.value < b.id.value :=
  (Keyed.values_ascending tidy.connections_keyed).imp fun {a b} less =>
    Std.compare_eq_lt.mp (less : compare a.id.value b.id.value = .lt)

theorem Tidy.insert_model (tidy : s.Tidy) (r : ModelRecord) :
    Tidy { s with models := s.models.insert r.id r } where
  models_keyed entry member := by
    rcases Keyed.mem_insert member with rfl | old
    · rfl
    · exact tidy.models_keyed entry old
  connections_keyed := tidy.connections_keyed
  next_first := tidy.next_first
  next_above := tidy.next_above

theorem Tidy.filter_models (tidy : s.Tidy) (keep : String × ModelRecord → Bool) :
    Tidy { s with models := s.models.filter keep } where
  models_keyed entry member := tidy.models_keyed entry (Keyed.mem_filter.mp member).1
  connections_keyed := tidy.connections_keyed
  next_first := tidy.next_first
  next_above := tidy.next_above

theorem Tidy.filter_connections (tidy : s.Tidy) (keep : ConnectionId × Connection → Bool) :
    Tidy { s with connections := s.connections.filter keep } where
  models_keyed := tidy.models_keyed
  connections_keyed entry member := tidy.connections_keyed entry (Keyed.mem_filter.mp member).1
  next_first := tidy.next_first
  next_above entry member := tidy.next_above entry (Keyed.mem_filter.mp member).1

theorem Tidy.insert_connection (tidy : s.Tidy) (c : Connection) (next : ConnectionId)
    (least : s.nextId.value ≤ next.value) (above : c.id.value < next.value) :
    Tidy { s with connections := s.connections.insert c.id c,nextId := next } where
  models_keyed := tidy.models_keyed
  connections_keyed entry member := by
    rcases Keyed.mem_insert member with rfl | old
    · rfl
    · exact tidy.connections_keyed entry old
  next_first := Int.le_trans tidy.next_first least
  next_above entry member := by
    rcases Keyed.mem_insert member with rfl | old
    · exact above
    · exact Int.lt_of_lt_of_le (tidy.next_above entry old) least

theorem Tidy.answer_insertConnection (tidy : s.Tidy) (c : Connection) :
    s.answer (.insertConnection c) = match succ? s.nextId with
      | none => .error .overflow
      | some nextId => .ok ({ c with id := s.nextId },
          { s with connections := s.connections.insert s.nextId { c with id := s.nextId },nextId }) := by
  have given : ¬ s.nextId = ConnectionId.unassigned := by
    intro unassigned
    have first := tidy.next_first
    rw [unassigned] at first
    exact absurd first (by decide)
  cases raised : succ? s.nextId with
  | none => simp [answer,given,raised]
  | some nextId => simp [answer,given,raised]

theorem Tidy.inserted (tidy : s.Tidy) {c : Connection} (answered : s.answer (.insertConnection c) = .ok (stored,next)) :
    stored = { c with id := s.nextId } ∧ next.nextId.value = s.nextId.value + 1 ∧
      next = { s with connections := s.connections.insert s.nextId stored,nextId := next.nextId } := by
  rw [tidy.answer_insertConnection] at answered
  split at answered
  · cases answered
  · next follows =>
    cases answered
    exact ⟨rfl,succ?_iff.mp follows,rfl⟩

theorem mem_of_contains [DecidableEq κ] [Ord κ] {m : Keyed κ β} {key : κ} (stored : m.contains key = true) :
    ∃ value, (key,value) ∈ m.entries := by
  obtain ⟨value,found⟩ := Option.isSome_iff_exists.mp stored
  exact ⟨value,Keyed.get?_mem found⟩

theorem answer_tidy (tidy : s.Tidy) {call : Call} {a : call.Answer} (answered : s.answer call = .ok (a,next)) :
    next.Tidy := by
  cases call with
  | getModel id => cases answered; exact tidy
  | listModels => cases answered; exact tidy
  | insertModel r =>
    simp only [answer] at answered
    split at answered
    · cases answered
    · cases answered
      exact tidy.insert_model r
  | updateModel r =>
    simp only [answer] at answered
    split at answered
    · cases answered
      exact tidy.insert_model r
    · cases answered
  | upsertModel r =>
    cases answered
    split
    · exact tidy.insert_model { r with createdAt := _ }
    · exact tidy.insert_model r
  | deleteModel id => cases answered; exact tidy.filter_models _
  | deleteAllModels =>
    cases answered
    exact ⟨fun _ member => (List.not_mem_nil member).elim,tidy.connections_keyed,tidy.next_first,tidy.next_above⟩
  | retainModels keep => cases answered; exact tidy.filter_models _
  | getConnection id => cases answered; exact tidy
  | listConnections => cases answered; exact tidy
  | insertConnection c =>
    obtain ⟨rfl,step,same⟩ := tidy.inserted answered
    rw [same]
    exact tidy.insert_connection { c with id := s.nextId } next.nextId (by omega) (by simp only; omega)
  | updateConnection c =>
    simp only [answer] at answered
    split at answered
    · next stored =>
      cases answered
      obtain ⟨old,member⟩ := mem_of_contains stored
      exact tidy.insert_connection c s.nextId (Int.le_refl _) (tidy.next_above _ member)
    · cases answered
  | deleteConnection id => cases answered; exact tidy.filter_connections _

theorem nullFree_insert (all : ∀ entry ∈ s.models.entries, entry.2.NullFree) {r : ModelRecord} (fine : r.NullFree) :
    ∀ entry ∈ (s.models.insert r.id r).entries, entry.2.NullFree := by
  intro entry member
  rcases Keyed.mem_insert member with rfl | old
  · exact fine
  · exact all entry old

theorem answer_nullFree (all : ∀ entry ∈ s.models.entries, entry.2.NullFree) {call : Call}
    (admitted : nullFree.admits call) {a : call.Answer} (answered : s.answer call = .ok (a,next)) :
    ∀ entry ∈ next.models.entries, entry.2.NullFree := by
  cases call with
  | insertModel r =>
    simp only [answer] at answered
    split at answered
    · cases answered
    · cases answered
      exact nullFree_insert all admitted
  | updateModel r =>
    simp only [answer] at answered
    split at answered
    · cases answered
      exact nullFree_insert all admitted
    · cases answered
  | upsertModel r =>
    cases answered
    split
    · exact nullFree_insert (r := { r with createdAt := _ }) all admitted
    · exact nullFree_insert all admitted
  | deleteModel id =>
    cases answered
    exact fun entry member => all entry (Keyed.mem_filter.mp member).1
  | deleteAllModels =>
    cases answered
    exact fun _ member => (List.not_mem_nil member).elim
  | retainModels keep =>
    cases answered
    exact fun entry member => all entry (Keyed.mem_filter.mp member).1
  | insertConnection c =>
    simp only [answer] at answered
    split at answered
    · cases answered
    · cases answered
      exact all
  | updateConnection c =>
    simp only [answer] at answered
    split at answered
    · cases answered
      exact all
    · cases answered
  | _ => cases answered; exact all

theorem answer_wellFormed (formed : s.WellFormed) {call : Call} (admitted : nullFree.admits call)
    {a : call.Answer} (answered : s.answer call = .ok (a,next)) : next.WellFormed :=
  ⟨answer_tidy formed.toTidy answered,answer_nullFree formed.null_free admitted answered⟩

theorem answer_granted (formed : s.WellFormed) {call : Call} {a : call.Answer}
    (answered : s.answer call = .ok (a,next)) : nullFree.grants call (.ok a) := by
  cases call with
  | getModel id =>
    cases answered
    cases found : s.models.get? id with
    | none => trivial
    | some r => exact formed.null_free _ (Keyed.get?_mem found)
  | listModels =>
    cases answered
    intro r member
    obtain ⟨key,found⟩ := Keyed.mem_values.mp member
    exact formed.null_free _ found
  | _ => trivial

end Contents
end ModelCatalog.Store
