import ModelCatalog.Proofs.Registry.Operation
import ModelCatalog.Proofs.Store.Commit

namespace ModelCatalog.Registry
open Ordered Files Json Store DocumentStore

-- What a store on a document keeps from the beginning on: well-formed contents, and a document that is
-- either theirs or, as long as nothing was written, missing.
structure Durable (path : Path) (st : Scheduled) : Prop where
  path_kept : st.2.1.path = path
  formed : st.2.1.live.WellFormed
  document : st.2.1.Synced st.2.2 ∨ st.2.1.live = .empty ∧ st.2.2.readBytes path = .error .missing

theorem nullFree_error (call : Call) (e : StoreError) : nullFree.grants call (.error e) := by
  cases call <;> trivial

theorem failing_durable {path : Path} (call : Call) (st : Scheduled) (durable : Durable path st)
    (admitted : nullFree.admits call) :
    nullFree.grants call (failing call st).1 ∧ Durable path (failing call st).2 := by
  obtain ⟨failures,s,d⟩ := st
  obtain ⟨same,formed,document⟩ := durable
  let outcome := answer failures.head?.join call (s,d)
  have kept : outcome.2.1.path = path := (answer_path failures.head?.join call s d).trans same
  have after : outcome.2.1.Synced outcome.2.2 ∨
      outcome.2.1.live = .empty ∧ outcome.2.2.readBytes path = .error .missing := by
    rcases answer_document failures.head?.join call s d with new | ⟨unmoved,unchanged⟩
    · exact .inl new
    · rcases document with old | ⟨empty,missing⟩
      · exact .inl (answer_synced _ call old)
      · refine .inr ⟨by rw [unmoved]; exact empty,?_⟩
        rw [← same,unchanged,same]
        exact missing
  have settles : Settles call s d outcome := answer_settles failures.head?.join call s d
  have live : nullFree.grants call outcome.1 ∧ outcome.2.1.live.WellFormed := by
    cases answered : outcome.1 with
    | error e =>
      rw [(settles.refused e answered).1]
      exact ⟨nullFree_error call e,formed⟩
    | ok a =>
      obtain ⟨next,found,moved,-⟩ := settles.granted a answered
      rw [moved]
      exact ⟨Contents.answer_granted formed found,Contents.answer_wellFormed formed admitted found⟩
  exact ⟨live.1,kept,live.2,after⟩

theorem operate_durable {path : Path} {ops : List Operation} {st : Scheduled} (start : Durable path st)
    (read : ∀ op ∈ ops, op.FromJson) : Durable path (operate failing ops st) := by
  induction ops generalizing st with
  | nil => exact start
  | cons op rest ih =>
    have first := (operation_nullFree op (read op List.mem_cons_self)).run start failing_durable
    exact ih first.2 fun other member => read other (List.mem_cons_of_mem _ member)

theorem Durable.reopens {path : Path} {failures : List (Option CommitFailure)} {s : DocumentStore} {d : Disk}
    (durable : Durable path (failures,s,d)) (exact : (toTree s.live).Exact) :
    openAt path d = if (toTree s.live).depth ≤ 127 then .ok s else .error (.serialization .malformed) := by
  obtain ⟨same,formed,document⟩ := durable
  obtain ⟨path',live⟩ := s
  cases same
  rcases document with synced | ⟨empty,missing⟩
  · unfold Synced at synced
    simp only [openAt,synced]
    rw [decodeBytes_toUTF8,decode_encode formed exact]
    split <;> rfl
  · cases empty
    simp only [openAt,missing]
    rfl

-- Durability, as far as it goes: a store is opened where no document is, and the registries work on it in
-- any order and with any failures of the disk, with forms that were read from JSON. Opened again, it holds
-- what it holds now, exactly if no record of it nests more than 125 containers. A deeper record is written
-- without complaint, for a form of its own may nest 127, and the document is then refused as a whole.
theorem reopened_after_operations {path : Path} {d : Disk} (fresh : d.readBytes path = .error .missing)
    (failures : List (Option CommitFailure)) {ops : List Operation} (read : ∀ op ∈ ops, op.FromJson) :
    let last := operate failing ops (failures,⟨path,.empty⟩,d)
    let live := last.2.1.live
    (toTree live).Exact →
      openAt path d = .ok ⟨path,.empty⟩ ∧
      openAt path last.2.2 =
        if (∀ r ∈ live.models.values, (Codec.modelRecord.write r).depth ≤ 125) ∧
            ∀ c ∈ live.connections.values, (Codec.connection.write c).depth ≤ 125
        then .ok ⟨path,live⟩ else .error (.serialization .malformed) := by
  have start : Durable path (failures,⟨path,.empty⟩,d) := ⟨rfl,Contents.empty_wellFormed,.inr ⟨rfl,fresh⟩⟩
  intro last live exact
  have durable : Durable path last := operate_durable start read
  have store : last.2.1 = ⟨path,live⟩ := by rw [← durable.path_kept]
  refine ⟨by simp [openAt,fresh],?_⟩
  rw [← store]
  exact (durable.reopens exact).trans (if_congr (toTree_shallow _) rfl rfl)

def nested : Nat → Tree
  | 0 => .null
  | n + 1 => .array [nested n]

def deepForm : ModelForm := { id := "deep",name := "Deep",info := { extra := .ofList [("k",.ofTree (nested 123))] } }

def deepRun : List Operation :=
  [.createConnection { name := "local",kind := some .ollama,baseUrl := "http://h" } ⟨8,by decide⟩,
    .createModel (.admin "root") deepForm ⟨9,by decide⟩]

-- A form that nests 126 containers reads from its text and is stored beside a connection; the store does not
-- open again.
theorem deep_form_locks_store :
    let last := operate failing deepRun ([],⟨["s.json"],.empty⟩,.empty)
    Codec.modelForm.readText (Codec.modelForm.write deepForm).pretty = .ok deepForm ∧
      last.2.1.live.models.keys = ["deep"] ∧ last.2.1.live.connections.keys = [.first] ∧
      openAt ["s.json"] last.2.2 = .error (.serialization .malformed) := by
  intro last
  have text : Codec.modelForm.readText (Codec.modelForm.write deepForm).pretty = .ok deepForm :=
    Codec.modelForm_faithful.readText_pretty Codec.modelParams_default (by decide +kernel) (by decide +kernel)
  have read : ∀ op ∈ deepRun, op.FromJson := by
    intro op member
    rcases List.mem_cons.mp member with rfl | member
    · trivial
    · rw [List.mem_singleton.mp member]
      exact Codec.reads_text text
  have stored : last.2.1.live.models.keys = ["deep"] := by decide +kernel
  have connected : last.2.1.live.connections.keys = [.first] := by decide +kernel
  have exact : (toTree last.2.1.live).Exact := by decide +kernel
  have deep : ¬ ∀ r ∈ last.2.1.live.models.values, (Codec.modelRecord.write r).depth ≤ 125 := by decide +kernel
  have fresh : Disk.empty.readBytes ["s.json"] = .error .missing := rfl
  obtain ⟨-,reopened⟩ := reopened_after_operations fresh [] read exact
  refine ⟨text,stored,connected,?_⟩
  rw [reopened,if_neg fun both => deep both.1]

end ModelCatalog.Registry
